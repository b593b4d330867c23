import DebugBridge.Proofs.Device.Selection
import Mathlib.Data.List.Forall2

/-!
# Selections one after another

A selection takes at most one device out of the listing, and it marks all others afresh. So over any
number of selections no device is lost or doubled, and the order in which the devices are listed has
no influence on which of them are taken and what is said of the others.
-/

namespace DebugBridge.Selection

def unmarked (d : Device) : Device := { d with selected := false }

def Round.taken (r : Round) : List Device := r.result.toOption.toList

def leftBy (devices : List Device) (rs : List Round) : List Device :=
  (rs.getLast?.map (·.after)).getD devices

/-- The same result on two listings of the same devices: what depends on the order of the listing
may differ in its order. -/
inductive Alike : Except SelectionError Device → Except SelectionError Device → Prop
  | chosen (d : Device) : Alike (.ok d) (.ok d)
  | notFound (selector : Selector) {ds es : List Device} (same : ds.Perm es) :
    Alike (.error (.notFound selector ds)) (.error (.notFound selector es))
  | ambiguous (selector : Selector) {ds es : List Device} (same : ds.Perm es) :
    Alike (.error (.ambiguous selector ds)) (.error (.ambiguous selector es))
  | unauthorized (serial : String) :
    Alike (.error (.unauthorized serial)) (.error (.unauthorized serial))
  | badState (serial state : String) :
    Alike (.error (.badState serial state)) (.error (.badState serial state))

/-- Two rounds on listings of the same devices that go the same way. -/
structure Round.Agrees (r s : Round) : Prop where
  selector : r.selector = s.selector
  result : Alike r.result s.result
  after : r.after.Perm s.after

theorem unmarked_mark (selector : Selector) (devices : List Device) :
    (mark selector devices).map unmarked = devices.map unmarked := by
  simp [mark, unmarked]

theorem selected_of_mem_mark {selector : Selector} {devices : List Device} {d : Device}
    (mem : d ∈ mark selector devices) : d.selected = decide (selector.Means d) := by
  rw [mark_eq] at mem
  obtain ⟨e, -, rfl⟩ := List.mem_map.mp mem
  cases selector <;> rfl

/-! ### One selection -/

/-- What a selection makes of a listing: one device is taken out of it, or none. -/
inductive Took (selector : Selector) (devices : List Device) :
    Except SelectionError Device → List Device → Prop
  | one (before after : List Device) (d : Device) (shape : devices = before ++ d :: after)
    (others : ∀ e ∈ before ++ after, selector.accepts e = false) :
    Took selector devices (.ok { d with selected := true }) (mark selector (before ++ after))
  | none (e : SelectionError) : Took selector devices (.error e) (mark selector devices)

theorem select_took (devices : List Device) (selector : Selector) :
    Took selector devices (select devices selector).1 (select devices selector).2 := by
  cases matching : devices.filter selector.accepts with
  | nil =>
    rw [select_of_none matching]
    exact .none _
  | cons d rest =>
    cases rest with
    | nil =>
      obtain ⟨before, after, shape, accepted, others⟩ := filter_eq_singleton.mp matching
      rw [shape, select_of_one accepted others, ← shape]
      cases vetted : vet { d with selected := true } with
      | error e => exact .none e
      | ok chosen =>
        obtain rfl := (vet_ok.mp vetted).2
        exact .one before after d shape others
    | cons _ _ =>
      rw [select_of_several (by simp [matching])]
      exact .none _

section took
variable {selector : Selector} {devices left : List Device} {result : Except SelectionError Device}

theorem Took.conserved (took : Took selector devices result left) :
    ((result.toOption.toList ++ left).map unmarked).Perm (devices.map unmarked) := by
  cases took with
  | none => simp [Except.toOption, unmarked_mark]
  | one before after d shape =>
    subst shape
    have middle : (unmarked d :: (before.map unmarked ++ after.map unmarked)).Perm
        (before.map unmarked ++ unmarked d :: after.map unmarked) := List.perm_middle.symm
    simpa [Except.toOption, unmarked_mark, unmarked] using middle

theorem Took.ordered (took : Took selector devices result left) :
    (left.map unmarked).Sublist (devices.map unmarked) := by
  cases took with
  | none => rw [unmarked_mark]
  | one before after d shape =>
    subst shape
    rw [unmarked_mark]
    exact ((List.sublist_cons_self d after).append_left before).map unmarked

theorem Took.marked (took : Took selector devices result left) {d : Device} (mem : d ∈ left) :
    d.selected = decide (selector.Means d) := by
  cases took <;> exact selected_of_mem_mark mem

theorem Took.cleared {chosen : Device} (took : Took selector devices (.ok chosen) left)
    {d : Device} (mem : d ∈ left) : d.selected = false := by
  cases took with
  | one before after _ _ others =>
    rw [mark_others others] at mem
    obtain ⟨e, -, rfl⟩ := List.mem_map.mp mem
    rfl

end took

theorem alike_vet (d : Device) : Alike (vet d) (vet d) := by
  cases e : vet d with
  | ok d' => exact .chosen d'
  | error cause =>
    unfold vet at e
    split at e
    · obtain rfl := Except.error.inj e
      exact .unauthorized _
    · split at e
      · cases e
      · obtain rfl := Except.error.inj e
        exact .badState _ _

/-- The order of a listing has no influence on a selection. -/
theorem select_perm {devices shuffled : List Device} (perm : devices.Perm shuffled)
    (selector : Selector) :
    Alike (select devices selector).1 (select shuffled selector).1 ∧
      (select devices selector).2.Perm (select shuffled selector).2 := by
  have matched : (devices.filter selector.accepts).Perm (shuffled.filter selector.accepts) :=
    perm.filter selector.accepts
  have marks : (mark selector devices).Perm (mark selector shuffled) := perm.map _
  cases matching : devices.filter selector.accepts with
  | nil =>
    have none : shuffled.filter selector.accepts = [] := by
      rw [matching] at matched
      exact List.nil_perm.mp matched
    rw [select_of_none matching, select_of_none none]
    exact ⟨.notFound selector marks, marks⟩
  | cons d rest =>
    cases rest with
    | nil =>
      have alone : shuffled.filter selector.accepts = [d] := by
        rw [matching] at matched
        exact (List.singleton_perm.mp matched).symm
      obtain ⟨before, after, rfl, accepted, others⟩ := filter_eq_singleton.mp matching
      obtain ⟨before', after', rfl, -, others'⟩ := filter_eq_singleton.mp alone
      have rest : (mark selector (before ++ after)).Perm (mark selector (before' ++ after')) :=
        (List.perm_cons d |>.mp
          (List.perm_middle.symm.trans (perm.trans List.perm_middle))).map _
      rw [select_of_one accepted others, select_of_one accepted others']
      have vetted := alike_vet { d with selected := true }
      cases e : vet { d with selected := true } <;> rw [e] at vetted
      · exact ⟨vetted, marks⟩
      · exact ⟨vetted, rest⟩
    | cons _ _ =>
      have several : 2 ≤ (devices.filter selector.accepts).length := by simp [matching]
      rw [select_of_several several, select_of_several (matched.length_eq ▸ several)]
      exact ⟨.ambiguous selector (matched.map _), marks⟩

/-! ### Any number of selections -/

theorem rounds_cons (devices : List Device) (selector : Selector) (rest : List Selector) :
    rounds devices (selector :: rest) =
      ⟨selector, devices, (select devices selector).1, (select devices selector).2⟩ ::
        rounds (select devices selector).2 rest := rfl

theorem leftBy_cons (devices : List Device) (r : Round) (rs : List Round) :
    leftBy devices (r :: rs) = leftBy r.after rs := by
  cases last : rs.getLast? <;> simp [leftBy, List.getLast?_cons, last]

theorem rounds_selectors (devices : List Device) (selectors : List Selector) :
    (rounds devices selectors).map (·.selector) = selectors := by
  induction selectors generalizing devices with
  | nil => rfl
  | cons selector rest ih => exact congrArg (selector :: ·) (ih _)

/-- Every round is a selection. -/
theorem took_of_mem_rounds {devices : List Device} {selectors : List Selector} {r : Round}
    (mem : r ∈ rounds devices selectors) : Took r.selector r.before r.result r.after := by
  induction selectors generalizing devices with
  | nil => cases mem
  | cons selector rest ih =>
    rcases List.mem_cons.mp (rounds_cons devices selector rest ▸ mem) with rfl | later
    · exact select_took devices selector
    · exact ih later

theorem rounds_conserved (devices : List Device) (selectors : List Selector) :
    (((rounds devices selectors).flatMap Round.taken ++
        leftBy devices (rounds devices selectors)).map unmarked).Perm (devices.map unmarked) := by
  induction selectors generalizing devices with
  | nil => exact List.Perm.refl _
  | cons selector rest ih =>
    have first := (select_took devices selector).conserved
    have later := ih (select devices selector).2
    rw [rounds_cons, leftBy_cons, List.flatMap_cons, List.append_assoc, List.map_append]
    rw [List.map_append] at first
    exact (later.append_left _).trans first

theorem rounds_ordered (devices : List Device) (selectors : List Selector) :
    ((leftBy devices (rounds devices selectors)).map unmarked).Sublist
      (devices.map unmarked) := by
  induction selectors generalizing devices with
  | nil => exact List.Sublist.refl _
  | cons selector rest ih =>
    rw [rounds_cons, leftBy_cons]
    exact (ih _).trans (select_took devices selector).ordered

theorem rounds_agree {devices shuffled : List Device} (perm : devices.Perm shuffled)
    (selectors : List Selector) :
    List.Forall₂ Round.Agrees (rounds devices selectors) (rounds shuffled selectors) := by
  induction selectors generalizing devices shuffled with
  | nil => exact .nil
  | cons selector rest ih =>
    obtain ⟨alike, left⟩ := select_perm perm selector
    exact .cons ⟨rfl, alike, left⟩ (ih left)

/-- Over any number of selections the devices that are taken and those that are left are those of
the listing, and the ones left keep their order. Every selection marks what it leaves by its own
selector. On the same devices in another order every selection goes the same way. -/
theorem rounds_faithful {devices shuffled : List Device} (perm : devices.Perm shuffled)
    (selectors : List Selector) :
    let rs := rounds devices selectors
    rs.map (·.selector) = selectors ∧
      ((rs.flatMap Round.taken ++ leftBy devices rs).map unmarked).Perm (devices.map unmarked) ∧
      ((leftBy devices rs).map unmarked).Sublist (devices.map unmarked) ∧
      (∀ r ∈ rs, ∀ d ∈ r.after, d.selected = decide (r.selector.Means d)) ∧
      (∀ r ∈ rs, ∀ chosen, r.result = .ok chosen → ∀ d ∈ r.after, d.selected = false) ∧
      List.Forall₂ Round.Agrees rs (rounds shuffled selectors) := by
  refine ⟨rounds_selectors devices selectors, rounds_conserved devices selectors,
    rounds_ordered devices selectors, fun r mem d left => ?_, fun r mem chosen ok d left => ?_,
    rounds_agree perm selectors⟩
  · exact (took_of_mem_rounds mem).marked left
  · have took := took_of_mem_rounds mem
    rw [ok] at took
    exact took.cleared left

/-- Two devices of one serial and one that is not ready, in either order. -/
theorem rounds_faithful_twins :
    let listing : List Device := [⟨"0123", "device", none, true⟩,
      ⟨"10.0.0.5:5555", "offline", none, false⟩, ⟨"0123", "device", some "Pixel", false⟩,
      ⟨"emulator-5554", "device", none, true⟩]
    let selectors : List Selector := [.usb, .serial "emulator-5554", .tcpip, .any]
    listing.Perm listing.reverse ∧
      ((rounds listing selectors).flatMap Round.taken).length = 1 ∧
      List.Forall₂ Round.Agrees (rounds listing selectors) (rounds listing.reverse selectors) := by
  intro listing selectors
  have perm : listing.Perm listing.reverse := (List.reverse_perm listing).symm
  exact ⟨perm, by decide +kernel, (rounds_faithful perm selectors).2.2.2.2.2⟩

end DebugBridge.Selection
