import DebugBridge.Proofs.Toml.Value
import DebugBridge.Toml.Codec

/-!
# Documents made of sections

A document that is written section by section, with the settings of each below its header and a
blank line between two sections, is read as the table of these sections. Every line moves the draft
of the document on by what it says, whatever follows it.
-/

namespace DebugBridge.Toml

open Scan

/-! ### Keys -/

section key
variable {name s : List Char}

theorem not_isBlank_of_isBareKey {c : Char} (bare : isBareKey c = true) : isBlank c = false := by
  simp [isBlank, ne_of_class bare (d := ' ') (by decide),
    ne_of_class bare (d := '\t') (by decide)]

theorem keyPart_bare (nonempty : name ≠ []) (bare : ∀ c ∈ name, isBareKey c = true)
    (next : ∀ c, s.head? = some c → isBareKey c = false) :
    keyPart (name ++ s) = some (name, s) := by
  have read := someWhile_append nonempty bare next
  rcases name with - | ⟨c, name⟩
  · exact absurd rfl nonempty
  · have first := bare c (.head name)
    have special : c ≠ '"' ∧ c ≠ '\'' := by
      refine ⟨?_, ?_⟩ <;> exact ne_of_class first (by decide)
    rw [keyPart, bind_some peek_apply]
    simpa [special] using read

/-- A key ends at blanks or at a character that belongs to no key. -/
theorem key_bare (nonempty : name ≠ []) (bare : ∀ c ∈ name, isBareKey c = true) {gap : List Char}
    (blank : ∀ c ∈ gap, isBlank c = true) {mark : Char} (visible : isBlank mark = false)
    (dot : mark ≠ '.') (other : isBareKey mark = false) :
    key (name ++ (gap ++ mark :: s)) = some (([], name), mark :: s) := by
  have front : blanks (name ++ (gap ++ mark :: s)) = some ((), name ++ (gap ++ mark :: s)) := by
    obtain ⟨c, t, rfl⟩ := List.exists_cons_of_ne_nil nonempty
    exact blanks_visible (not_isBlank_of_isBareKey (bare c (.head t)))
  have next : ∀ c, (gap ++ mark :: s).head? = some c → isBareKey c = false := fun c first => by
    rcases gap with - | ⟨d, gap⟩
    · obtain rfl : mark = c := by simpa using first
      exact other
    · obtain rfl : d = c := by simpa using first
      have : d = ' ' ∨ d = '\t' := by simpa [isBlank] using blank d (.head gap)
      rcases this with rfl | rfl <;> decide
  have behind : blanks (gap ++ mark :: s) = some ((), mark :: s) :=
    blanks_append blank fun c first => by
      obtain rfl : mark = c := by simpa using first
      exact visible
  have part : spacedKeyPart (name ++ (gap ++ mark :: s)) = some (name, mark :: s) := by
    rw [spacedKeyPart, bind_some front, bind_some (keyPart_bare nonempty bare next),
      bind_some behind]
    rfl
  have single : (do char '.'; spacedKeyPart : Scan (List Char)) (mark :: s) = none :=
    bind_none (char_none (by simpa using dot)) _
  rw [key, bind_some part, bind_some (many_none single)]
  rfl

end key

/-! ### Lines -/

/-- Reading these characters, which are whole lines, moves a draft on to another one and leaves
enough fuel for what follows. -/
def Moves (d : Draft) (w : List Char) (d' : Draft) : Prop :=
  ∀ (rest : List Char) (fuel : Nat), (w ++ rest).length ≤ fuel →
    ∃ left, rest.length ≤ left ∧ linesWith fuel d (w ++ rest) = linesWith left d' rest

theorem Moves.refl (d : Draft) : Moves d [] d := fun _ fuel enough => ⟨fuel, enough, rfl⟩

theorem Moves.trans {d e f : Draft} {w v : List Char} (first : Moves d w e) (second : Moves e v f) :
    Moves d (w ++ v) f := fun rest fuel enough => by
  rw [List.append_assoc] at enough ⊢
  obtain ⟨middle, enough, eq⟩ := first (v ++ rest) fuel enough
  obtain ⟨left, enough, eq'⟩ := second rest middle enough
  exact ⟨left, enough, eq.trans eq'⟩

theorem Moves.line {d d' : Draft} {w : List Char} (nonempty : w ≠ [])
    (read : ∀ rest, line d (w ++ rest) = some (d', rest)) : Moves d w d' :=
  fun rest fuel enough => by
    rcases w with - | ⟨c, w⟩
    · exact absurd rfl nonempty
    · rcases fuel with - | fuel
      · simp at enough
      · refine ⟨fuel, by simp at enough; omega, ?_⟩
        rw [List.cons_append, linesWith, ← List.cons_append, read rest, Option.bind_some]
        · exact List.cons_ne_nil _ _

theorem Moves.parse {d : Draft} {w : List Char} (moves : Moves {} w d)
    (mark : w.head? ≠ some byteOrderMark) : parse (String.ofList w) = some d.entries := by
  have unmarked : dropMark w = w := by
    rcases w with - | ⟨c, w⟩
    · rfl
    · exact if_neg fun same => mark (by rw [same]; rfl)
  obtain ⟨left, -, eq⟩ := moves [] w.length (by simp)
  rw [List.append_nil] at eq
  have finished : linesWith left d [] = some d := by cases left <;> rfl
  rw [Toml.parse, String.toList_ofList, unmarked, eq, finished, Option.map_some]

/-- A blank line changes nothing. -/
theorem moves_blank (d : Draft) : Moves d ['\n'] d := by
  refine .line (by simp) fun rest => ?_
  rw [List.singleton_append, line, bind_some (blanks_visible (by decide)), bind_some peek_apply]
  rfl

theorem accept_some {d? : Option Draft} {d : Draft} (ok : d? = some d) (s : List Char) :
    accept d? s = some (d, s) := by
  rw [ok]
  rfl

theorem header_bare {d d' : Draft} {name : String} (bare : IsBare name)
    (begun : d.begin [] name.toList = some d') (rest : List Char) :
    header d ('[' :: (name.toList ++ ([] ++ ']' :: '\n' :: rest))) = some (d', rest) := by
  obtain ⟨nonempty, inside⟩ := bare
  have single : (name.toList ++ ([] ++ ']' :: '\n' :: rest)).head? ≠ some '[' := by
    obtain ⟨c, k, eq⟩ := List.exists_cons_of_ne_nil nonempty
    have first : isBareKey c = true := inside c (by rw [eq]; exact .head k)
    rw [eq]
    simpa using ne_of_class first (d := '[') (by decide)
  have read : key (name.toList ++ ([] ++ ']' :: '\n' :: rest)) =
      some (([], name.toList), ']' :: '\n' :: rest) :=
    key_bare nonempty inside (by simp) (by decide) (by decide) (by decide)
  rw [header, bind_some (char_cons _), bind_some peek_apply, if_neg single, bind_some read]
  change (char ']' >>= _) _ = _
  rw [bind_some (char_cons _), bind_some trailing_newline]
  exact accept_some begun rest

/-- The line of a header begins a table, if the draft allows it. -/
theorem moves_header {d d' : Draft} {name : String} (bare : IsBare name)
    (begun : d.begin [] name.toList = some d') : Moves d (Writer.header name) d' := by
  refine .line (by simp [Writer.header]) fun rest => ?_
  have text : Writer.header name ++ rest =
      '[' :: (name.toList ++ ([] ++ ']' :: '\n' :: rest)) := by
    simp [Writer.header]
  rw [text, line, bind_some (blanks_visible (by decide)), bind_some peek_apply]
  exact header_bare bare begun rest

theorem pair_bare {d d' : Draft} {k w : List Char} {v : Node} (nonempty : k ≠ [])
    (bare : ∀ c ∈ k, isBareKey c = true) (stands : Stands w v) (added : d.add [] k v = some d')
    (rest : List Char) :
    pair d (k ++ ([' '] ++ '=' :: ([' '] ++ (w ++ '\n' :: rest)))) = some (d', rest) := by
  have read : key (k ++ ([' '] ++ '=' :: ([' '] ++ (w ++ '\n' :: rest)))) =
      some (([], k), '=' :: ([' '] ++ (w ++ '\n' :: rest))) :=
    key_bare nonempty bare (by simp [isBlank]) (by decide) (by decide) (by decide)
  have behind : blanks ([' '] ++ (w ++ '\n' :: rest)) = some ((), w ++ '\n' :: rest) :=
    blanks_append (by simp [isBlank]) fun c first => by
      obtain ⟨e, t, rfl⟩ := List.exists_cons_of_ne_nil stands.nonempty
      exact stands.visible c first
  rw [pair, bind_some read]
  change (char '=' >>= _) _ = _
  rw [bind_some (char_cons _), bind_some behind, bind_some (stands.value rest),
    bind_some trailing_newline]
  exact accept_some added rest

/-- The line of a setting adds its value, if the draft allows it. -/
theorem moves_setting {d d' : Draft} {s : Setting} (bare : IsBare s.key)
    (writable : s.value.isWritable = true)
    (added : d.add [] s.key.toList s.value.node = some d') : Moves d (Writer.line s) d' := by
  have stands := stands_value writable
  refine .line (by simp [Writer.line]) fun rest => ?_
  have text : Writer.line s ++ rest =
      s.key.toList ++ ([' '] ++ '=' :: ([' '] ++ (Writer.value s.value ++ '\n' :: rest))) := by
    simp [Writer.line]
  have whole := pair_bare bare.1 bare.2 stands added rest
  obtain ⟨c, k, eq⟩ := List.exists_cons_of_ne_nil bare.1
  have first : isBareKey c = true := bare.2 c (by rw [eq]; exact .head k)
  have special : c ≠ '#' ∧ c ≠ '[' ∧ c ≠ '\n' ∧ c ≠ '\r' := by
    refine ⟨?_, ?_, ?_, ?_⟩ <;> exact ne_of_class first (by decide)
  rw [eq] at text whole
  rw [text, List.cons_append, line,
    bind_some (blanks_visible (not_isBlank_of_isBareKey first)), bind_some peek_apply]
  simpa [special] using whole

/-! ### Sections -/

namespace Entries

variable {es : Entries} {k : List Char} {v w : Node}

theorem find?_eq_none : find? k es = none ↔ k ∉ es.map (·.1) := by
  induction es with
  | nil => simp [find?]
  | cons e es ih =>
    by_cases same : e.1 = k
    · simp [find?, same]
    · simp [find?, same, ih, Ne.symm same]

theorem find?_append_new (new : find? k es = none) (more : Entries) :
    find? k (es ++ more) = find? k more := by
  induction es with
  | nil => rfl
  | cons e es ih =>
    by_cases same : e.1 = k
    · simp [find?, same] at new
    · simp only [find?, same, if_false] at new
      simp [find?, same, ih new]

theorem replace_append_new (new : find? k es = none) :
    replace k w (es ++ [(k, v)]) = es ++ [(k, w)] := by
  induction es with
  | nil => simp [replace]
  | cons e es ih =>
    by_cases same : e.1 = k
    · simp [find?, same] at new
    · simp only [find?, same, if_false] at new
      simp [replace, same, ih new]

end Entries

/-- A draft in its last section, with the settings read so far. -/
def inSection (es : Entries) (name : List Char) (settings : Entries) : Draft :=
  ⟨es ++ [(name, .table .defined settings)], [name]⟩

theorem begin_new {es : Entries} {name : List Char} (new : Entries.find? name es = none)
    (current : List (List Char)) :
    Draft.begin ⟨es, current⟩ [] name = some (inSection es name []) := by
  simp [Draft.begin, Entries.define, Entries.alter, new, inSection]

theorem add_new {es settings : Entries} {name key : List Char}
    (named : Entries.find? name es = none) (new : Entries.find? key settings = none)
    (v : Node) :
    (inSection es name settings).add [] key v =
      some (inSection es name (settings ++ [(key, v)])) := by
  have here : Entries.find? name (es ++ [(name, .table .defined settings)]) =
      some (.table .defined settings) := by
    rw [Entries.find?_append_new named]
    exact if_pos rfl
  have inserted : Entries.insert [] key v settings = some (settings ++ [(key, v)]) := by
    simp [Entries.insert, Entries.alter, new]
  simp [Draft.add, inSection, Entries.alter, here, Entries.Way.enters, inserted,
    Entries.replace_append_new named]

/-- The lines of settings add them one by one, if no key is there yet. -/
theorem moves_settings {es : Entries} {name : List Char} (new : Entries.find? name es = none)
    {settings : List Setting} (keys : ∀ s ∈ settings, IsBare s.key)
    (values : ∀ s ∈ settings, s.value.isWritable = true) {before : Entries}
    (distinct : (before.map (·.1) ++ settings.map (·.key.toList)).Nodup) :
    Moves (inSection es name before) (settings.flatMap Writer.line)
      (inSection es name (before ++ settings.map Setting.entry)) := by
  -- By induction on the settings that are left; `before` grows with every line.
  induction settings generalizing before with
  | nil => simpa using Moves.refl _
  | cons s settings ih =>
    obtain ⟨bare, keys⟩ := List.forall_mem_cons.mp keys
    obtain ⟨writable, values⟩ := List.forall_mem_cons.mp values
    have fresh : Entries.find? s.key.toList before = none := Entries.find?_eq_none.mpr fun mem =>
      (List.nodup_append.mp distinct).2.2 _ mem _ (.head _) rfl
    have first := moves_setting bare writable (add_new new fresh s.value.node)
    have rest : Moves (inSection es name (before ++ [s.entry])) _ _ :=
      ih keys values (by simpa [Setting.entry] using distinct)
    simpa using first.trans rest

theorem nodup_toList {α : Type} {xs : List α} {name : α → String} (distinct : (xs.map name).Nodup) :
    (xs.map fun x => (name x).toList).Nodup := by
  rw [← Function.comp_def String.toList name, ← List.map_map]
  exact List.Pairwise.map String.toList (fun _ _ => mt String.toList_injective) distinct

theorem moves_part {es : Entries} {p : Part} (named : p.WellNamed) (writable : p.isWritable = true)
    (new : Entries.find? p.name.toList es = none) (current : List (List Char)) :
    Moves ⟨es, current⟩ (Writer.lines p) ⟨es ++ [p.entry], [p.name.toList]⟩ := by
  have first := moves_header named.name (begin_new new current)
  have rest : Moves (inSection es p.name.toList []) _ _ :=
    moves_settings new named.keys (List.all_eq_true.mp writable)
      (by simpa using nodup_toList named.distinct)
  simpa [Writer.lines, Part.entry, Part.table, inSection] using first.trans rest

theorem moves_parts {es : Entries} {parts : List Part} (named : ∀ p ∈ parts, p.WellNamed)
    (writable : ∀ p ∈ parts, p.isWritable = true)
    (distinct : (es.map (·.1) ++ parts.map (·.name.toList)).Nodup) (current : List (List Char)) :
    ∃ current', Moves ⟨es, current⟩ (parts.flatMap fun p => '\n' :: Writer.lines p)
      ⟨es ++ parts.map Part.entry, current'⟩ := by
  induction parts generalizing es current with
  | nil => exact ⟨current, by simpa using Moves.refl _⟩
  | cons p parts ih =>
    obtain ⟨first, named⟩ := List.forall_mem_cons.mp named
    obtain ⟨fits, writable⟩ := List.forall_mem_cons.mp writable
    have new : Entries.find? p.name.toList es = none := Entries.find?_eq_none.mpr fun mem =>
      (List.nodup_append.mp distinct).2.2 _ mem _ (.head _) rfl
    obtain ⟨current', rest⟩ :
        ∃ current', Moves ⟨es ++ [p.entry], [p.name.toList]⟩ _ ⟨_, current'⟩ :=
      ih named writable (by simpa [Part.entry] using distinct) [p.name.toList]
    have moves :=
      (moves_blank ⟨es, current⟩).trans ((moves_part first fits new current).trans rest)
    exact ⟨current', by simpa using moves⟩

/-- A document of sections with different names is read as the table of these sections. -/
theorem parse_document {parts : List Part} (named : WellNamed parts)
    (writable : parts.all (·.isWritable) = true) :
    parse (String.ofList (Writer.document parts)) = some (parts.map Part.entry) := by
  obtain ⟨each, distinct⟩ := named
  have writable := List.all_eq_true.mp writable
  rcases parts with - | ⟨p, parts⟩
  · exact Moves.parse (.refl {}) (by simp)
  · obtain ⟨first, each⟩ := List.forall_mem_cons.mp each
    obtain ⟨fits, writable⟩ := List.forall_mem_cons.mp writable
    have one : Moves ⟨[], []⟩ (Writer.lines p) _ := moves_part first fits rfl []
    obtain ⟨current, rest⟩ : ∃ current, Moves ⟨[p.entry], [p.name.toList]⟩ _ ⟨_, current⟩ :=
      moves_parts each writable (by simpa [Part.entry] using nodup_toList distinct) [p.name.toList]
    have moves := Moves.parse (one.trans rest)
      (by simp [Writer.lines, Writer.header, byteOrderMark])
    simpa [Writer.document] using moves

theorem faithful_codec : codec.Faithful where
  recovers parts named writable :=
    ⟨String.ofList (Writer.document parts), if_pos writable, parse_document named writable⟩
  refuses parts named tooLarge := if_neg (by rw [tooLarge]; decide)

/-- A setting is found under its key. -/
theorem find?_settings (key : String) (settings : List Setting) :
    Entries.find? key.toList (settings.map Setting.entry) =
      (settings.find? (·.key = key)).map (·.value.node) := by
  induction settings with
  | nil => rfl
  | cons s settings ih =>
    by_cases same : s.key = key <;>
      simp [Entries.find?, Setting.entry, String.toList_inj, same, ← ih]

/-- A section is found under its name. -/
theorem find?_parts (name : String) (parts : List Part) :
    Entries.find? name.toList (parts.map Part.entry) =
      (parts.find? (·.name = name)).map Part.table := by
  induction parts with
  | nil => rfl
  | cons p parts ih =>
    by_cases same : p.name = name <;>
      simp [Entries.find?, Part.entry, String.toList_inj, same, ← ih]

end DebugBridge.Toml
