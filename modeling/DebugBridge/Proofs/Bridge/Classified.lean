import DebugBridge.Proofs.Bridge.Request
import DebugBridge.Proofs.Text.Plain

/-!
# What a query returns

Nobody interrupts a query and its child ends by itself. Then what the query returns depends on what
the child has written, on whether reading failed after that, and on how the child ended. A table is
never cut short: one that is too large is an error. Of a single value only the head is looked at.
-/

namespace DebugBridge

open Host

def Output.ended (bytes : List UInt8) (fault? : Option Fault) : Output where
  bytes := bytes
  ending := fault?.elim .closed .broken

/-- The result of a command whose output counts only as a whole. -/
def wholeResult {α : Type} (command : String) (limit : Nat) (read : String → α)
    (bytes : List UInt8) (fault? : Option Fault) (o : Outcome) : Except BridgeError α :=
  if limit < bytes.length then .error (.captureOverflow command limit)
  else match fault? with
    | some cause => .error (.io command cause)
    | none => (verdict command o).map fun _ => read (Utf8.decode bytes)

/-- The result of a command whose answer is found in the head of its output. -/
def headResult {α : Type} (command : String) (answer : Except BridgeError α)
    (fault? : Option Fault) (o : Outcome) : Except BridgeError α :=
  match fault? with
  | some cause => .error (.io command cause)
  | none => verdict command o >>= fun _ => answer

def Query.classified : (q : Query) → List UInt8 → Option Fault → Outcome →
    Except BridgeError q.Value
  | .devices, bytes, fault?, o => wholeResult "devices" 65536 Listing.devices bytes fault? o
  | .route _, bytes, fault?, o => wholeResult "ip route" 4096 Route.address? bytes fault? o
  | .property .., bytes, fault?, o =>
    headResult "getprop" (.ok (Text.firstToken (Utf8.decode (bytes.take 128)))) fault? o
  | .serialNumber, bytes, fault?, o =>
    headResult "get-serialno" (.ok (Text.firstToken (Utf8.decode (bytes.take 128)))) fault? o
  | .connect address, bytes, fault?, o =>
    headResult "connect"
      (if Utf8.encode "connected" <+: bytes then .ok ()
        else .error (.connectRejected address (Text.firstLine (Utf8.decode (bytes.take 128)))))
      fault? o

/-- The error of a command whose output was not read to its end. -/
def BridgeError.IsUnread (e : BridgeError) : Prop :=
  (∃ command limit, e = .captureOverflow command limit) ∨ ∃ command cause, e = .io command cause

section captured
variable (q : Query) (bytes : List UInt8) (fault? : Option Fault)

theorem visible_ended (limit : Nat) : (Output.ended bytes fault?).visible limit = bytes := by
  cases fault? <;> rfl

theorem result_ended : (Output.ended bytes fault?).ending.result = fault?.elim (.ok ()) .error := by
  cases fault? <;> rfl

/-- Where the head is enough, the head is captured, however long the output is. -/
theorem captured_cut (cut : q.excess = .cut) :
    captured q (.ended bytes fault?) =
      fault?.elim (.ok (.complete (bytes.take q.limit))) .error := by
  unfold captured
  rw [visible_ended, cut]
  obtain lt | le := Nat.lt_or_ge q.limit bytes.length
  · rw [readBounded_of_lt lt]
    simp only [result_ended]
    cases fault? <;> rfl
  · rw [readBounded_of_le le, List.take_of_length_le le]
    simp only [result_ended]
    cases fault? <;> rfl

/-- Where only the whole counts, more than the limit is an overflow, whatever comes after it. -/
theorem captured_refuse (refuse : q.excess = .refuse) :
    captured q (.ended bytes fault?) =
      if q.limit < bytes.length then .ok (.overflow (bytes.take q.limit))
      else fault?.elim (.ok (.complete bytes)) .error := by
  unfold captured
  rw [visible_ended, refuse]
  split_ifs with lt
  · rw [readBounded_of_lt lt]
  · rw [readBounded_of_le (Nat.le_of_not_lt lt)]
    simp only [result_ended]
    cases fault? <;> rfl

end captured

/-- A decoded text begins with the announcement of a connection exactly if the bytes do. -/
theorem isPrefixOf_connected_iff (bytes : List UInt8) :
    Bridge.connectedAnswer.toList.isPrefixOf (Utf8.decode bytes).toList = true ↔
      Utf8.encode "connected" <+: bytes := by
  have plain : ∀ c ∈ Bridge.connectedAnswer.toList, Utf8.IsPlain c := by
    simp [Bridge.connectedAnswer, Utf8.IsPlain]
  have word : Bridge.connectedAnswer.toList.map Utf8.plainByte = Utf8.encode "connected" := by
    decide +kernel
  rw [List.isPrefixOf_iff_prefix, Utf8.isPrefix_decode_iff plain, word]

/-- The announcement fits into the head. -/
theorem begins_connected_iff (bytes : List UInt8) :
    Bridge.connectedAnswer.toList.isPrefixOf (Utf8.decode (bytes.take 128)).toList = true ↔
      Utf8.encode "connected" <+: bytes := by
  have short : (Utf8.encode "connected").length ≤ 128 := by decide +kernel
  rw [isPrefixOf_connected_iff, List.prefix_take_iff]
  exact and_iff_left short

section classified
variable (q : Query) (bytes : List UInt8) (fault? : Option Fault) (o : Outcome)

/-- What is made of a captured output is what the query is said to return. -/
theorem result_classified :
    (Request.ask q).result (.ended bytes fault?) o = q.classified bytes fault? o := by
  change answered q o (captured q (.ended bytes fault?)) >>= q.read = _
  have cutting (cut : q.excess = .cut) :
      answered q o (captured q (.ended bytes fault?)) >>= q.read =
      headResult q.name (q.read (Utf8.decode (bytes.take q.limit))) fault? o := by
    rw [captured_cut q bytes fault? cut]
    cases fault? with
    | some cause => rfl
    | none =>
      simp only [Option.elim_none, answered, headResult]
      cases verdict q.name o <;> rfl
  have refusing (refuse : q.excess = .refuse) {read : String → q.Value}
      (reads : ∀ text, q.read text = .ok (read text)) :
      answered q o (captured q (.ended bytes fault?)) >>= q.read =
        wholeResult q.name q.limit read bytes fault? o := by
    rw [captured_refuse q bytes fault? refuse]
    unfold wholeResult
    split_ifs with lt
    · rfl
    · cases fault? with
      | some cause => rfl
      | none =>
        simp only [Option.elim_none, answered]
        cases verdict q.name o with
        | error e => rfl
        | ok _ => exact reads _
  cases q with
  | connect address =>
    refine (cutting rfl).trans ?_
    have meaning : (Query.connect address).read (Utf8.decode (bytes.take 128)) =
        if Utf8.encode "connected" <+: bytes then .ok ()
        else .error (.connectRejected address (Text.firstLine (Utf8.decode (bytes.take 128)))) := by
      simp only [read_connect, begins_connected_iff]
    exact congrArg (headResult "connect" · fault? o) meaning
  | property serial name => exact cutting rfl
  | serialNumber => exact cutting rfl
  | devices => exact refusing rfl fun _ => rfl
  | route serial => exact refusing rfl fun _ => rfl

end classified

theorem not_isUnread_of_verdict {command : String} {o : Outcome} {e : BridgeError}
    (failed : verdict command o = .error e) : ¬ e.IsUnread := by
  rintro (⟨_, _, rfl⟩ | ⟨_, _, rfl⟩) <;> unfold verdict at failed <;> split at failed <;>
    (try split at failed) <;> simp at failed

theorem not_isUnread_of_read {q : Query} {text : String} {e : BridgeError}
    (failed : q.read text = .error e) : ¬ e.IsUnread := by
  cases q with
  | connect address =>
    rw [read_connect] at failed
    split at failed
    · cases failed
    · obtain rfl := Except.error.inj failed
      simp [BridgeError.IsUnread]
  | property serial name => cases failed
  | serialNumber => cases failed
  | devices => cases failed
  | route serial => cases failed

/-- The rest of an output is left unread exactly if the result says so. -/
theorem isUnfinished_iff (q : Query) (o : Outcome) (capture : Except Fault Capture) :
    isUnfinished capture = true ↔
      ∃ e, answered q o capture >>= q.read = .error e ∧ e.IsUnread := by
  cases capture with
  | error cause => exact ⟨fun _ => ⟨_, rfl, .inr ⟨_, _, rfl⟩⟩, fun _ => rfl⟩
  | ok capture =>
    cases capture with
    | overflow head => exact ⟨fun _ => ⟨_, rfl, .inl ⟨_, _, rfl⟩⟩, fun _ => rfl⟩
    | complete bytes =>
      constructor
      · intro unfinished
        cases unfinished
      rintro ⟨e, failed, unread⟩
      exfalso
      cases judged : verdict q.name o with
      | error e' =>
        simp only [answered, judged] at failed
        obtain rfl := Except.error.inj failed
        exact not_isUnread_of_verdict judged unread
      | ok _ =>
        simp only [answered, judged] at failed
        exact not_isUnread_of_read failed unread

/-- Every query whose child ends by itself returns what its output and its outcome say, unless it is
interrupted. It kills the child exactly if it leaves some of the output unread. -/
theorem query_classified (b : Bridge) (token : String) (q : Query) (h : Host)
    (grounded : h.Grounded) {bytes : List UInt8} {fault? : Option Fault} {o : Outcome}
    (reply : h.replyTo (b.argv q.arguments) =
      { fate := .exits o, output := .ended bytes fault? })
    (free : (Act.after (b.query token q) h).interrupted token = false) :
    ∃ h', b.query token q h = .ok (q.classified bytes fault? o) h' ∧
      (.kill ∈ h'.callsOn h.childCount ↔
        ∃ e, q.classified bytes fault? o = .error e ∧ e.IsUnread) := by
  have idle : h.interrupted token = false := by
    refine Bool.eq_false_iff.mpr fun raised => ?_
    have refused := run_refused (b := b) (Request.ask q) raised
    have after : Act.after (b.query token q) h = h := Act.after_ok refused
    simp [after, raised] at free
  obtain ⟨h₁, launched, tended⟩ := run_launched (b := b) (Request.ask q) idle (by
    change (h.replyTo (b.argv q.arguments)).fate.spawnError? b.executable = none
    rw [reply]
    rfl)
  change Tended token h.childCount _ _ _ h₁ (b.query token q h) at tended
  rw [show h.replyTo (b.argv (Request.ask q).arguments) = _ from reply] at tended
  obtain ⟨h₀, outcome₀, only₀⟩ := launched.born
  rw [show h.replyTo (b.argv (Request.ask q).arguments) = _ from reply] at outcome₀
  have newborn := launched.newborn grounded
  have judged := result_classified q bytes fault? o
  have kills : isUnfinished (captured q (.ended bytes fault?)) = true ↔
      ∃ e, q.classified bytes fault? o = .error e ∧ e.IsUnread := by
    rw [← judged]
    exact isUnfinished_iff q o _
  unfold Act.after at free
  generalize b.query token q h = result at tended free
  cases tended with
  | abandoned _ raised _ => simp [raised] at free
  | stuck _ stuck =>
    have held : (Output.ended bytes fault?).ending = .held := stuck.1
    cases fault? <;> simp [Output.ended] at held
  | running _ _ running only =>
    have ended := (only₀.trans only).ended (by rw [Child.hasEnded, outcome₀]; rfl)
    simp [running] at ended
  | @ended o' x h' _ _ outcome eq killedIf only =>
    have same := (only₀.trans only).outcome outcome
    rw [outcome₀] at same
    obtain rfl : o' = o := same
    have unasked : h₁.callsOn h.childCount = [] := by rw [callsOn, newborn.unasked]; rfl
    have kill := killedIf.kills (fun name _ => newborn.loose name) free
    rw [unasked] at kill
    refine ⟨h', ?_, ?_⟩
    · simp only [eq, free, Bool.and_false, Bool.false_eq_true]
      exact congrArg (EStateM.Result.ok · h') judged
    · rw [kill, ← kills]
      simp [Request.Kills]

/-- A host on which every command writes one byte, after which reading fails. -/
def Host.garbled : Host where
  backend := fun _ _ =>
    { fate := .exits (.code 0), output := .ended [0x4c] (some .permissionDenied) }

/-- A listing that cannot be read to its end is an error although its command succeeds. -/
theorem query_classified_unreadable :
    garbled.Grounded ∧
      ∃ h', ({} : Bridge).query "work" .devices garbled =
          .ok (.error (.io "devices" .permissionDenied)) h' ∧
        .kill ∈ h'.callsOn garbled.childCount := by
  have grounded : garbled.Grounded := fun id _ =>
    ⟨fun name held => by simp [garbled] at held, rfl⟩
  obtain ⟨h', returned, kills⟩ := query_classified {} "work" .devices garbled grounded rfl
    (by decide)
  exact ⟨grounded, h', returned, kills.mpr ⟨_, rfl, .inr ⟨_, _, rfl⟩⟩⟩

end DebugBridge
