import DebugBridge.Proofs.Bridge.Classified
import DebugBridge.Proofs.Text.Stops

/-!
# The head of an answer

Of the output of a query for a single value only the head is kept, and it may be cut in the middle
of a character. As long as the value ends within the head this makes no difference: it is read as
it would be read from the whole output.
-/

namespace DebugBridge

open Host Utf8

/-- On this host the command of a query writes these bytes and succeeds, and nobody interrupts the
query before its child is looked after. -/
structure Host.Serves (b : Bridge) (token : String) (q : Query) (bytes : List UInt8) (h : Host) :
    Prop where
  idle : h.interrupted token = false
  unstruck : h.struckAt token h.commands.length .spawn = false
  reply : h.replyTo (b.argv q.arguments) =
    { fate := .exits (.code 0), output := .ended bytes none }

theorem read_connect_ok (address text : String) : (Query.connect address).read text = .ok () ↔
    Bridge.connectedAnswer.toList.isPrefixOf text.toList = true := by
  rw [read_connect]
  split <;> simp_all

theorem read_connect_error {address text : String}
    (failed : (Query.connect address).read text ≠ .ok ()) :
    (Query.connect address).read text =
      .error (.connectRejected address (Text.firstLine text)) := by
  rw [Ne, read_connect_ok] at failed
  rw [read_connect, if_neg failed]

section head
variable {bytes : List UInt8}

/-- A query that succeeds reads its answer from the head of the output. -/
theorem query_cut {b : Bridge} {token : String} {q : Query} {h : Host} (cut : q.excess = .cut)
    (serves : h.Serves b token q bytes) :
    ∃ h', b.query token q h = .ok (q.read (decode (bytes.take q.limit))) h' := by
  have ends : ¬ (Request.ask q).Stuck (.ended bytes none) := fun stuck => nomatch stuck.1
  have reply : h.replyTo (b.argv (Request.ask q).arguments) = _ := serves.reply
  obtain ⟨h', run⟩ := run_succeeds (Request.ask q) serves.idle (by rw [reply]) serves.unstruck
    (by rw [reply]; exact ends)
  have result : (Request.ask q).result (.ended bytes none) (.code 0) =
      q.read (decode (bytes.take q.limit)) := by
    change answered q (.code 0) (captured q (.ended bytes none)) >>= q.read = _
    rw [captured_cut q bytes none cut]
    rfl
  rw [reply, result] at run
  exact ⟨h', run⟩

/-- A token that ends within the head is the first of the whole text. -/
theorem firstToken_take {n : Nat} (fits : (before tokenEnds bytes).length ≤ n) :
    Text.firstToken (decode (bytes.take n)) = decode (before tokenEnds bytes) := by
  rw [← decode_before_token, before_take fits]

/-- A line that ends within the head is the first of the whole text. -/
theorem firstLine_take {n : Nat} (fits : (before lineEnds bytes).length ≤ n) :
    Text.firstLine (decode (bytes.take n)) = decode (before lineEnds bytes) := by
  rw [← decode_before_line, before_take fits]

/-- The announcement of a connection is found in the head exactly if it is found in the whole. -/
theorem read_connect_take (address : String) :
    (Query.connect address).read (decode (bytes.take 128)) = .ok () ↔
      (Query.connect address).read (decode bytes) = .ok () := by
  rw [read_connect_ok, read_connect_ok, begins_connected_iff, isPrefixOf_connected_iff]

end head

/-- Whatever a command writes, its answer does not change because only the head of it is kept. A
value that ends within the head is returned in full; a connection is established or rejected as the
whole output says, and the reason given for a rejection is its first line if that ends within the
head. -/
theorem head_suffices (b : Bridge) (token : String) (h : Host) (bytes : List UInt8) :
    (∀ serial name, h.Serves b token (.property serial name) bytes →
      (before tokenEnds bytes).length ≤ 128 →
      ∃ h', b.property token serial name h = .ok (.ok (decode (before tokenEnds bytes))) h') ∧
    (h.Serves b token .serialNumber bytes → (before tokenEnds bytes).length ≤ 128 →
      ∃ h', b.serialNumber token h = .ok (.ok (decode (before tokenEnds bytes))) h') ∧
    decode (before tokenEnds bytes) = Text.firstToken (decode bytes) ∧
    (∀ address, h.Serves b token (.connect address) bytes →
      ∃ x h', b.connect token address h = .ok x h' ∧
        (x = .ok () ↔ (Query.connect address).read (decode bytes) = .ok ()) ∧
        ((before lineEnds bytes).length ≤ 128 → x ≠ .ok () →
          x = .error (.connectRejected address (decode (before lineEnds bytes))))) ∧
    decode (before lineEnds bytes) = Text.firstLine (decode bytes) := by
  refine ⟨fun serial name serves fits => ?_, fun serves fits => ?_, decode_before_token bytes,
    fun address serves => ?_, decode_before_line bytes⟩
  · rw [← firstToken_take fits]
    exact query_cut rfl serves
  · rw [← firstToken_take fits]
    exact query_cut rfl serves
  · obtain ⟨h', run⟩ := query_cut rfl serves
    refine ⟨_, h', run, read_connect_take address, fun fits failed => ?_⟩
    rw [← firstLine_take fits]
    exact read_connect_error failed

/-- Bytes whose first line ends with a character that is not complete, right where the head does. -/
def tornLine : List UInt8 :=
  List.replicate 126 0x61 ++ [0xe2, 0x82, 0x0a] ++ List.replicate 200 0x62

def Host.torn : Host where
  backend := fun _ _ => { fate := .exits (.code 0), output := .ended tornLine none }

/-- The incomplete character is part of the value and of the reason for a rejection. -/
theorem head_suffices_torn :
    (∃ h', ({} : Bridge).property "work" "emulator-5554" "ro.serialno" torn =
      .ok (.ok (String.ofList (List.replicate 126 'a' ++ ['\uFFFD']))) h') ∧
    (∃ h', ({} : Bridge).serialNumber "work" torn =
      .ok (.ok (String.ofList (List.replicate 126 'a' ++ ['\uFFFD']))) h') ∧
    ∃ h', ({} : Bridge).connect "work" "10.0.0.7:5555" torn = .ok (.error
      (.connectRejected "10.0.0.7:5555"
        (String.ofList (List.replicate 126 'a' ++ ['\uFFFD'])))) h' := by
  have serves (q : Query) : torn.Serves {} "work" q tornLine := ⟨rfl, rfl, rfl⟩
  have fits : (before tokenEnds tornLine).length ≤ 128 ∧
      (before lineEnds tornLine).length ≤ 128 := by decide +kernel
  have token : decode (before tokenEnds tornLine) =
      String.ofList (List.replicate 126 'a' ++ ['\uFFFD']) := by decide +kernel
  have line : decode (before lineEnds tornLine) =
      String.ofList (List.replicate 126 'a' ++ ['\uFFFD']) := by decide +kernel
  obtain ⟨property, serialNumber, -, connect, -⟩ := head_suffices {} "work" torn tornLine
  obtain ⟨x, h', run, verdict, rejected⟩ := connect "10.0.0.7:5555" (serves _)
  have refused : x ≠ .ok () := by
    rw [Ne, verdict, read_connect_ok, isPrefixOf_connected_iff]
    decide +kernel
  rw [rejected fits.2 refused, line] at run
  rw [← token]
  exact ⟨property _ _ (serves _) fits.1, serialNumber (serves _) fits.1, token ▸ ⟨h', run⟩⟩

end DebugBridge
