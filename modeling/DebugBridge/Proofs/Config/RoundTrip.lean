import DebugBridge.Config.Store
import DebugBridge.Proofs.Config.Document
import DebugBridge.Proofs.Config.Files
import DebugBridge.Proofs.Text.Encoding

/-!
# Saving and loading

With a faithful codec a configuration that was saved is loaded again as it was, whatever its texts
are and whichever of its settings are given. Two things can come in between: a port range that is
none is saved but makes the saved configuration invalid, and a delay that is too large is not saved
at all, which leaves every file as it was.
-/

namespace DebugBridge.Config

open Toml (Codec integerBound)

variable {codec : Codec} {fs : Files} {path : String} {c : Config}

/-- What saving comes to at a path that can be written: the document is there and gives back the
configuration, if its port range is one. -/
theorem store_small (faithful : codec.Faithful) (writable : fs.Writable path)
    (small : c.tunnel.retryDelay.toNat < integerBound) :
    ∃ left, store codec fs path c = (.ok (), left) ∧
      load codec left path = c.portRange.map fun _ => c := by
  obtain ⟨text, document, read⟩ := ofDocument_write faithful small
  obtain ⟨left, written⟩ := writable.write (Utf8.encode text)
  have way : fs.makeWay path = (.ok (), (fs.makeWay path).2) := Prod.ext writable.way rfl
  refine ⟨left, ?_, ?_⟩
  · rw [store, way]
    simp only [document, written]
  · rw [load, Files.read_write written, ofContent]
    simp only [Utf8.decodeStrict?_encode, read]

/-- Saving stops at a delay that is too large, when only directories have been made. -/
theorem store_large (faithful : codec.Faithful) (way : (fs.makeWay path).1 = .ok ())
    (large : integerBound ≤ c.tunnel.retryDelay.toNat) :
    store codec fs path c = (.error .unwritable, (fs.makeWay path).2) := by
  have made : fs.makeWay path = (.ok (), (fs.makeWay path).2) := Prod.ext way rfl
  rw [store, made]
  simp only [write_large faithful large]

/-- Saving a configuration at a path that can be written and loading it from there, both with the
same faithful codec, gives it back: as it was if its port range is one, and otherwise as an invalid
one, never as another. With a delay of more than 63 bits nothing is written, and every file keeps
its content. -/
theorem load_store (codec : Codec) (faithful : codec.Faithful) (fs : Files) (path : String)
    (c : Config) (writable : fs.Writable path) :
    (c.tunnel.retryDelay.toNat ≤ Nat.pow 2 63 - 1 →
      ∃ left, store codec fs path c = (.ok (), left) ∧
        (∀ range, PortRange.ofText c.tunnel.portRange = .ok range → load codec left path = .ok c) ∧
        ∀ e, PortRange.ofText c.tunnel.portRange = .error e →
          ∃ reason, load codec left path = .error (.invalid reason)) ∧
    (Nat.pow 2 63 - 1 < c.tunnel.retryDelay.toNat →
      ∃ left, store codec fs path c = (.error .unwritable, left) ∧
        ∀ other bytes, fs.read other = .ok (some bytes) → left.read other = .ok (some bytes)) := by
  constructor
  · intro bound
    have small : c.tunnel.retryDelay.toNat < integerBound := Nat.lt_succ_of_le bound
    obtain ⟨left, stored, loaded⟩ := store_small faithful writable small
    refine ⟨left, stored, fun range ok => ?_, fun e error => ?_⟩
    · rw [loaded, portRange, ok]
      rfl
    · rw [loaded, portRange, error]
      exact ⟨_, rfl⟩
  · intro bound
    have large : integerBound ≤ c.tunnel.retryDelay.toNat := bound
    exact ⟨_, store_large faithful writable.way large, fun other bytes before =>
      (Files.extends_makeWay fs path).read before⟩

/-- A text that has to be escaped and one that is empty; and a delay that is one too large, over a
file that is there. -/
theorem load_store_quotes :
    (∃ (c : Config) (left : Files), c.general.logLevel = "a \"b\"\n\t'c'\\ \u0001" ∧
      c.device.serial? = some "" ∧ store Toml.codec {} "adbtun/config.toml" c = (.ok (), left) ∧
      load Toml.codec left "adbtun/config.toml" = .ok c) ∧
    ∃ left : Files, store Toml.codec ⟨[(⟨false, ["config.toml"]⟩, .file [0x61])]⟩ "config.toml"
        { tunnel := { retryDelay := 9223372036854775808 } } = (.error .unwritable, left) ∧
      left.read "config.toml" = .ok (some [0x61]) := by
  have faithful := Toml.faithful_codec
  constructor
  · let c : Config :=
      { general := { logLevel := "a \"b\"\n\t'c'\\ \u0001" }, device := { serial? := some "" } }
    have writable : Files.Writable {} "adbtun/config.toml" :=
      ⟨rfl, ⟨.free ⟨false, ["adbtun", "config.toml"]⟩, rfl, by decide⟩, by decide⟩
    have range : PortRange.ofText "27183:27199" = .ok .standard := by cbv
    obtain ⟨left, stored, loaded, -⟩ :=
      (load_store Toml.codec faithful {} "adbtun/config.toml" c writable).1 (by decide)
    exact ⟨c, left, rfl, rfl, stored, loaded .standard range⟩
  · let fs : Files := ⟨[(⟨false, ["config.toml"]⟩, .file [0x61])]⟩
    let c : Config := { tunnel := { retryDelay := 9223372036854775808 } }
    have writable : fs.Writable "config.toml" :=
      ⟨rfl, ⟨.present ⟨false, ["config.toml"]⟩ (.file [0x61]), rfl, by decide⟩, by decide⟩
    obtain ⟨left, stored, kept⟩ :=
      (load_store Toml.codec faithful fs "config.toml" c writable).2 (by decide)
    exact ⟨left, stored, kept "config.toml" [0x61] rfl⟩

end DebugBridge.Config
