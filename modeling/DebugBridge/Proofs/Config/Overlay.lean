import DebugBridge.Config.Store
import DebugBridge.Proofs.Text.Encoding
import DebugBridge.Toml.Codec
import Mathlib

/-!
# A document overlays the standard configuration

A document may give any of the settings, in its tables for the sections, and may hold whatever else
it likes. A configuration is looked at through the values of its settings, as a document would give
them. What is loaded has the values that the document gives and the standard ones for all others;
nothing else in the document matters. A value of the wrong kind or out of range makes the document
malformed.
-/

namespace DebugBridge.Config

open Toml

/-! ### Settings -/

/-- The settings that a document may give. -/
inductive Field where
  | logLevel
  | executable
  | portRange
  | forceForward
  | socketName
  | connectAttempts
  | retryDelay
  | serial
  | usb
  | tcpip
  deriving DecidableEq, Repr

inductive Kind where
  | text
  | flag
  /-- A whole number from zero up to a bound. -/
  | number (max : Nat)
  deriving DecidableEq, Repr

def Kind.Fits : Kind → Node → Prop
  | .text, n => ∃ s, n = .text s
  | .flag, n => ∃ b, n = .flag b
  | .number max, n => ∃ k : Nat, k ≤ max ∧ n = .integer k

namespace Field

def home : Field → String
  | .logLevel => "general"
  | .executable => "bridge"
  | .portRange | .forceForward | .socketName | .connectAttempts | .retryDelay => "tunnel"
  | .serial | .usb | .tcpip => "device"

def key : Field → String
  | .logLevel => "log_level"
  | .executable => "executable"
  | .portRange => "port_range"
  | .forceForward => "force_forward"
  | .socketName => "socket_name"
  | .connectAttempts => "connect_attempts"
  | .retryDelay => "connect_retry_delay_ms"
  | .serial => "serial"
  | .usb => "select_usb"
  | .tcpip => "select_tcpip"

def kind : Field → Kind
  | .forceForward | .usb | .tcpip => .flag
  | .connectAttempts => .number (UInt32.size - 1)
  | .retryDelay => .number (UInt64.size - 1)
  | _ => .text

def given (es : Entries) (f : Field) : Option Node :=
  match Entries.find? f.home.toList es with
  | some (.table _ inner) => Entries.find? f.key.toList inner
  | _ => none

end Field

def value? (c : Config) : Field → Option Node
  | .logLevel => some (.text c.general.logLevel.toList)
  | .executable => c.bridge.executable?.map fun s => .text s.toList
  | .portRange => some (.text c.tunnel.portRange.toList)
  | .forceForward => some (.flag c.tunnel.forceForward)
  | .socketName => some (.text c.tunnel.socketName.toList)
  | .connectAttempts => some (.integer c.tunnel.connectAttempts.toNat)
  | .retryDelay => some (.integer c.tunnel.retryDelay.toNat)
  | .serial => c.device.serial?.map fun s => .text s.toList
  | .usb => some (.flag c.device.usb)
  | .tcpip => some (.flag c.device.tcpip)

def Sound (es : Entries) : Prop := ∀ f n, Field.given es f = some n → f.kind.Fits n

/-- What the document has under the names of the sections are tables. -/
def Tabular (es : Entries) : Prop :=
  ∀ f n, Entries.find? (Field.home f).toList es = some n →
    ∃ standing inner, n = .table standing inner

/-- A value that cannot stand for a section: a text, a number or a truth value. -/
def Plain : Node → Prop
  | .text _ | .integer _ | .decimal .. | .infinity _ | .notANumber | .flag _ => True
  | _ => False

/-- The configuration has the values that the document gives, and the standard ones otherwise. -/
def Overlays (es : Entries) (c : Config) : Prop :=
  ∀ f, c.value? f = (Field.given es f).or (({} : Config).value? f)

/-- A configuration is known by the values of its settings. -/
theorem eq_of_value? {c c' : Config} (same : ∀ f, c.value? f = c'.value? f) : c = c' := by
  have optional : ∀ s t : Option String,
      (s.map fun s => Node.text s.toList) = (t.map fun t => Node.text t.toList) → s = t := by
    intro s t eq
    refine Option.map_injective (fun a b eq => ?_) eq
    exact String.toList_injective (Node.text.inj eq)
  obtain ⟨⟨_⟩, ⟨_⟩, ⟨_, _, _, _, _⟩, ⟨_, _, _⟩⟩ := c
  obtain ⟨⟨_⟩, ⟨_⟩, ⟨_, _, _, _, _⟩, ⟨_, _, _⟩⟩ := c'
  have executable := optional _ _ (same .executable)
  have serial := optional _ _ (same .serial)
  have logLevel := same .logLevel
  have portRange := same .portRange
  have forceForward := same .forceForward
  have socketName := same .socketName
  have attempts := same .connectAttempts
  have delay := same .retryDelay
  have usb := same .usb
  have tcpip := same .tcpip
  simp only [value?, Option.some.injEq, Node.text.injEq, Node.flag.injEq, Node.integer.injEq,
    String.toList_inj, Int.natCast_inj, UInt32.toNat_inj, UInt64.toNat_inj] at *
  subst executable serial logLevel portRange forceForward socketName attempts delay usb tcpip
  rfl

/-- At most one configuration overlays a document. -/
theorem Overlays.unique {es : Entries} {c c' : Config} (o : Overlays es c) (o' : Overlays es c') :
    c = c' :=
  eq_of_value? fun f => (o f).trans (o' f).symm

/-! ### Reading one setting -/

/-- A reader takes exactly the values of a kind, and what it makes of one shows that value. -/
structure Reads {α : Type} (kind : Kind) (read : Node → Option α) (view : α → Option Node) :
    Prop where
  fits : ∀ n, kind.Fits n → ∃ v, read n = some v ∧ view v = some n
  misfits : ∀ n, ¬ kind.Fits n → read n = none

theorem reads_text : Reads .text text? fun s => some (.text s.toList) where
  fits n fit := by
    obtain ⟨s, rfl⟩ := fit
    exact ⟨String.ofList s, rfl, by rw [String.toList_ofList]⟩
  misfits n misfit := by
    cases n with
    | text s => exact absurd ⟨s, rfl⟩ misfit
    | _ => rfl

theorem reads_optional : Reads .text (fun n => (text? n).map some)
    fun s? : Option String => s?.map fun s => .text s.toList where
  fits n fit := by
    obtain ⟨s, read, view⟩ := reads_text.fits n fit
    exact ⟨some s, by rw [read]; rfl, view⟩
  misfits n misfit := by rw [reads_text.misfits n misfit]; rfl

theorem reads_flag : Reads .flag flag? fun b => some (.flag b) where
  fits n fit := by
    obtain ⟨b, rfl⟩ := fit
    exact ⟨b, rfl, rfl⟩
  misfits n misfit := by
    cases n with
    | flag b => exact absurd ⟨b, rfl⟩ misfit
    | _ => rfl

theorem reads_number {α : Type} {max : Nat} {ofNat : Nat → α} {toNat : α → Nat}
    (exact : ∀ k, k ≤ max → toNat (ofNat k) = k) :
    Reads (.number max) (fun n => (natural? max n).map ofNat)
      fun v => some (.integer (toNat v)) where
  fits n fit := by
    obtain ⟨k, small, rfl⟩ := fit
    have range : 0 ≤ (k : Int) ∧ (k : Int) ≤ max := by omega
    exact ⟨ofNat k, by simp [natural?, range], by rw [exact k small]⟩
  misfits n misfit := by
    cases n with
    | integer k =>
      have outside : ¬ (0 ≤ k ∧ k ≤ max) := fun inside =>
        misfit ⟨k.toNat, by omega, by rw [Int.toNat_of_nonneg inside.1]⟩
      simp [natural?, outside]
    | _ => rfl

theorem reads_attempts : Reads (Field.kind .connectAttempts)
    (fun n => (natural? (UInt32.size - 1) n).map UInt32.ofNat)
    fun v => some (.integer v.toNat) :=
  reads_number fun k small => UInt32.toNat_ofNat_of_lt' (Nat.lt_of_le_of_lt small (by decide))

theorem reads_delay : Reads (Field.kind .retryDelay)
    (fun n => (natural? (UInt64.size - 1) n).map UInt64.ofNat)
    fun v => some (.integer v.toNat) :=
  reads_number fun k small => UInt64.toNat_ofNat_of_lt' (Nat.lt_of_le_of_lt small (by decide))

/-- What becomes of one setting: what is given is of its kind and replaces the standard value, or it
is not of its kind. -/
inductive Taken {α : Type} (kind : Kind) (view : α → Option Node) (standard : α)
    (given? : Option Node) : Option α → Prop
  | overlaid {v : α} : (∀ n, given? = some n → kind.Fits n) → view v = given?.or (view standard) →
      Taken kind view standard given? (some v)
  | misfit {n : Node} : given? = some n → ¬ kind.Fits n → Taken kind view standard given? none

theorem taken_setting {α : Type} {kind : Kind} {read : Node → Option α} {view : α → Option Node}
    (reads : Reads kind read view) (standard : α) (given? : Option Node) :
    Taken kind view standard given? (setting? read standard given?) := by
  cases given? with
  | none => exact .overlaid nofun rfl
  | some n =>
    by_cases fit : kind.Fits n
    · obtain ⟨v, eq, shown⟩ := reads.fits n fit
      rw [setting?, eq]
      refine .overlaid (fun m same => ?_) shown
      rwa [← Option.some.inj same]
    · rw [setting?, reads.misfits n fit]
      exact .misfit rfl fit

/-! ### Reading a section -/

inductive Overlaid {α : Type} (fields : List Field) (view : α → Field → Option Node) (standard : α)
    (given : Field → Option Node) : Option α → Prop
  | overlaid {v : α} : (∀ f ∈ fields, ∀ n, given f = some n → f.kind.Fits n) →
      (∀ f ∈ fields, view v f = (given f).or (view standard f)) →
      Overlaid fields view standard given (some v)
  | misfit {f : Field} {n : Node} : f ∈ fields → given f = some n → ¬ f.kind.Fits n →
      Overlaid fields view standard given none

/-- A section is read setting by setting, and the first one that is not of its kind ends that. -/
theorem Taken.bind {α β : Type} {fields : List Field} {view : β → Field → Option Node}
    {standard : β} {given : Field → Option Node} {f : Field} {look : α → Option Node} {usual : α} {v? : Option α}
    (taken : Taken f.kind look usual (given f) v?) (mem : f ∈ fields) {next : α → Option β}
    (more : ∀ v, (∀ n, given f = some n → f.kind.Fits n) →
      look v = (given f).or (look usual) → Overlaid fields view standard given (next v)) :
    Overlaid fields view standard given (v?.bind next) := by
  cases taken with
  | overlaid fits shown => exact more _ fits shown
  | misfit eq misfit => exact .misfit mem eq misfit

section sections
variable (standing : Standing) (es : Entries)

theorem general_overlaid :
    Overlaid [.logLevel] (fun g => value? { general := g }) {}
      (fun f => Entries.find? f.key.toList es) (general? (.table standing es)) := by
  simp only [general?, section?, Option.bind_eq_bind, Option.bind_some]
  apply (taken_setting reads_text _ _).bind (f := .logLevel) (by simp)
  intro level fits shown
  exact .overlaid (List.forall_mem_singleton.mpr fits) (List.forall_mem_singleton.mpr shown)

theorem bridge_overlaid :
    Overlaid [.executable] (fun b => value? { bridge := b }) {}
      (fun f => Entries.find? f.key.toList es) (bridge? (.table standing es)) := by
  simp only [bridge?, section?, Option.bind_eq_bind, Option.bind_some]
  apply (taken_setting reads_optional _ _).bind (f := .executable) (by simp)
  intro chosen fits shown
  exact .overlaid (List.forall_mem_singleton.mpr fits) (List.forall_mem_singleton.mpr shown)

theorem tunnel_overlaid :
    Overlaid [.portRange, .forceForward, .socketName, .connectAttempts, .retryDelay]
      (fun t => value? { tunnel := t }) {} (fun f => Entries.find? f.key.toList es)
      (tunnel? (.table standing es)) := by
  simp only [tunnel?, section?, Option.bind_eq_bind, Option.bind_some]
  apply (taken_setting reads_text _ _).bind (f := .portRange) (by simp)
  intro portRange fits₁ shown₁
  apply (taken_setting reads_flag _ _).bind (f := .forceForward) (by simp)
  intro forceForward fits₂ shown₂
  apply (taken_setting reads_text _ _).bind (f := .socketName) (by simp)
  intro socketName fits₃ shown₃
  apply (taken_setting reads_attempts _ _).bind (f := .connectAttempts) (by simp)
  intro attempts fits₄ shown₄
  apply (taken_setting reads_delay _ _).bind (f := .retryDelay) (by simp)
  intro delay fits₅ shown₅
  apply Overlaid.overlaid <;> simp only [List.forall_mem_cons]
  · exact ⟨fits₁, fits₂, fits₃, fits₄, fits₅, List.forall_mem_nil _⟩
  · exact ⟨shown₁, shown₂, shown₃, shown₄, shown₅, List.forall_mem_nil _⟩

theorem device_overlaid :
    Overlaid [.serial, .usb, .tcpip] (fun d => value? { device := d }) {}
      (fun f => Entries.find? f.key.toList es) (device? (.table standing es)) := by
  simp only [device?, section?, Option.bind_eq_bind, Option.bind_some]
  apply (taken_setting reads_optional _ _).bind (f := .serial) (by simp)
  intro serial fits₁ shown₁
  apply (taken_setting reads_flag _ _).bind (f := .usb) (by simp)
  intro usb fits₂ shown₂
  apply (taken_setting reads_flag _ _).bind (f := .tcpip) (by simp)
  intro tcpip fits₃ shown₃
  apply Overlaid.overlaid <;> simp only [List.forall_mem_cons]
  · exact ⟨fits₁, fits₂, fits₃, List.forall_mem_nil _⟩
  · exact ⟨shown₁, shown₂, shown₃, List.forall_mem_nil _⟩

end sections

/-! ### Reading a document -/

section documents
variable {es : Entries}

theorem Overlaid.congr {α : Type} {fields : List Field} {view : α → Field → Option Node}
    {standard : α} {given given' : Field → Option Node} {v? : Option α}
    (part : Overlaid fields view standard given v?) (same : ∀ f ∈ fields, given' f = given f) :
    Overlaid fields view standard given' v? := by
  cases part with
  | overlaid fits shown =>
    apply Overlaid.overlaid
    · intro f mem n eq
      exact fits f mem n (same f mem ▸ eq)
    · intro f mem
      rw [same f mem, shown f mem]
  | misfit mem eq misfit => exact .misfit mem ((same _ mem).trans eq) misfit

theorem Overlaid.eq_none {α : Type} {fields : List Field} {view : α → Field → Option Node}
    {standard : α} {given : Field → Option Node} {v? : Option α}
    (part : Overlaid fields view standard given v?) {f : Field} (mem : f ∈ fields) {n : Node}
    (eq : given f = some n) (misfit : ¬ f.kind.Fits n) : v? = none := by
  cases part with
  | overlaid fits => exact absurd (fits f mem n eq) misfit
  | misfit => rfl

theorem Overlaid.eq_some {α : Type} {fields : List Field} {view : α → Field → Option Node}
    {standard : α} {given : Field → Option Node} {v? : Option α}
    (part : Overlaid fields view standard given v?)
    (sound : ∀ f n, given f = some n → f.kind.Fits n) :
    ∃ v, v? = some v ∧ ∀ f ∈ fields, view v f = (given f).or (view standard f) := by
  cases part with
  | overlaid _ shown => exact ⟨_, rfl, shown⟩
  | misfit _ eq misfit => exact absurd (sound _ _ eq) misfit

/-- A section that is not there has the standard values, and one that is a table is read as such. -/
theorem section_overlaid {α : Type} {fields : List Field} {view : α → Field → Option Node}
    {standard : α} {read : Node → Option α} (name : String)
    (table : ∀ standing inner, Overlaid fields view standard
      (fun f => Entries.find? f.key.toList inner) (read (.table standing inner)))
    (here : ∀ f ∈ fields, f.home = name)
    (tabular : ∀ n, Entries.find? name.toList es = some n →
      ∃ standing inner, n = .table standing inner) :
    Overlaid fields view standard (Field.given es)
      (setting? read standard (Entries.find? name.toList es)) := by
  cases found : Entries.find? name.toList es with
  | none =>
    have nothing : ∀ f ∈ fields, Field.given es f = none := by
      intro f mem
      rw [Field.given, here f mem, found]
    apply Overlaid.overlaid
    · intro f mem n eq
      rw [nothing f mem] at eq
      cases eq
    · intro f mem
      rw [nothing f mem, Option.none_or]
  | some n =>
    obtain ⟨standing, inner, rfl⟩ := tabular n found
    apply (table standing inner).congr
    intro f mem
    rw [Field.given, here f mem, found]

/-- A section with a value that is not of its kind cannot be read. -/
theorem section_misfit {α : Type} {fields : List Field} {view : α → Field → Option Node}
    {standard : α} {read : Node → Option α} (name : String)
    (table : ∀ standing inner, Overlaid fields view standard
      (fun f => Entries.find? f.key.toList inner) (read (.table standing inner)))
    {f : Field} (mem : f ∈ fields) (here : f.home = name) {n : Node}
    (eq : Field.given es f = some n) (misfit : ¬ f.kind.Fits n) :
    setting? read standard (Entries.find? name.toList es) = none := by
  unfold Field.given at eq
  split at eq
  · next standing inner found =>
    rw [← here, found]
    exact (table standing inner).eq_none mem eq misfit
  · cases eq

/-- A value that is not of its kind spoils the whole document, whatever else is in it. -/
theorem ofEntries?_misfit {f : Field} {n : Node} (eq : Field.given es f = some n)
    (misfit : ¬ f.kind.Fits n) : ofEntries? es = none := by
  unfold ofEntries?
  cases f with
  | logLevel =>
    rw [section_misfit "general" general_overlaid (by decide) rfl eq misfit]
    rfl
  | executable =>
    rw [section_misfit "bridge" bridge_overlaid (by decide) rfl eq misfit]
    simp
  | serial | usb | tcpip =>
    rw [section_misfit "device" device_overlaid (by decide) rfl eq misfit]
    simp
  | _ =>
    rw [section_misfit "tunnel" tunnel_overlaid (by decide) rfl eq misfit]
    simp

theorem section?_plain {n : Node} (plain : Plain n) : ∀ order, section? order n = none := by
  intro order
  cases n with
  | array | table | tables | moment => cases plain
  | _ => rfl

/-- So does a plain value in the place of a section. -/
theorem ofEntries?_plain {f : Field} {n : Node}
    (found : Entries.find? f.home.toList es = some n) (plain : Plain n) : ofEntries? es = none := by
  have section_none := section?_plain plain
  unfold ofEntries?
  cases f with
  | logLevel =>
    rw [show Entries.find? "general".toList es = some n from found]
    simp [setting?, general?, section_none]
  | executable =>
    rw [show Entries.find? "bridge".toList es = some n from found]
    simp [setting?, bridge?, section_none]
  | serial | usb | tcpip =>
    rw [show Entries.find? "device".toList es = some n from found]
    simp [setting?, device?, section_none]
  | _ =>
    rw [show Entries.find? "tunnel".toList es = some n from found]
    simp [setting?, tunnel?, section_none]

/-- A document with values of the right kinds gives the configuration that overlays it. -/
theorem ofEntries?_overlays (tabular : Tabular es) (sound : Sound es) :
    ∃ c, ofEntries? es = some c ∧ Overlays es c := by
  have general := section_overlaid "general" general_overlaid (by decide) (tabular .logLevel)
  have bridge := section_overlaid "bridge" bridge_overlaid (by decide) (tabular .executable)
  have tunnel := section_overlaid "tunnel" tunnel_overlaid (by decide) (tabular .portRange)
  have device := section_overlaid "device" device_overlaid (by decide) (tabular .serial)
  obtain ⟨g, readGeneral, general⟩ := general.eq_some sound
  obtain ⟨b, readBridge, bridge⟩ := bridge.eq_some sound
  obtain ⟨t, readTunnel, tunnel⟩ := tunnel.eq_some sound
  obtain ⟨d, readDevice, device⟩ := device.eq_some sound
  refine ⟨⟨g, b, t, d⟩, ?_, ?_⟩
  · rw [ofEntries?, readGeneral, readBridge, readTunnel, readDevice]
    rfl
  · intro f
    cases f with
    | logLevel => exact general .logLevel (by decide)
    | executable => exact bridge .executable (by decide)
    | serial => exact device .serial (by decide)
    | usb => exact device .usb (by decide)
    | tcpip => exact device .tcpip (by decide)
    | portRange => exact tunnel .portRange (by decide)
    | forceForward => exact tunnel .forceForward (by decide)
    | socketName => exact tunnel .socketName (by decide)
    | connectAttempts => exact tunnel .connectAttempts (by decide)
    | retryDelay => exact tunnel .retryDelay (by decide)

/-- Documents with the same values for the settings give the same configuration. -/
theorem ofEntries?_congr {es' : Entries} (tabular : Tabular es) (tabular' : Tabular es')
    (same : ∀ f, Field.given es' f = Field.given es f) : ofEntries? es' = ofEntries? es := by
  by_cases sound : Sound es
  · have sound' : Sound es' := fun f n eq => sound f n (same f ▸ eq)
    obtain ⟨c, read, overlays⟩ := ofEntries?_overlays tabular sound
    obtain ⟨c', read', overlays'⟩ := ofEntries?_overlays tabular' sound'
    have moved : Overlays es c' := fun f => same f ▸ overlays' f
    rw [read, read', moved.unique overlays]
  · obtain ⟨f, n, eq, misfit⟩ : ∃ f n, Field.given es f = some n ∧ ¬ f.kind.Fits n := by
      simpa [Sound] using sound
    rw [ofEntries?_misfit eq misfit, ofEntries?_misfit ((same f).trans eq) misfit]

/-! ### Loading -/

/-- There is a document at a path, and this is its table. -/
def Holds (codec : Codec) (fs : Files) (path : String) (es : Entries) : Prop :=
  ∃ document, fs.read path = .ok (some (Utf8.encode document)) ∧ codec.read document = some es

theorem Holds.load_eq {codec : Codec} {fs : Files} {path : String}
    (holds : Holds codec fs path es) : load codec fs path =
      (ofEntries? es).elim (.error .malformed) fun c => c.portRange.map fun _ => c := by
  obtain ⟨document, content, parsed⟩ := holds
  rw [load, content, ofContent, Utf8.decodeStrict?_encode]
  simp only [ofDocument, parsed, Option.bind_some]
  cases ofEntries? es <;> rfl

/-- The standard port range is one. -/
theorem ofText_standard : PortRange.ofText ({} : TunnelSettings).portRange = .ok .standard := by
  cbv

/-- The text of the port range is the one that the document gives, or else the standard one. -/
theorem Overlays.portRange_cases {c : Config} (overlays : Overlays es c) :
    Field.given es .portRange = some (.text c.tunnel.portRange.toList) ∨
      (Field.given es .portRange = none ∧
        c.tunnel.portRange = ({} : TunnelSettings).portRange) := by
  have shown : some (Node.text c.tunnel.portRange.toList) =
      (Field.given es .portRange).or (some (.text ({} : TunnelSettings).portRange.toList)) :=
    overlays .portRange
  cases given : Field.given es .portRange with
  | some n =>
    rw [given, Option.some_or] at shown
    exact .inl shown.symm
  | none =>
    rw [given, Option.none_or] at shown
    exact .inr ⟨rfl, String.toList_injective (Node.text.inj (Option.some.inj shown))⟩

/-- However documents are read, as long as an empty one has an empty tree: a document gives the
standard configuration with the values that it gives in their place, and that is one configuration;
the port range, if it is given, has to be one. A file that is not there is like an empty document. A
value of another kind or out of its range makes the document malformed, as does a plain value for a
section, and a text that is no port range makes it invalid. Documents that give the same values to
the settings give the same result. -/
theorem load_overlays (codec : Codec) (empty : codec.read "" = some []) (fs : Files)
    (path : String) :
    (fs.read path = .ok none →
      load codec fs path = .ok {} ∧ load codec fs path = ofDocument codec "") ∧
    ∀ es, Holds codec fs path es →
      (Tabular es → Sound es →
        (∀ w, Field.given es .portRange = some (.text w) →
          ∃ range, PortRange.ofText (String.ofList w) = .ok range) →
        ∃ c, load codec fs path = .ok c ∧ ∀ c', Overlays es c' ↔ c' = c) ∧
      (Tabular es → Sound es →
        ∀ w e, Field.given es .portRange = some (.text w) →
          PortRange.ofText (String.ofList w) = .error e →
          load codec fs path = .error (.invalid s!"tunnel.port_range: {e.message}")) ∧
      (∀ f n, Field.given es f = some n → ¬ f.kind.Fits n →
        load codec fs path = .error .malformed) ∧
      (∀ f n, Entries.find? (Field.home f).toList es = some n → Plain n →
        load codec fs path = .error .malformed) ∧
      ∀ fs' path' es', Holds codec fs' path' es' → Tabular es → Tabular es' →
        (∀ f, Field.given es' f = Field.given es f) →
          load codec fs' path' = load codec fs path := by
  constructor
  · intro missing
    have absent : load codec fs path = .ok {} := by
      rw [load, missing, ofContent, portRange, ofText_standard]
      rfl
    have nothing : ofDocument codec "" = .ok {} := by
      rw [ofDocument, empty, Option.bind_some, show ofEntries? [] = some {} from rfl]
      dsimp only
      rw [portRange, ofText_standard]
      rfl
    exact ⟨absent, absent.trans nothing.symm⟩
  · intro es holds
    refine ⟨?_, ?_, ?_, ?_, ?_⟩
    · intro tabular sound range
      obtain ⟨c, read, overlays⟩ := ofEntries?_overlays tabular sound
      obtain ⟨r, ok⟩ : ∃ r, PortRange.ofText c.tunnel.portRange = .ok r := by
        rcases overlays.portRange_cases with given | ⟨-, standard⟩
        · simpa only [String.ofList_toList] using range _ given
        · exact ⟨.standard, standard ▸ ofText_standard⟩
      refine ⟨c, ?_, fun c' => ⟨fun other => other.unique overlays, fun same => same ▸ overlays⟩⟩
      rw [holds.load_eq, read, Option.elim_some, portRange, ok]
      rfl
    · intro tabular sound w e given error
      obtain ⟨c, read, overlays⟩ := ofEntries?_overlays tabular sound
      have text : c.tunnel.portRange = String.ofList w := by
        rcases overlays.portRange_cases with given' | ⟨nothing, -⟩
        · rw [Node.text.inj (Option.some.inj (given.symm.trans given')), String.ofList_toList]
        · rw [nothing] at given
          cases given
      rw [holds.load_eq, read, Option.elim_some, portRange, text, error]
      rfl
    · intro f n given misfit
      rw [holds.load_eq, ofEntries?_misfit given misfit]
      rfl
    · intro f n found plain
      rw [holds.load_eq, ofEntries?_plain found plain]
      rfl
    · intro fs' path' es' holds' tabular tabular' same
      rw [holds.load_eq, holds'.load_eq, ofEntries?_congr tabular tabular' same]

end documents

def alone (document : String) : Files :=
  ⟨[(⟨false, ["config.toml"]⟩, .file (Utf8.encode document))]⟩

/-- Two settings in odd places among keys and tables that mean nothing. -/
def scattered : String :=
  "# partial\ntunnel.connect_attempts = 0 # none\nunknown = [1, 2]\n\n[device]\n" ++
    "select_usb = true\ncolour = 'red'\n\n[extra.table]\nx = 1.5\n\n[general]\n"

/-- The scattered settings; a number that is one too large; and a range the wrong way round. -/
theorem load_overlays_scattered :
    load codec (alone scattered) "config.toml" =
      .ok { tunnel := { connectAttempts := 0 }, device := { usb := true } } ∧
    load codec (alone "tunnel.connect_attempts = 4294967296") "config.toml" = .error .malformed ∧
    load codec (alone "[tunnel]\nport_range = '7:6'\n") "config.toml" =
      .error (.invalid
        "tunnel.port_range: invalid port range 7:6 (first must not exceed last)") := by
  have empty : codec.read "" = some [] := by cbv
  refine ⟨?_, ?_, ?_⟩
  · have parsed : codec.read scattered = some
        [("tunnel".toList, .table .dotted [("connect_attempts".toList, .integer 0)]),
          ("unknown".toList, .array [.integer 1, .integer 2]),
          ("device".toList, .table .defined
            [("select_usb".toList, .flag true), ("colour".toList, .text "red".toList)]),
          ("extra".toList, .table .implied
            [("table".toList, .table .defined [("x".toList, .decimal false 15 (-1))])]),
          ("general".toList, .table .defined [])] := by cbv
    obtain ⟨c, loaded, same⟩ := ((load_overlays codec empty (alone scattered) "config.toml").2 _
      ⟨_, rfl, parsed⟩).1
        (by
          intro f n found
          cases f <;> cases found <;> exact ⟨_, _, rfl⟩)
        (by
          intro f n given
          cases f <;> cases given
          · exact ⟨0, by decide, rfl⟩
          · exact ⟨true, rfl⟩)
        (by
          intro w given
          cases given)
    rw [loaded, ← (same _).mp]
    intro f
    cases f <;> rfl
  · have parsed : codec.read "tunnel.connect_attempts = 4294967296" = some
        [("tunnel".toList, .table .dotted
          [("connect_attempts".toList, .integer 4294967296)])] := by cbv
    refine ((load_overlays codec empty (alone "tunnel.connect_attempts = 4294967296")
      "config.toml").2 _ ⟨_, rfl, parsed⟩).2.2.1 .connectAttempts _ rfl ?_
    rintro ⟨k, small, eq⟩
    have : (k : Int) = 4294967296 := (Node.integer.inj eq).symm
    simp only [UInt32.size] at small
    omega
  · have parsed : codec.read "[tunnel]\nport_range = '7:6'\n" = some
        [("tunnel".toList, .table .defined [("port_range".toList, .text "7:6".toList)])] := by cbv
    have inverted : PortRange.ofText (String.ofList "7:6".toList) = .error (.inverted 7 6) := by
      cbv
    exact ((load_overlays codec empty (alone "[tunnel]\nport_range = '7:6'\n") "config.toml").2 _
      ⟨_, rfl, parsed⟩).2.1
        (by
          intro f n found
          cases f <;> cases found <;> exact ⟨_, _, rfl⟩)
        (by
          intro f n given
          cases f <;> cases given
          exact ⟨"7:6".toList, rfl⟩)
        _ _ rfl inverted

end DebugBridge.Config
