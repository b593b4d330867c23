import DebugBridge.Proofs.Host.Calls

/-!
# Requests before a call

Before the socket of a call is armed, the system is asked for the socket, for an option of it and
for a second handle to it, as far as the call needs them. The first refusal ends the call with its
own error; the token is not looked at until then.
-/

namespace DebugBridge

open Host

namespace Host

/-- What some requests come to, given the answers to come: the first refusal, and the answers that
are left. -/
def ask : List String → List (Option Fault) → Option (String × Fault) × List (Option Fault)
  | [], supply => (none, supply)
  | operation :: rest, supply =>
    match supply.headD none with
    | some cause => (some (operation, cause), supply.drop 1)
    | none => ask rest (supply.drop 1)

theorem ask_append (first rest : List String) (supply : List (Option Fault)) :
    ask (first ++ rest) supply =
      match ask first supply with
      | (some refusal, left) => (some refusal, left)
      | (none, left) => ask rest left := by
  induction first generalizing supply with
  | nil => rfl
  | cons operation first ih =>
    simp only [List.cons_append, ask]
    cases supply.headD none with
    | some cause => rfl
    | none => exact ih _

/-- Without a refusal to come, nothing is refused. -/
theorem ask_nil (operations : List String) : ask operations [] = (none, []) := by
  induction operations with
  | nil => rfl
  | cons operation rest ih => exact ih

/-- Where no answer to come is a refusal, nothing is refused now or later. -/
theorem ask_ample (operations : List String) {supply : List (Option Fault)}
    (ample : ∀ answer ∈ supply, answer = none) :
    (ask operations supply).1 = none ∧ ∀ answer ∈ (ask operations supply).2, answer = none := by
  induction operations generalizing supply with
  | nil => exact ⟨rfl, ample⟩
  | cons operation rest ih =>
    have first : supply.headD none = none := by
      cases supply with
      | nil => rfl
      | cons answer later => exact ample answer List.mem_cons_self
    simp only [ask, first]
    exact ih fun answer later => ample answer (List.mem_of_mem_drop later)

def granted (operations : List String) (endpoint : Endpoint) (h : Host) : Except NetError Unit :=
  match (ask operations h.supply).1 with
  | none => .ok ()
  | some (operation, cause) => .error (.io operation endpoint cause)

theorem ask_of_granted {operations : List String} {endpoint : Endpoint} {h : Host}
    (ok : h.granted operations endpoint = .ok ()) : (ask operations h.supply).1 = none := by
  unfold granted at ok
  cases e : (ask operations h.supply).1 with
  | none => rfl
  | some refusal =>
    rw [e] at ok
    cases ok

def supplied (operations : List String) (h : Host) : Host :=
  { h with supply := (ask operations h.supply).2 }

theorem supplied_nil {operations : List String} {h : Host} (ample : h.supply = []) :
    h.supplied operations = h := by
  unfold supplied
  rw [ample, ask_nil]
  rw [← ample]

/-- The host after some requests, of which the first is for a socket. -/
def opened (operations : List String) (h : Host) : Host :=
  match h.supply.headD none with
  | some _ => h.supplied operations
  | none => (h.supplied operations).addSocket .unconnected |>.2

theorem commands_opened (operations : List String) (h : Host) :
    (h.opened operations).commands = h.commands := by
  unfold opened
  split <;> rfl

theorem tokens_opened (operations : List String) (h : Host) :
    (h.opened operations).tokens = h.tokens := by
  unfold opened
  split <;> rfl

/-- Whether a new socket came of the requests or not, nothing else did. -/
theorem opened_cases (operations : List String) (h : Host) :
    h.opened operations = h.supplied operations ∨
      h.opened operations = ((h.supplied operations).addSocket .unconnected).2 := by
  unfold opened
  cases h.supply.headD none with
  | some cause => exact .inl rfl
  | none => exact .inr rfl

section further
variable {operation : String} {rest : List String} {endpoint : Endpoint} {h : Host}

/-- Where every request was granted, a new socket came of them. -/
theorem opened_granted (ok : h.granted (operation :: rest) endpoint = .ok ()) :
    h.opened (operation :: rest) = ((h.supplied (operation :: rest)).addSocket .unconnected).2 := by
  unfold granted ask at ok
  unfold opened
  cases e : h.supply.headD none with
  | some cause =>
    simp only [e] at ok
    cases ok
  | none => rfl

/-- Requests that were all granted may be followed by more. -/
theorem granted_further (ok : h.granted (operation :: rest) endpoint = .ok ())
    (more : List String) :
    (h.opened (operation :: rest)).granted more endpoint =
        h.granted (operation :: rest ++ more) endpoint ∧
      (h.opened (operation :: rest)).supplied more = h.opened (operation :: rest ++ more) := by
  have all := ask_append (operation :: rest) more h.supply
  rw [opened_granted ok]
  unfold granted at ok
  cases asked : ask (operation :: rest) h.supply with
  | mk refusal? left =>
    rw [asked] at ok all
    cases refusal? with
    | some refusal => cases ok
    | none =>
      refine ⟨?_, ?_⟩
      · simp only [granted, all]
        simp only [supplied, addSocket, asked]
      · have first : h.supply.headD none = none := by
          cases e : h.supply.headD none with
          | none => rfl
          | some cause =>
            simp only [ask, e] at asked
            cases asked
        unfold opened
        rw [first]
        simp only [supplied, addSocket, all, asked]

/-- After a refusal nothing more is asked for. -/
theorem refused_further {e : NetError} (refused : h.granted (operation :: rest) endpoint = .error e)
    (more : List String) :
    h.granted (operation :: rest ++ more) endpoint = .error e ∧
      h.opened (operation :: rest ++ more) = h.opened (operation :: rest) := by
  have all := ask_append (operation :: rest) more h.supply
  unfold granted at refused ⊢
  unfold opened supplied
  cases asked : ask (operation :: rest) h.supply with
  | mk refusal? left =>
    rw [asked] at refused all
    cases refusal? with
    | none => cases refused
    | some refusal =>
      rw [all]
      exact ⟨refused, rfl⟩

end further
end Host

theorem request_apply (operation : String) (endpoint : Endpoint) (h : Host) :
    request operation endpoint h =
      .ok (h.granted [operation] endpoint) (h.supplied [operation]) := by
  simp only [request, Act.bind_apply, Act.modifyGet_apply, answer, granted, supplied, ask]
  cases h.supply.headD none <;> rfl

theorem armed_apply {α : Type} (token : String) (socket : Nat) (operation : String)
    (endpoint : Endpoint) (call : Act (Except Fault α)) (h : Host) :
    armed token socket operation endpoint call h =
      match h.granted [operation] endpoint with
      | .error e => .ok (.error e) (h.supplied [operation])
      | .ok () => runArmed token socket operation endpoint call (h.supplied [operation]) := by
  rw [armed, Act.bind_apply, request_apply]
  dsimp only
  cases h.granted [operation] endpoint <;> rfl

namespace Net

/-- What the system is asked for to create a socket that may reuse a port. -/
def reuseRequests : List String := ["create socket for", "set SO_REUSEADDR on"]

/-- What the system is asked for before a socket can begin to listen. -/
def listenRequests : List String := reuseRequests ++ ["listen on"]

/-- What the system is asked for before a socket can be connected. -/
def connectRequests : List String := ["create socket for"] ++ ["connect to"]

theorem create_apply (endpoint : Endpoint) (h : Host) :
    create endpoint h = .ok ((h.granted ["create socket for"] endpoint).map fun _ => h.socketCount)
      (h.opened ["create socket for"]) := by
  rw [create, Act.bind_apply, request_apply]
  unfold opened granted ask
  cases h.supply.headD none <;> rfl

theorem createReusing_apply (endpoint : Endpoint) (h : Host) :
    createReusing endpoint h =
      .ok ((h.granted reuseRequests endpoint).map fun _ => h.socketCount)
        (h.opened reuseRequests) := by
  have split : reuseRequests = ["create socket for"] ++ ["set SO_REUSEADDR on"] := rfl
  rw [createReusing, Act.bind_apply, create_apply, split]
  cases first : h.granted ["create socket for"] endpoint with
  | error e =>
    obtain ⟨refused, opened⟩ := refused_further first ["set SO_REUSEADDR on"]
    rw [refused, opened]
    rfl
  | ok =>
    obtain ⟨granted, supplied⟩ := granted_further first ["set SO_REUSEADDR on"]
    rw [← granted, ← supplied]
    simp only [Except.map, bind_pure_comp, Functor.map, EStateM.map, request_apply]

/-- What is left of a call that begins to listen once nothing was refused. -/
def listenOn (token : String) (socket port : Nat) : Act (Except NetError Nat) := do
  match ← runArmed token socket "listen on" (.loopback port) (claimPort socket port) with
  | .error e => return .error e
  | .ok () =>
    note .debug s!"listening on {(Endpoint.loopback port).describe}"
    return .ok socket

theorem listen_apply (token : String) (port : Nat) (h : Host) :
    listen token port h =
      match h.granted listenRequests (.loopback port) with
      | .error e => .ok (.error e) (h.opened listenRequests)
      | .ok () => listenOn token h.socketCount port (h.opened listenRequests) := by
  rw [listen, Act.bind_apply, createReusing_apply, listenRequests]
  cases first : h.granted reuseRequests (.loopback port) with
  | error e =>
    obtain ⟨refused, opened⟩ : h.granted (reuseRequests ++ ["listen on"]) (.loopback port) =
          .error e ∧ h.opened (reuseRequests ++ ["listen on"]) = h.opened reuseRequests :=
      refused_further first ["listen on"]
    rw [refused, opened]
    rfl
  | ok =>
    obtain ⟨granted, supplied⟩ : (h.opened reuseRequests).granted ["listen on"] (.loopback port) =
          h.granted (reuseRequests ++ ["listen on"]) (.loopback port) ∧
        (h.opened reuseRequests).supplied ["listen on"] =
          h.opened (reuseRequests ++ ["listen on"]) := granted_further first ["listen on"]
    rw [← granted, ← supplied]
    simp only [Except.map]
    rw [Act.bind_apply, armed_apply]
    cases (h.opened reuseRequests).granted ["listen on"] (.loopback port) with
    | error e => rfl
    | ok =>
      dsimp only [listenOn]
      exact (Act.bind_apply _ _ _).symm

theorem connect_apply (token : String) (port : Nat) (h : Host) :
    connect token port h =
      match h.granted connectRequests (.loopback port) with
      | .error e => .ok (.error e) (h.opened connectRequests)
      | .ok () => runArmed token h.socketCount "connect to" (.loopback port)
          (dial h.socketCount port) (h.opened connectRequests) := by
  rw [connect, Act.bind_apply, create_apply, connectRequests]
  cases first : h.granted ["create socket for"] (.loopback port) with
  | error e =>
    obtain ⟨refused, opened⟩ := refused_further first ["connect to"]
    rw [refused, opened]
    rfl
  | ok =>
    obtain ⟨granted, supplied⟩ := granted_further first ["connect to"]
    rw [← granted, ← supplied]
    simp only [Except.map]
    rw [armed_apply]

end Net
end DebugBridge
