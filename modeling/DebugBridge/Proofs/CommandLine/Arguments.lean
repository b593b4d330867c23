import DebugBridge.CommandLine.Invocation

/-!
# The options of a command

Arguments that are an invocation name a command, and its task is made of the options that were given
to that command. The selector among them is the one that the device options mean.
-/

namespace DebugBridge

theorem ok_of_bind {ε α β : Type} {x : Except ε α} {f : α → Except ε β} {b : β}
    (e : x >>= f = .ok b) : ∃ a, x = .ok a ∧ f a = .ok b := by
  cases x with
  | error cause => cases e
  | ok a => exact ⟨a, rfl, e⟩

theorem ok_of_map {ε α β : Type} {x : Except ε α} {f : α → β} {b : β}
    (e : x.map f = .ok b) : ∃ a, x = .ok a ∧ f a = b := by
  cases x with
  | error cause => cases e
  | ok a => exact ⟨a, rfl, Except.ok.inj e⟩

namespace CommandLine

def Command.device? : Command → Option (Option Selector)
  | .devices | .serialno => none
  | .select given? | .ip given? | .tunnel given? _ _ | .tcpip given? _ | .shell given? _ =>
    some given?

/-- The options of the command that the arguments name, once all of them were read. -/
def OwnOptions (reader : Reader) (arguments : List String) (own : Reading) : Prop :=
  ∃ before v rest after, reader none arguments = .ok before ∧
    before.command? = some (v, rest) ∧ reader (some v) rest = .ok after ∧
    after.options.settle = .ok own

variable {reader : Reader} {arguments : List String} {configured? : Option String} {i : Invocation}
  {command : Command} {given? : Option Selector}

/-- The selector of a command is the one that its options mean. -/
theorem selector_of_task {v : Verb} {own : Reading} {literal : List String}
    (made : v.task own literal = .ok (.command command))
    (concerns : command.device? = some given?) : own.selector? = .ok given? := by
  obtain ⟨selector?, meant, made⟩ := ok_of_bind made
  rw [meant]
  split at made <;> cases made <;> cases concerns <;> rfl

/-- The selector of an invocation is the one that the options of its command mean. -/
theorem selector_of_arguments (parsed : Invocation.ofArguments reader configured? arguments = .ok i)
    (task : i.task = .command command) (concerns : command.device? = some given?) :
    ∃ own, OwnOptions reader arguments own ∧ own.selector? = .ok given? := by
  obtain ⟨before, read, parsed⟩ := ok_of_bind parsed
  split at parsed
  · cases parsed
  · next v rest named =>
    obtain ⟨after, readOn, parsed⟩ := ok_of_bind parsed
    obtain ⟨own, settled, parsed⟩ := ok_of_bind parsed
    obtain ⟨-, -, parsed⟩ := ok_of_bind parsed
    obtain ⟨made, task', parsed⟩ := ok_of_bind parsed
    obtain ⟨outer, -, parsed⟩ := ok_of_bind parsed
    obtain ⟨-, -, parsed⟩ := ok_of_bind parsed
    obtain rfl := Except.ok.inj parsed
    obtain rfl : made = .command command := task
    exact ⟨own, ⟨before, v, rest, after, read, named, readOn, settled⟩,
      selector_of_task task' concerns⟩

end CommandLine
end DebugBridge
