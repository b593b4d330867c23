import DebugBridge.CommandLine.Grammar

/-!
# Reading arguments

Arguments are read from left to right. An option whose value is a word of its own waits for it, and
is judged only when something shows that it is over: another option, or the end of the arguments of
its level. A request for help or for the version is answered as soon as it is read; whatever follows
it does not matter any more.
-/

namespace DebugBridge.CommandLine

inductive Topic where
  | program
  | command (v : Verb)
  | help
  deriving DecidableEq, Repr

inductive Stop where
  /-- They do not follow the grammar. -/
  | usage
  | help (topic : Topic)
  | version
  deriving DecidableEq, Repr

inductive Word where
  /-- Two hyphens: everything after them is meant literally. -/
  | separator
  /-- The text after two hyphens. -/
  | long (text : List Char)
  /-- The text after one hyphen, which is not empty. -/
  | short (letters : List Char)
  | plain
  deriving DecidableEq, Repr

def Word.ofArgument (argument : String) : Word :=
  match argument.toList with
  | ['-', '-'] => .separator
  | '-' :: '-' :: text => .long text
  | '-' :: c :: letters => .short (c :: letters)
  | _ => .plain

structure Reading where
  /-- Those that were accepted, with their values. -/
  accepted : List (Opt × Option String) := []
  /-- The last one that has its value, if any, in words of its own. -/
  waiting? : Option (Opt × Option String) := none
  deriving DecidableEq, Repr

namespace Reading

def has (r : Reading) (o : Opt) : Bool := r.accepted.any (·.1 = o)

def value? (r : Reading) (o : Opt) : Option String := (r.accepted.lookup o).join

/-- Accept an option, which must not be there yet and whose value must be one. -/
def accept (r : Reading) (o : Opt) (value? : Option String) : Except Stop Reading :=
  if r.has o then .error .usage
  else if value?.all o.accepts then .ok { r with accepted := r.accepted ++ [(o, value?)] }
  else .error .usage

def settle (r : Reading) : Except Stop Reading :=
  match r.waiting? with
  | none => .ok r
  | some (_, none) => .error .usage
  | some (o, some value) => { r with waiting? := none }.accept o (some value)

def take (r : Reading) (level : Option Verb) (o : Opt) (value? : Option String) :
    Except Stop Reading := do
  let r ← r.settle
  match o with
  | .help => throw (.help (level.elim .program .command))
  | .version => throw .version
  | o => r.accept o value?

/-- Read an option whose value is still to come. -/
def await (r : Reading) (o : Opt) : Except Stop Reading :=
  r.settle.map fun r => { r with waiting? := some (o, none) }

/-- Read the option of a long name, with a value after an equals sign. -/
def takeLong (r : Reading) (level : Option Verb) (text : List Char) : Except Stop Reading :=
  let name := text.takeWhile (· ≠ '=')
  let value? := match text.dropWhile (· ≠ '=') with
    | [] => none
    | _ :: value => some (String.ofList value)
  match (optionsAt level).find? (·.long.toList = name) with
  | none => .error .usage
  | some o =>
    match o.carriesValue, value? with
    | true, none => r.await o
    | false, some _ => .error .usage
    | _, value? => r.take level o value?

def optionOf? (level : Option Verb) (c : Char) : Option Opt :=
  (optionsAt level).find? (·.short? = some c)

/-- Read the options of short names that stand together, of which one that carries a value takes the
rest. -/
def takeShort (r : Reading) (level : Option Verb) : List Char → Except Stop Reading
  | [] => .ok r
  | c :: rest =>
    match optionOf? level c with
    | none => .error .usage
    | some o =>
      if o.carriesValue then
        match rest with
        | [] => r.await o
        | '=' :: value => r.take level o (some (String.ofList value))
        | value => r.take level o (some (String.ofList value))
      else do (← r.take level o none).takeShort level rest

end Reading

structure Arguments where
  options : Reading
  /-- The command and the arguments after it. -/
  command? : Option (Verb × List String) := none
  /-- The words after the separator. -/
  literal : List String := []
  deriving DecidableEq, Repr

def topic? : List String → Option Topic
  | [] => some .program
  | ["help"] => some .help
  | [name] => (Verb.ofName? name).map .command
  | _ => none

def readArgumentsFrom (level : Option Verb) : List String → Reading → Except Stop Arguments
  | [], r => .ok { options := r }
  | argument :: rest, r =>
    match Word.ofArgument argument with
    | .separator => .ok { options := r, literal := rest }
    | .long text => do readArgumentsFrom level rest (← r.takeLong level text)
    | .short letters => do readArgumentsFrom level rest (← r.takeShort level letters)
    | .plain =>
      match r.waiting?, level with
      | some (o, none), _ =>
        readArgumentsFrom level rest { r with waiting? := some (o, some argument) }
      | _, some _ => .error .usage
      | _, none =>
        if argument = "help" then .error ((topic? rest).elim .usage .help)
        else match Verb.ofName? argument with
          | some v => .ok { options := r, command? := some (v, rest) }
          | none => .error .usage

abbrev Reader := Option Verb → List String → Except Stop Arguments

def readArguments : Reader := fun level arguments => readArgumentsFrom level arguments {}

end DebugBridge.CommandLine
