import DebugBridge.Process.Outcome
import DebugBridge.Text.Digits
import DebugBridge.Text.Utf8

/-!
# Shell scripts

A script for the shell is cut into words and operators; commands are joined to pipelines by bars,
and pipelines follow one another unconditionally or depending on how the one before ended. A command
reads the bytes that the command before it in the pipeline wrote, and writes its own.
-/

namespace DebugBridge.Shell

/-- One character of a word, or what is put there when the word is used. -/
inductive Piece where
  | char (c : Char)
  /-- The status of the last pipeline. -/
  | status
  /-- The shell's own process. -/
  | self
  deriving DecidableEq, Repr

inductive Joint where
  | always
  | onSuccess
  | onFailure
  deriving DecidableEq, Repr

inductive Token where
  | word (w : List Piece)
  | joint (j : Joint)
  | bar
  /-- The next word says where a stream goes. -/
  | redirect (stream : Char)
  deriving DecidableEq, Repr

inductive Quote where
  | plain
  | single
  | double
  deriving DecidableEq, Repr

def flush : Option (List Piece) → List Token
  | none => []
  | some w => [.word w.reverse]

/-- The word with one more piece; words are built backwards. -/
def extend (p : Piece) (w? : Option (List Piece)) : Option (List Piece) := some (p :: w?.getD [])

/-- A redirection here: a digit right before it names the stream. -/
def redirection : Option (List Piece) → List Token
  | some [.char '2'] => [.redirect '2']
  | some [.char '1'] => [.redirect '1']
  | w? => flush w? ++ [.redirect '1']

def lex : Quote → Option (List Piece) → List Char → List Token
  | .plain, w?, [] => flush w?
  | _, w?, [] => flush w?
  | .single, w?, '\'' :: s => lex .plain w? s
  | .single, w?, c :: s => lex .single (extend (.char c) w?) s
  | .double, w?, '"' :: s => lex .plain w? s
  | .double, w?, '\\' :: '"' :: s => lex .double (extend (.char '"') w?) s
  | .double, w?, '\\' :: '\\' :: s => lex .double (extend (.char '\\') w?) s
  | .double, w?, '\\' :: '$' :: s => lex .double (extend (.char '$') w?) s
  | q, w?, '$' :: '?' :: s => lex q (extend .status w?) s
  | q, w?, '$' :: '$' :: s => lex q (extend .self w?) s
  | .double, w?, c :: s => lex .double (extend (.char c) w?) s
  | .plain, w?, '\'' :: s => lex .single (some (w?.getD [])) s
  | .plain, w?, '"' :: s => lex .double (some (w?.getD [])) s
  | .plain, w?, '\\' :: c :: s => lex .plain (extend (.char c) w?) s
  | .plain, w?, ' ' :: s => flush w? ++ lex .plain none s
  | .plain, w?, '\t' :: s => flush w? ++ lex .plain none s
  | .plain, w?, '\n' :: s => flush w? ++ .joint .always :: lex .plain none s
  | .plain, w?, ';' :: s => flush w? ++ .joint .always :: lex .plain none s
  | .plain, w?, '&' :: '&' :: s => flush w? ++ .joint .onSuccess :: lex .plain none s
  | .plain, w?, '|' :: '|' :: s => flush w? ++ .joint .onFailure :: lex .plain none s
  | .plain, w?, '|' :: s => flush w? ++ .bar :: lex .plain none s
  | .plain, w?, '>' :: s => redirection w? ++ lex .plain none s
  | .plain, w?, c :: s => lex .plain (extend (.char c) w?) s

inductive Target where
  | output
  | diagnostics
  | nowhere
  deriving DecidableEq, Repr

structure Simple where
  words : List (List Piece) := []
  target : Target := .output
  deriving DecidableEq, Repr

def target (w : List Piece) : Target :=
  if w = [.char '&', .char '2'] then .diagnostics
  else if w = [.char '&', .char '1'] then .output
  else .nowhere

def simple : List Token → Simple
  | [] => {}
  | .redirect stream :: .word w :: rest =>
    let c := simple rest
    if stream = '1' && c.target = .output then { c with target := target w } else c
  | .word w :: rest =>
    let c := simple rest
    { c with words := w :: c.words }
  | _ :: rest => simple rest

def splitBars : List Token → List (List Token)
  | [] => [[]]
  | .bar :: rest => [] :: splitBars rest
  | t :: rest =>
    match splitBars rest with
    | [] => [[t]]
    | first :: others => (t :: first) :: others

def pipelines : Joint → List Token → List (Joint × List Simple)
  | j, tokens =>
    let rec go (j : Joint) (begun : List Token) : List Token → List (Joint × List Simple)
      | [] => [(j, (splitBars begun.reverse).map simple)]
      | .joint next :: rest =>
        (j, (splitBars begun.reverse).map simple) :: go next [] rest
      | t :: rest => go j (t :: begun) rest
    go j [] tokens

structure Run where
  output : List UInt8 := []
  status : Nat := 0
  /-- How the shell ended, once the script has come to an end. -/
  ended? : Option Status := none
  /-- It has slept at least once. -/
  slow : Bool := false
  deriving Repr

def Run.text (r : Run) (w : List Piece) : List Char :=
  w.flatMap fun
    | .char c => [c]
    | .status => (toString r.status).toList
    | .self => "$$".toList

structure Effect where
  output : List UInt8 := []
  status : Nat := 0
  exits? : Option Status := none
  slow : Bool := false

def unescape : List Char → List UInt8
  | '\\' :: 'n' :: s => 10 :: unescape s
  | '\\' :: 't' :: s => 9 :: unescape s
  | '\\' :: 'r' :: s => 13 :: unescape s
  | '\\' :: '\\' :: s => 92 :: unescape s
  | '\\' :: a :: b :: c :: s =>
    match Text.numberIn? 8 [a, b, c] with
    | some n => UInt8.ofNat n :: unescape s
    | none => 92 :: unescape (a :: b :: c :: s)
  | c :: s => Utf8.encode (String.singleton c) ++ unescape s
  | [] => []

def format : List (List Char) → List Char → List UInt8
  | args, '%' :: 's' :: s => Utf8.encode (String.ofList (args.headD [])) ++ format (args.drop 1) s
  | args, '%' :: 'd' :: s => Utf8.encode (String.ofList (args.headD [])) ++ format (args.drop 1) s
  | args, '%' :: '%' :: s => 37 :: format args s
  | args, '\\' :: 'n' :: s => 10 :: format args s
  | args, '\\' :: 't' :: s => 9 :: format args s
  | args, '\\' :: 'r' :: s => 13 :: format args s
  | args, '\\' :: '\\' :: s => 92 :: format args s
  | args, '\\' :: a :: b :: c :: s =>
    match Text.numberIn? 8 [a, b, c] with
    | some n => UInt8.ofNat n :: format args s
    | none => 92 :: format args (a :: b :: c :: s)
  | args, c :: s => Utf8.encode (String.singleton c) ++ format args s
  | _, [] => []

def spaced (ws : List (List Char)) : List Char := (ws.intersperse [' ']).flatten

/-- The first bytes of what `head` reads, from a file of zeros or from the command before. -/
def head (n : Nat) (file? : Option (List Char)) (input : List UInt8) : List UInt8 :=
  match file? with
  | some _ => List.replicate n 0
  | none => input.take n

def trByte (w : List Char) : Option UInt8 := (unescape w).head?

def effect (r : Run) (words : List (List Char)) (input : List UInt8) : Effect :=
  match words with
  | [] => {}
  | name :: args =>
    match String.ofList name, args with
    | "exit", args =>
      let n := ((args.head?).bind Text.number?).getD r.status % 256
      { status := n, exits? := some (.exited (.ofNat n)) }
    | "kill", args =>
      if args.any (· = "-0".toList) then {}
      else if args.any (· = "$$".toList) then { exits? := some .signalled }
      else { status := 1 }
    | "printf", f :: args => { output := format args f }
    | "echo", args =>
      let newline := args.head? ≠ some "-n".toList
      let shown := if newline then args else args.drop 1
      { output := unescape (spaced shown) ++ if newline then [10] else [] }
    | "sleep", args => { slow := args.any fun a => a.any (· ∈ "123456789".toList) }
    | "cat", [] => { output := input }
    | "cat", _ => {}
    | "true", _ => {}
    | ":", _ => {}
    | "false", _ => { status := 1 }
    | "head", ['-', 'c'] :: n :: file =>
      { output := head ((Text.number? n).getD 0) file.head? input }
    | "tr", [a, b] =>
      match trByte a, trByte b with
      | some a, some b => { output := input.map fun x => if x = a then b else x }
      | _, _ => { status := 1 }
    | _, _ => { status := 127 }

/-- Run the commands of a pipeline on the bytes that the first of them reads. The shell itself runs
a command that stands alone; in a longer pipeline no command ends the script. -/
def runPipeline (r : Run) (alone : Bool) (input : List UInt8) : List Simple → Run
  | [] => r
  | c :: rest =>
    let e := effect r (c.words.map r.text) input
    let slow := r.slow || e.slow
    match rest with
    | [] =>
      let shown := if c.target = .output then e.output else []
      { r with
        output := r.output ++ shown, status := e.status, slow := slow,
        ended? := if alone then e.exits? else none }
    | _ =>
      let passed := if c.target = .output then e.output else []
      runPipeline { r with slow := slow } false passed rest

def Joint.admits (j : Joint) (status : Nat) : Bool :=
  match j with
  | .always => true
  | .onSuccess => status = 0
  | .onFailure => status ≠ 0

def step (r : Run) (p : Joint × List Simple) : Run :=
  if r.ended?.isSome || !p.1.admits r.status || p.2.all (·.words.isEmpty) then r
  else runPipeline r true [] p.2

/-- Run a script: what it wrote, its outcome, and whether it took time. -/
def run (script : String) : Run :=
  let r := (pipelines .always (lex .plain none script.toList)).foldl step {}
  { r with ended? := some (r.ended?.getD (.exited (.ofNat r.status))) }

end DebugBridge.Shell
