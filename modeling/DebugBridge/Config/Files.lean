import DebugBridge.Fault
import DebugBridge.Text.Lines
import DebugBridge.Text.Utf8

/-!
# Files

Files and directories, each with its place below the root or below the working directory. A path is
followed part by part; it ends at something, or at a free name in a directory, or it leads nowhere,
because a directory on the way is missing or is none.
-/

namespace DebugBridge

inductive FileEntry where
  | file (bytes : List UInt8)
  | directory
  deriving DecidableEq, Repr

/-- A place: the names that lead to it from the root or from the working directory. -/
structure Place where
  fromRoot : Bool := false
  names : List String := []
  deriving DecidableEq, Repr

/-- All files and directories. Root and working directory are always there. -/
structure Files where
  entries : List (Place × FileEntry) := []
  deriving DecidableEq, Repr

inductive PathError where
  | notFound
  | notDirectory
  deriving DecidableEq, Repr

inductive Destination where
  | present (place : Place) (entry : FileEntry)
  | free (place : Place)
  deriving DecidableEq, Repr

namespace Files

def parts (path : String) : List String :=
  ((Text.pieces (· == '/') path.toList).filter (!·.isEmpty)).map String.ofList

def entry? (fs : Files) (p : Place) : Option FileEntry :=
  if p.names.isEmpty then some .directory
  else (fs.entries.find? (·.1 = p)).map (·.2)

def put (fs : Files) (p : Place) (e : FileEntry) : Files :=
  ⟨fs.entries.filter (·.1 ≠ p) ++ [(p, e)]⟩

def follow (fs : Files) : Place → List String → Except PathError Destination
  | p, [] => match fs.entry? p with
    | some e => .ok (.present p e)
    | none => .ok (.free p)
  | p, name :: rest =>
    match fs.entry? p with
    | none => .error .notFound
    | some (.file _) => .error .notDirectory
    | some .directory =>
      if name = "." then fs.follow p rest
      else if name = ".." then fs.follow { p with names := p.names.dropLast } rest
      else fs.follow { p with names := p.names ++ [name] } rest

/-- Where a path ends. A path that ends in a slash must not end at a file. -/
def resolve (fs : Files) (path : String) : Except PathError Destination := do
  if path.isEmpty then throw .notFound
  let d ← fs.follow { fromRoot := path.toList.head? = some '/' } (parts path)
  match d with
  | .present _ (.file _) =>
    if path.toList.getLast? = some '/' then throw .notDirectory else return d
  | _ => return d

def contains (fs : Files) (path : String) : Bool :=
  match fs.resolve path with
  | .ok (.present ..) => true
  | _ => false

/-- The content of a file, or what reading it comes to: nothing when there is no such file. -/
def read (fs : Files) (path : String) : Except Fault (Option (List UInt8)) :=
  match fs.resolve path with
  | .ok (.present _ (.file bytes)) => .ok (some bytes)
  | .ok (.present _ .directory) => .error .isDirectory
  | .ok (.free _) => .ok none
  | .error .notFound => .ok none
  | .error .notDirectory => .error .notDirectory

/-- A path, read from its end, without slashes there and without last parts that stay in place. -/
def trimEnd : List Char → List Char
  | '/' :: path => trimEnd path
  | '.' :: '/' :: path => trimEnd path
  | path => path

/-- The path of the directory that a path is in; the root is in none. -/
def parent? (path : String) : Option String :=
  let trimmed := trimEnd path.toList.reverse
  if trimmed.isEmpty then none
  else
    let above := trimmed.dropWhile (· ≠ '/')
    let directory := trimEnd above
    if directory.isEmpty && !above.isEmpty then some "/"
    else some (String.ofList directory.reverse)

def makeDirectory (fs : Files) (path : String) : Except Fault Files :=
  match fs.resolve path with
  | .ok (.free p) => .ok (fs.put p .directory)
  | .ok (.present _ .directory) => .ok fs
  | .ok (.present _ (.file _)) => .error .fileExists
  | .error .notFound => .error .notFound
  | .error .notDirectory => .error .notDirectory

/-- The paths to the directories on the way to a path, itself the last. -/
def ancestry (path : String) : List String :=
  let rooted := path.toList.head? = some '/'
  let ps := parts path
  (List.range' 1 ps.length).map fun n =>
    (if rooted then "/" else "") ++ String.intercalate "/" (ps.take n)

/-- Make directories one after another, up to the first that cannot be made. -/
def makeEach : Files → List String → Except Fault Unit × Files
  | fs, [] => (.ok (), fs)
  | fs, path :: rest =>
    match fs.makeDirectory path with
    | .ok fs => fs.makeEach rest
    | .error cause => (.error cause, fs)

/-- Make a directory and those missing on the way to it. What was made stays there when a further
one cannot be made. -/
def makeDirectories (fs : Files) (path : String) : Except Fault Unit × Files :=
  match fs.makeDirectory path with
  | .ok fs => (.ok (), fs)
  | .error .notFound => fs.makeEach (ancestry path)
  | .error cause => (.error cause, fs)

def makeWay (fs : Files) (path : String) : Except Fault Unit × Files :=
  match parent? path with
  | none => (.ok (), fs)
  | some directory => fs.makeDirectories directory

/-- Write a file. A path that ends in a slash is none of a file. -/
def write (fs : Files) (path : String) (bytes : List UInt8) : Except Fault Files :=
  match fs.resolve path with
  | .ok (.free p) =>
    if path.toList.getLast? = some '/' then .error .isDirectory else .ok (fs.put p (.file bytes))
  | .ok (.present p (.file _)) => .ok (fs.put p (.file bytes))
  | .ok (.present _ .directory) => .error .isDirectory
  | .error .notFound => .error .notFound
  | .error .notDirectory => .error .notDirectory

def join (base relative : String) : String :=
  if base.isEmpty then relative
  else if base.toList.getLast? = some '/' then base ++ relative
  else base ++ "/" ++ relative

end Files
end DebugBridge
