import DebugBridge.Config.Document
import DebugBridge.Config.Files

/-!
# Where the configuration is kept

The configuration is a file in the user's configuration directory. A file that is not there yet
gives the standard configuration. Saving makes the directories on the way.
-/

namespace DebugBridge.Config

/-- The path of the configuration, given the configuration directory and the home directory of the
environment. -/
def path? (configHome? home? : Option String) : Option String :=
  (configHome?.or (home?.map (Files.join · ".config"))).map fun base =>
    Files.join (Files.join base "adbtun") "config.toml"

/-- The path of the configuration, or why there is none. -/
def path (configHome? home? : Option String) : Except ConfigError String :=
  match path? configHome? home? with
  | some p => .ok p
  | none => .error .noDirectory

/-- The configuration in a file's content; there may be no such file. -/
def ofContent (codec : Toml.Codec) (path : String) (content : Except Fault (Option (List UInt8))) :
    Except ConfigError Config :=
  match content with
  | .error cause => .error (.io path cause)
  | .ok none => ({} : Config).portRange.map fun _ => {}
  | .ok (some bytes) =>
    match Utf8.decodeStrict? bytes with
    | none => .error (.io path .invalidText)
    | some text => ofDocument codec text

def load (codec : Toml.Codec) (fs : Files) (path : String) : Except ConfigError Config :=
  ofContent codec path (fs.read path)

/-- Save the configuration to a path: whether that worked, and the files then. The directories on
the way are made first, and stay when the rest fails. -/
def store (codec : Toml.Codec) (fs : Files) (path : String) (c : Config) :
    Except ConfigError Unit × Files :=
  match fs.makeWay path with
  | (.error cause, fs) => (.error (.io ((Files.parent? path).getD path) cause), fs)
  | (.ok (), fs) =>
    match codec.write c.parts with
    | none => (.error .unwritable, fs)
    | some text =>
      match fs.write path (Utf8.encode text) with
      | .error cause => (.error (.io path cause), fs)
      | .ok fs => (.ok (), fs)

/-- The files after the configuration was saved to a path, if that worked. -/
def save (codec : Toml.Codec) (fs : Files) (path : String) (c : Config) :
    Except ConfigError Files :=
  let (result, fs) := store codec fs path c
  result.map fun _ => fs

end DebugBridge.Config
