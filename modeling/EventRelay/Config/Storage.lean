import EventRelay.Config.Document
import EventRelay.Files

namespace EventRelay.Config

def load (fs : FileSystem) (path : Path) : Outcome Config :=
  if ¬ fs.exists? path then .ok {}
  else
    match fs.readText path with
    | .error e => .error (e.onFile path "read config file")
    | .ok text =>
      match parse? text with
      | some c => .ok c
      | none => .error (.config "Failed to parse config file" ["not a table of settings"])

def save (c : Config) (fs : FileSystem) (path : Path) : FileSystem × Outcome Unit :=
  match fs.makeParent path "create config directory" with
  | (fs, .error e) => (fs, .error e)
  | (fs, .ok ()) =>
    match c.render? with
    | none =>
      (fs, .error (.config "Failed to serialize config" ["out-of-range value for u64 type"]))
    | some text =>
      match fs.write path (.ofString text) with
      | .error e => (fs, .error (e.onFile path "write config file"))
      | .ok fs => (fs, .ok ())

def defaultPath (home : Path) : Path := (home.join ⟨".notify-relay"⟩).join ⟨"config.toml"⟩

end EventRelay.Config
