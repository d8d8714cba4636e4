import EventRelay.Files

namespace EventRelay.Disk

def passed (start : Location) (names : List String) : List Location :=
  match names with
  | [] => [start]
  | ".." :: names => start :: passed start.parent names
  | name :: names => start :: passed (start.child name) names

def locations (start : Location) (path : Path) : List Location :=
  let names := path.names.filter (· != ".")
  if path.isAbsolute then passed .root names
  else (passed .root start.names.reverse).dropLast ++ passed start names

def look (l : Location) : IO (Option FileNode) := do
  try
    let content ← IO.FS.readBinFile l.text
    return some (.file content.toList)
  catch
    | .inappropriateType .. => return some .directory
    | _ => return none

def see (fs : FileSystem) (l : Location) : IO FileSystem := do
  if (fs.node? l).isSome ∨ fs.node? l.parent ≠ some .directory then return fs
  match ← look l with
  | some node => return fs.put l node
  | none => return fs

def seen (directory : Location) (paths : List Path) : IO FileSystem := do
  let all := paths.flatMap (locations directory)
  all.foldlM see { FileSystem.empty with workingDirectory := directory }

def settle (before after : FileSystem) (l : Location) : IO Unit := do
  if before.at? l = after.at? l then return
  match after.at? l with
  | some .directory => IO.FS.createDir l.text
  | some (.file content) => IO.FS.writeBinFile l.text ⟨content.toArray⟩
  | none => IO.FS.removeFile l.text

def keep (before after : FileSystem) (paths : List Path) : IO Unit :=
  (paths.flatMap (locations before.workingDirectory)).eraseDups.forM (settle before after)

end EventRelay.Disk
