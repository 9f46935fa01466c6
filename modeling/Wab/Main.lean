import Wab.CommandLine.Run

/-!
# The program

The outer layer: takes the files that a run may touch from the file system, runs, and puts into
effect what the run leaves. No page is known.
-/

namespace Wab

/-- What stands at a path of the file system. -/
def nodeAt? (path : String) : IO (Option Node) := do
  try
    if ← (← IO.FS.realPath path).isDir then return some .folder
    return some (.file (← IO.FS.readBinFile path).toList)
  catch _ => return none

/-- The names of an absolute path with its dots resolved. -/
def placeOf (path : Bytes) : Place :=
  (path.splitOn Files.slash).foldl
    (fun place name =>
      if name = [] ∨ name = [Files.dot] then place
      else if name = [Files.dot, Files.dot] then place.dropLast
      else place ++ [name])
    []

/-- The path of a place. -/
def pathOf (place : Place) : String :=
  Text.str (Utf8.decodeLossy (Files.slash :: List.intercalate [Files.slash] place))

/-- Takes over what stands at a place and at the folders above it. -/
def takeOver (f : Files) (place : Place) : IO Files :=
  (List.range (place.length + 1)).foldlM
    (fun f n => do
      let part := place.take n
      match ← nodeAt? (pathOf part) with
      | some node => return if n = 0 then f else f.put part node
      | none => return f)
    f

/-- The paths that a run may touch. -/
def touched (w : World) (arguments : List Text) : List Text :=
  match CommandLine.parse arguments with
  | .error _ => []
  | .ok i =>
    let archive := match Locator.source (Locator.split (i.locator.getD [])).1 with
      | .ok (.file path) => [w.expand path]
      | _ => []
    [Config.defaultFile, i.configFile, i.output].filter (· ≠ []) ++ archive

/-- The home folders of users by name. -/
def homeFolders : IO (Dictionary Text) := do
  try
    let users := (Text.of (← IO.FS.readFile "/etc/passwd")).splitOn (.scalar '\n')
    return users.filterMap fun user =>
      match user.splitOn (.scalar ':') with
      | [name, _, _, _, _, home, _] => some (name, home)
      | _ => none
  catch _ => return []

/-- The surroundings with what stands at the paths that a run may touch. -/
def surroundings (arguments : List Text) : IO World := do
  let folder := Utf8.bytes (← IO.currentDir).toString.toList
  let home := (← IO.getEnv "HOME").getD "/"
  let empty : World :=
    { files := { current := placeOf folder }, home := home, homes := ← homeFolders }
  let paths := (touched empty arguments).filterMap fun path =>
    (Utf8.encodePath path).toOption.map fun path =>
      if path.head? = some Files.slash then path else folder ++ Files.slash :: path
  let files ← (folder :: paths).foldlM (fun f path => takeOver f (placeOf path)) empty.files
  return { empty with files := files }

/-- Writes the file that a run has written. -/
def putIntoEffect (arguments : List Text) (o : Outcome) : IO Unit := do
  (← IO.getStdout).write ⟨o.output.toArray⟩
  match CommandLine.parse arguments with
  | .ok i =>
    if o.ending = .exit 0 ∧ i.output ≠ [] then
      match o.files.read i.output with
      | .ok content => IO.FS.writeBinFile (Text.str i.output) ⟨content.toArray⟩
      | .error _ => return
  | .error _ => return

end Wab

open Wab in
/-- Runs the command line. -/
def main (arguments : List String) : IO UInt32 := do
  let arguments := arguments.map Text.of
  let outcome := CommandLine.run Toml.parse (← surroundings arguments) arguments
  IO.eprint outcome.report
  putIntoEffect arguments outcome
  match outcome.ending with
  | .exit code => return UInt32.ofNat code
  | .fault cause =>
    IO.eprintln cause.message
    return 1
