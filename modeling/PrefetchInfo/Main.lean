import PrefetchInfo.CommandLine.Run

/-!
# The command

Looks at the files that the arguments name, runs the tool on what it found, and carries out what the
run did: writes its output and adds to its log file.
-/

namespace PrefetchInfo.Command

open CommandLine

/-- The text of a path as the system is asked about it. -/
def textOf (route : Route) : String :=
  "/" ++ "/".intercalate (route.map Utf8.lossy)

/-- The failure that the system reports with an error. -/
def failureOf : IO.Error → Failure
  | .permissionDenied _ code _ => .errno code.toNat
  | error => .described .other (toString error)

/-- Adds to a tree what the system has at a route. -/
def observe (tree : FileTree) (route : Route) : IO FileTree := do
  let file := (← IO.currentDir) / textOf route
  if (tree.entry? route).isSome then return tree
  else if ← file.isDir then return tree.put route .folder
  else if ← file.pathExists then
    try return tree.put route (.file (← IO.FS.readBinFile file).data.toList)
    catch error => return tree.put route (.refusing (failureOf error))
  else return tree

/-- Adds to a tree what the system has along a path. -/
def explore (tree : FileTree) (bytes : Bytes) : IO FileTree := do
  let path := Path.ofBytes bytes
  let (tree, _) ← path.names.foldlM (fun (found : FileTree × Route) name => do
    let (tree, route) := found
    if name = Path.here then return (tree, route)
    else if name = Path.above then return (tree, route.dropLast)
    else return (← observe tree (route ++ [name]), route ++ [name])) (tree, tree.start path)
  return tree

/-- Appends to a file of the system what a run has added to it. -/
def carryOut (before after : FileTree) (route : Route) : IO Unit := do
  match after.content? route with
  | none => return
  | some content =>
    let old := ((before.content? route).getD []).length
    if before.content? route = some content then return
    let handle ← IO.FS.Handle.mk ((← IO.currentDir) / textOf route) .append
    handle.write ⟨(content.drop old).toArray⟩

/-- How the tool is called. -/
def usage : String :=
  "Usage: sccainfo [OPTIONS] [FILE]"

/-- Runs the tool. -/
def execute (invocation : Invocation) : IO UInt32 := do
  let here ← IO.currentDir
  let start := FileTree.fresh (Path.ofBytes (utf8 here.toString)).names
  let paths := invocation.source.toList ++ invocation.logFile.toList
  let before ← paths.foldlM explore start
  let ending := launch Sink.device (fun _ => []) invocation {} before
  let filter := LogFilter.ofSettings invocation.verbosity (utf8 ((← IO.getEnv "RUST_LOG").getD ""))
  for (route, _) in ending.world.files.entries do
    carryOut before ending.world.files route
  (← IO.getStdout).write ⟨ending.stdout.accepted.toArray⟩
  (← IO.getStderr).write ⟨(ending.stderr filter).toArray⟩
  return UInt32.ofNat (ending.exitCode?.getD 1)

end PrefetchInfo.Command

open PrefetchInfo CommandLine in
/-- The command: shows information about a prefetch file. -/
def main (arguments : List String) : IO UInt32 := do
  match Invocation.ofArguments (arguments.map utf8) with
  | .ok invocation => Command.execute invocation
  | .error (.usage error) =>
    (← IO.getStderr).write ⟨error.plainReport.toArray⟩
    return 2
  | .error .helpWanted =>
    IO.println Command.usage
    return 0
