import PrefetchInfo.Files.Path
import PrefetchInfo.Signature.Source
import PrefetchInfo.Device.Basic

/-!
# The file tree

The files a tool works on: a tree of folders, files, pipes, devices and whatever refuses to be opened, and
the working folder in it. A path is followed name by name to a `Route` from the root, so two paths to one
file lead to the same route, and what is appended through either is read through both. Standard output and
standard error stand apart from the tree: no path leads to them, and nothing that is written to them is
found in it.
-/

namespace PrefetchInfo

/-- The names that lead from the root to something in the tree. -/
abbrev Route := List Bytes

/-- The devices that can be opened like files. -/
inductive SpecialFile where
  /-- Reads as zeros and has no room for anything. -/
  | full
  /-- Reads as empty and swallows everything. -/
  | null
  /-- Reads as zeros and swallows everything. -/
  | zero
  deriving DecidableEq, Repr

/-- What is found in a folder. -/
inductive Entry where
  /-- A folder. -/
  | folder
  /-- A file and its content. -/
  | file (content : Bytes)
  /-- A pipe and what its writer will send. -/
  | pipe (content : Bytes)
  /-- A device. -/
  | device (special : SpecialFile)
  /-- Something that refuses to be opened, and why. -/
  | refusing (failure : Failure)
  deriving DecidableEq, Repr

/-- What opening an entry for reading comes to; a folder can be opened but not read. -/
def Entry.opened : Entry → Except Failure Source
  | folder => .ok (.ofFailure .isADirectory)
  | file content | pipe content => .ok (.ofBytes content)
  | device .null => .ok (.ofBytes [])
  | device .full | device .zero => .ok (.endless 0)
  | refusing failure => .error failure

/-- A tree of files. -/
structure FileTree where
  /-- Where paths start that do not start at the root. -/
  working : Route
  /-- The entries of the tree, each at its route; of two at one route the first counts. -/
  entries : List (Route × Entry)
  deriving Repr

namespace FileTree

/-- The entry at a route; the root is a folder. -/
def entry? (tree : FileTree) (route : Route) : Option Entry :=
  if route = [] then some .folder else tree.entries.lookup route

/-- The content of the file at a route. -/
def content? (tree : FileTree) (route : Route) : Option Bytes :=
  match tree.entry? route with
  | some (.file content) => some content
  | _ => none

/-- The tree with an entry put at a route in place of what was there. -/
def put (tree : FileTree) (route : Route) (entry : Entry) : FileTree :=
  { tree with entries := (route, entry) :: tree.entries.filter (·.1 ≠ route) }

/-- The tree with folders at a route and on the way there, where nothing else is. -/
def makeFolders (tree : FileTree) (route : Route) : FileTree :=
  (List.range (route.length + 1)).foldl (fun (tree : FileTree) count =>
    if (tree.entry? (route.take count)).isSome then tree else tree.put (route.take count) .folder)
    tree

/-- The folder of the devices. -/
def deviceFolder : Route := [utf8 "dev"]

/-- The devices of a tree, each with its name. -/
def devices : List (Bytes × SpecialFile) :=
  [(utf8 "full", .full), (utf8 "null", .null), (utf8 "zero", .zero)]

/-- The tree that holds the devices and an empty working folder. -/
def fresh (working : Route) : FileTree :=
  let tree := (FileTree.mk working []).makeFolders deviceFolder
  let tree := devices.foldl (fun (tree : FileTree) (name, special) =>
    tree.put (deviceFolder ++ [name]) (.device special)) tree
  tree.makeFolders working

/-- All files below the working folder, each with the names that lead there and its content. -/
def files (tree : FileTree) : List (Route × Bytes) :=
  tree.entries.filterMap fun (route, entry) =>
    match entry with
    | .file content =>
      if route.take tree.working.length = tree.working then
        some (route.drop tree.working.length, content)
      else none
    | _ => none

/-! ### Following a path -/

/-- Whether there is a folder at a route. -/
def isFolder (tree : FileTree) (route : Route) : Bool :=
  tree.entry? route = some .folder

/-- Where a path starts. -/
def start (tree : FileTree) (path : Path) : Route :=
  if path.absolute then [] else tree.working

/-- One step along a path, which must start in a folder; the folder above the root is the root. -/
def step (tree : FileTree) (route : Route) (name : Bytes) : Except Failure Route :=
  if ¬ tree.isFolder route then .error .notADirectory
  else if name = Path.here then .ok route
  else if name = Path.above then .ok route.dropLast
  else if name.length > Path.maxNameLength then .error .nameTooLong
  else if (tree.entry? (route ++ [name])).isNone then .error .notFound
  else .ok (route ++ [name])

/-- Follows names from a route on. -/
def follow (tree : FileTree) (route : Route) (names : List Bytes) : Except Failure Route :=
  names.foldlM tree.step route

/-! ### Reading -/

/-- The route a path leads to when it is opened for reading. -/
def locate (tree : FileTree) (bytes : Bytes) : Except Failure Route := do
  let path ← Path.check bytes
  let route ← tree.follow (tree.start path) path.names
  if path.wantsFolder ∧ ¬ tree.isFolder route then .error .notADirectory else .ok route

/-- Opens a path for reading. -/
def openForReading (tree : FileTree) (bytes : Bytes) : Except Failure Source := do
  let route ← tree.locate bytes
  match tree.entry? route with
  | some entry => entry.opened
  | none => .error .notFound

/-! ### Appending -/

/-- Opens what bears a name in a folder for appending, creating a file if there is nothing yet. -/
def openNamed (tree : FileTree) (folder : Route) (name : Bytes) : Except Failure Route × FileTree :=
  let route := folder ++ [name]
  match tree.entry? route with
  | some .folder => (.error .isADirectory, tree)
  | some (.refusing failure) => (.error failure, tree)
  | some _ => (.ok route, tree)
  | none => (.ok route, tree.put route (.file []))

/-- Opens a path for appending, creating the file if it is missing; the answer is its route. -/
def openForAppending (tree : FileTree) (bytes : Bytes) : Except Failure Route × FileTree :=
  match Path.check bytes with
  | .error failure => (.error failure, tree)
  | .ok path =>
    match tree.follow (tree.start path) path.names.dropLast with
    | .error failure => (.error failure, tree)
    | .ok folder =>
      if ¬ tree.isFolder folder then (.error .notADirectory, tree)
      else
        match path.names.getLast? with
        | none => (.error .isADirectory, tree)
        | some name =>
          if name = Path.here ∨ name = Path.above ∨ path.wantsFolder then
            (.error .isADirectory, tree)
          else if name.length > Path.maxNameLength then (.error .nameTooLong, tree)
          else tree.openNamed folder name

/-- Appends bytes to the file at a route. -/
def append (tree : FileTree) (route : Route) (data : Bytes) : FileTree :=
  { tree with
    entries := tree.entries.map fun
      | (way, .file content) => (way, .file (if way = route then content ++ data else content))
      | other => other }

/-- Offers bytes to what stands at a route. Everything takes them but the device that is full. -/
def write (route : Route) (data : Bytes) (tree : FileTree) : Except Failure Nat × FileTree :=
  if tree.entry? route = some (.device .full) then (.error .noSpace, tree)
  else (.ok data.length, tree.append route data)

/-- What was opened for appending, as a device on the tree; it is never interrupted. -/
def appender (route : Route) : Device FileTree where
  write := write route
  flush tree := (.ok (), tree)
  patience _ := 0
  taken_le := by
    intro data tree n tree' h
    unfold write at h
    split at h
    · simp at h
    · exact Nat.le_of_eq (Except.ok.inj (Prod.mk.inj h).1).symm

end FileTree

end PrefetchInfo
