import PrefetchInfo.Text.Bytes
import PrefetchInfo.System.Failure

/-!
# Paths

A path is a list of names between slashes. It starts at the root or at the working folder, and a
slash at its end insists on a folder. Some byte strings are refused as paths before any of their names
is looked up.
-/

namespace PrefetchInfo

/-- The bytes of a string cut at every slash. -/
def cutAtSlashes : Bytes → List Bytes
  | [] => [[]]
  | byte :: rest =>
    if byte = slash then [] :: cutAtSlashes rest
    else
      match cutAtSlashes rest with
      | [] => [[byte]]
      | name :: names => (byte :: name) :: names

/-- A path, taken apart. -/
structure Path where
  /-- Whether the path starts at the root. -/
  absolute : Bool
  /-- The names of the path, from left to right. -/
  names : List Bytes
  /-- Whether a slash ends the path. -/
  wantsFolder : Bool
  deriving DecidableEq, Repr

namespace Path

/-- The greatest length of a path in bytes. -/
def maxLength : Nat := 4095

/-- The greatest length of a name in bytes. -/
def maxNameLength : Nat := 255

/-- The name of the folder itself. -/
def here : Bytes := utf8 "."

/-- The name of the folder above. -/
def above : Bytes := utf8 ".."

/-- Takes a path apart; slashes beside one another count as one. -/
def ofBytes (bytes : Bytes) : Path where
  absolute := bytes.head? = some slash
  names := (cutAtSlashes bytes).filter (· ≠ [])
  wantsFolder := bytes.getLast? = some slash

/-- Takes a path apart, unless it is refused as a whole: because it holds a NUL byte, is empty, or is
too long. -/
def check (bytes : Bytes) : Except Failure Path :=
  if 0 ∈ bytes then .error .nulInPath
  else if bytes = [] then .error .notFound
  else if bytes.length > maxLength then .error .nameTooLong
  else .ok (ofBytes bytes)

end Path

end PrefetchInfo
