import PrefetchInfo.Codepage.Name
import PrefetchInfo.Signature.Basic

/-!
# The description of a prefetch file

What the tool says about a file: its type, its format version and the systems that write it or its
size before compression, and the codepage its narrow strings are taken to be in.
-/

namespace PrefetchInfo.Info

/-- The versions of Windows that write a format version. -/
def windowsVersions (formatVersion : UInt32) : Option String :=
  if formatVersion = 17 then some "Windows XP, 2003"
  else if formatVersion = 23 then some "Windows Vista, 7"
  else if formatVersion = 26 then some "Windows 8.1"
  else if formatVersion = 30 then some "Windows 10"
  else if formatVersion = 31 then some "Windows 11"
  else none

/-- The lines about the type of a file. -/
def typeLines (signature : Signature) : String :=
  match signature.fileType with
  | .uncompressed =>
    let windows :=
      match windowsVersions signature.value with
      | some windows => " (" ++ windows ++ ")"
      | none => ""
    "\tFile type\t\t\t: uncompressed\n" ++
      "\tFormat version\t\t\t: " ++ Nat.repr signature.value.toNat ++ windows ++ "\n"
  | .compressedWindows10 =>
    "\tFile type\t\t\t: compressed (MAM)\n" ++
      "\tUncompressed size\t\t: " ++ Nat.repr signature.value.toNat ++ " bytes\n"

/-- The description of a file with a given signature. -/
def description (signature : Signature) (codepage : Codepage) : String :=
  "Windows Prefetch File (PF) information:\n" ++ typeLines signature ++
    "\tCodepage\t\t\t: " ++ codepage.name ++ "\n\n"

end PrefetchInfo.Info
