import PrefetchInfo.Device.Basic

/-!
# Banners

What a tool says about itself: its version, the version of the library behind it, and the copyright
notice. A banner is a list of pieces, each written by itself; its text is the pieces joined.
-/

namespace PrefetchInfo.Banner

/-- The version of the tools and of the library. -/
def version : String := "0.1.0"

/-- The system the tools run on. -/
def system : String := "linux"

/-- The processor the tools run on. -/
def processor : String := "x86_64"

/-- The first and the last year of the copyright notice. -/
def copyrightYears : String := "2011-2026"

/-- The banners of a tool. -/
inductive Kind where
  /-- The program and its version. -/
  | version
  /-- The program, its version, and the library, its version and target. -/
  | detailed
  /-- The copyright and warranty notice. -/
  | copyright
  deriving DecidableEq, Repr

/-- The pieces of a banner of `program`, in the order in which they are written. -/
def pieces (program : String) : Kind → List String
  | .version => [program, " ", version, "\n\n"]
  | .detailed =>
    [program, " ", version, " (scca-core ", version, ", ", system, "-", processor, ")\n\n"]
  | .copyright =>
    ["Copyright (C) ", copyrightYears,
     ", The scca-rs developers.\n" ++
       "This is free software; see the source for copying conditions. There is NO\n" ++
       "warranty; not even for MERCHANTABILITY or FITNESS FOR A PARTICULAR PURPOSE.\n\n"]

/-- The text of a banner. -/
def text (program : String) (kind : Kind) : String :=
  String.join (pieces program kind)

/-- Writes a banner piece by piece. -/
def write {σ : Type} (device : Device σ) (program : String) (kind : Kind) (s : σ) :
    Except Failure Unit × σ :=
  device.writePieces (pieces program kind) s

end PrefetchInfo.Banner
