import PrefetchInfo.Text.Bytes

/-!
# Signatures of prefetch files

The first eight bytes of a file tell whether it is a prefetch file. A plain file starts with its
format version and the letters `SCCA`; a compressed one starts with the letters `MAM`, a byte 4 and
the size of the data before compression. Both numbers are little-endian. The one header that fits
both layouts is that of a plain file.
-/

namespace PrefetchInfo

/-- The types of prefetch files. -/
inductive FileType where
  /-- A plain file. -/
  | uncompressed
  /-- A file compressed the way Windows 10 does it. -/
  | compressedWindows10
  deriving DecidableEq, Repr

/-- The name of a file type in the log. -/
def FileType.name : FileType → String
  | uncompressed => "Uncompressed"
  | compressedWindows10 => "CompressedWindows10"

/-- What the header of a prefetch file tells. -/
structure Signature where
  /-- The type of the file. -/
  fileType : FileType
  /-- The format version of a plain file, or the size of a compressed one before compression. -/
  value : UInt32
  /-- The header itself. -/
  header : Bytes
  deriving DecidableEq, Repr

namespace Signature

/-- The number of bytes of a header. -/
def headerSize : Nat := 8

/-- The last four bytes of the header of a plain file, the letters `SCCA`. -/
def plainMark : Bytes := [0x53, 0x43, 0x43, 0x41]

/-- The first four bytes of the header of a compressed file, the letters `MAM` and a 4. -/
def compressedMark : Bytes := [0x4d, 0x41, 0x4d, 0x04]

/-- The number with the given bytes, the lowest first. -/
def littleEndian (bytes : Bytes) : UInt32 :=
  bytes.foldr (fun byte value => value * 256 + UInt32.ofNat byte.toNat) 0

/-- The signature at the start of some bytes; none if they are too short for a header or carry no
known mark. -/
def detect (data : Bytes) : Option Signature :=
  if data.length < headerSize then none
  else
    let header := data.take headerSize
    if header.drop 4 = plainMark then some ⟨.uncompressed, littleEndian (header.take 4), header⟩
    else if header.take 4 = compressedMark then
      some ⟨.compressedWindows10, littleEndian (header.drop 4), header⟩
    else none

/-- The format version of a plain file. -/
def formatVersion (signature : Signature) : Option UInt32 :=
  match signature.fileType with
  | .uncompressed => some signature.value
  | .compressedWindows10 => none

/-- The size of a compressed file before compression. -/
def uncompressedSize (signature : Signature) : Option UInt32 :=
  match signature.fileType with
  | .uncompressed => none
  | .compressedWindows10 => some signature.value

end Signature

end PrefetchInfo
