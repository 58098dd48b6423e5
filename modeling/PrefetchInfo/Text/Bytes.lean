/-!
# Bytes and the text they carry

Content of files, paths and everything on its way to a device is a list of bytes. A text enters
that world through its UTF-8 form, and the length of a text as the tools report it is the length of
that form.
-/

namespace PrefetchInfo

/-- A sequence of bytes: the content of a file, a path, or text on its way to a device. -/
abbrev Bytes := List UInt8

/-- The UTF-8 form of a text. -/
def utf8 (text : String) : Bytes :=
  text.toByteArray.data.toList

theorem utf8_append (a b : String) : utf8 (a ++ b) = utf8 a ++ utf8 b := by
  simp [utf8]

theorem utf8_empty : utf8 "" = [] := by
  simp [utf8]

/-- The byte of a character of the ASCII range. -/
def ascii (c : Char) : UInt8 :=
  UInt8.ofNat c.toNat

/-- The line feed, which ends a line of text. -/
def newline : UInt8 := 0x0a

/-- The slash, which separates the names in a path. -/
def slash : UInt8 := 0x2f

end PrefetchInfo
