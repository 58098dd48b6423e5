/-!
# Codepages

The codepages a narrow string of a prefetch file may be in: US-ASCII, the parts of ISO 8859, KOI8 and
the codepages of Windows. Every codepage has a number of its own.
-/

namespace PrefetchInfo

/-- The supported codepages of narrow strings. -/
inductive Codepage where
  /-- US-ASCII. -/
  | ascii
  /-- ISO 8859-1, Latin 1. -/
  | iso8859_1
  /-- ISO 8859-2, Latin 2. -/
  | iso8859_2
  /-- ISO 8859-3, Latin 3. -/
  | iso8859_3
  /-- ISO 8859-4, Latin 4. -/
  | iso8859_4
  /-- ISO 8859-5, Cyrillic. -/
  | iso8859_5
  /-- ISO 8859-6, Arabic. -/
  | iso8859_6
  /-- ISO 8859-7, Greek. -/
  | iso8859_7
  /-- ISO 8859-8, Hebrew. -/
  | iso8859_8
  /-- ISO 8859-9, Latin 5. -/
  | iso8859_9
  /-- ISO 8859-10, Latin 6. -/
  | iso8859_10
  /-- ISO 8859-11, Thai. -/
  | iso8859_11
  /-- ISO 8859-13, Latin 7. -/
  | iso8859_13
  /-- ISO 8859-14, Latin 8. -/
  | iso8859_14
  /-- ISO 8859-15, Latin 9. -/
  | iso8859_15
  /-- ISO 8859-16, Latin 10. -/
  | iso8859_16
  /-- KOI8-R, Russian. -/
  | koi8R
  /-- KOI8-U, Ukrainian. -/
  | koi8U
  /-- Windows 874, Thai. -/
  | windows874
  /-- Windows 932, Japanese. -/
  | windows932
  /-- Windows 936, simplified Chinese. -/
  | windows936
  /-- Windows 949, Korean. -/
  | windows949
  /-- Windows 950, traditional Chinese. -/
  | windows950
  /-- Windows 1250, Central European. -/
  | windows1250
  /-- Windows 1251, Cyrillic. -/
  | windows1251
  /-- Windows 1252, Western European. -/
  | windows1252
  /-- Windows 1253, Greek. -/
  | windows1253
  /-- Windows 1254, Turkish. -/
  | windows1254
  /-- Windows 1255, Hebrew. -/
  | windows1255
  /-- Windows 1256, Arabic. -/
  | windows1256
  /-- Windows 1257, Baltic. -/
  | windows1257
  /-- Windows 1258, Vietnamese. -/
  | windows1258
  deriving DecidableEq, Repr

instance : Inhabited Codepage := ⟨.windows1252⟩

namespace Codepage

/-- The supported parts of ISO 8859, each with its number as a part. -/
def isoParts : List (Nat × Codepage) :=
  [(1, iso8859_1), (2, iso8859_2), (3, iso8859_3), (4, iso8859_4), (5, iso8859_5),
   (6, iso8859_6), (7, iso8859_7), (8, iso8859_8), (9, iso8859_9), (10, iso8859_10),
   (11, iso8859_11), (13, iso8859_13), (14, iso8859_14), (15, iso8859_15), (16, iso8859_16)]

/-- The supported codepages of Windows. -/
def windowsPages : List Codepage :=
  [windows874, windows932, windows936, windows949, windows950, windows1250, windows1251,
   windows1252, windows1253, windows1254, windows1255, windows1256, windows1257, windows1258]

/-- The number of a codepage. -/
def number : Codepage → UInt32
  | ascii => 20127
  | iso8859_1 => 28591
  | iso8859_2 => 28592
  | iso8859_3 => 28593
  | iso8859_4 => 28594
  | iso8859_5 => 28595
  | iso8859_6 => 28596
  | iso8859_7 => 28597
  | iso8859_8 => 28598
  | iso8859_9 => 28599
  | iso8859_10 => 28600
  | iso8859_11 => 28601
  | iso8859_13 => 28603
  | iso8859_14 => 28604
  | iso8859_15 => 28605
  | iso8859_16 => 28606
  | koi8R => 20866
  | koi8U => 21866
  | windows874 => 874
  | windows932 => 932
  | windows936 => 936
  | windows949 => 949
  | windows950 => 950
  | windows1250 => 1250
  | windows1251 => 1251
  | windows1252 => 1252
  | windows1253 => 1253
  | windows1254 => 1254
  | windows1255 => 1255
  | windows1256 => 1256
  | windows1257 => 1257
  | windows1258 => 1258

/-- The codepage with a given number, if it is supported. US-ASCII and KOI8 have numbers by themselves, the
numbers of ISO 8859 stand side by side, and every other number can only be one of Windows. -/
def ofNumber? (number : UInt32) : Option Codepage :=
  if number = 20127 then some ascii
  else if number = 20866 then some koi8R
  else if number = 21866 then some koi8U
  else if 28591 ≤ number ∧ number ≤ 28606 then
    (isoParts.map Prod.snd).find? fun codepage => codepage.number = number
  else windowsPages.find? fun codepage => codepage.number = number

end Codepage

end PrefetchInfo
