import Mathlib.Data.Nat.Digits.Lemmas
import PrefetchInfo.Proofs.Signature.Portions
import PrefetchInfo.Proofs.Signature.Reading

/-!
# The layouts of a header

A header is laid out in one of two ways: the format version of a plain file in front of the letters
`SCCA`, or the size of a compressed file behind the letters `MAM` and a 4. Detecting a signature undoes
`Signature.encode`, which lays out a header from a file type and a value, and finds nothing where neither
layout fits. One header fits both; it counts as that of a plain file.
-/

namespace PrefetchInfo.Signature

variable {bytes data : Bytes}

/-! ### Numbers as bytes -/

/-- The four bytes of a number, the lowest first. -/
def toLittleEndian (value : UInt32) : Bytes :=
  (Nat.digitsAppend 256 4 value.toNat).map UInt8.ofNat

/-- A number has four bytes. -/
lemma length_toLittleEndian (value : UInt32) : (toLittleEndian value).length = 4 := by
  rw [toLittleEndian, List.length_map, Nat.length_digitsAppend (by decide) 4 value.toNat_lt]

/-- Bytes are digits to the base 256. -/
lemma lt_of_mem_map_toNat {digit : Nat} (h : digit ∈ bytes.map UInt8.toNat) : digit < 256 := by
  obtain ⟨byte, -, rfl⟩ := List.mem_map.mp h
  exact byte.toNat_lt

/-- The number with up to four bytes has them as its digits to the base 256. -/
lemma toNat_littleEndian (h : bytes.length ≤ 4) :
    (littleEndian bytes).toNat = Nat.ofDigits 256 (bytes.map UInt8.toNat) := by
  induction bytes with
  | nil => rfl
  | cons byte bytes ih =>
    have hlt : Nat.ofDigits 256 ((byte :: bytes).map UInt8.toNat) < 256 ^ 4 := by
      refine Nat.lt_of_lt_of_le
        (Nat.ofDigits_lt_base_pow_length (by decide) fun _ => lt_of_mem_map_toNat) ?_
      rw [List.length_map]
      exact Nat.pow_le_pow_right (by decide) h
    rw [List.map_cons, Nat.ofDigits_cons] at hlt ⊢
    change (littleEndian bytes * 256 + UInt32.ofNat byte.toNat).toNat = _
    rw [UInt32.toNat_add, UInt32.toNat_mul, ih (Nat.le_of_succ_le h),
      UInt32.toNat_ofNat_of_lt' (Nat.lt_trans byte.toNat_lt (by decide))]
    change (Nat.ofDigits 256 (bytes.map UInt8.toNat) * 256 % 2 ^ 32 + byte.toNat) % 2 ^ 32 = _
    omega

/-- A number is that of its bytes. -/
lemma littleEndian_toLittleEndian (value : UInt32) : littleEndian (toLittleEndian value) = value := by
  have hdigits : (toLittleEndian value).map UInt8.toNat = Nat.digitsAppend 256 4 value.toNat := by
    rw [toLittleEndian, List.map_map]
    refine (List.map_congr_left fun digit hdigit => ?_).trans (List.map_id _)
    exact UInt8.toNat_ofNat_of_lt' (Nat.lt_of_mem_digitsAppend (by decide) 4 digit hdigit)
  apply UInt32.toNat_inj.mp
  rw [toNat_littleEndian (length_toLittleEndian value).le, hdigits]
  exact (Nat.setInvOn_digitsAppend_ofDigits (by decide) 4).2 value.toNat_lt

/-- Four bytes are those of their number. -/
lemma toLittleEndian_littleEndian (h : bytes.length = 4) :
    toLittleEndian (littleEndian bytes) = bytes := by
  have hdigits : Nat.digitsAppend 256 4 (Nat.ofDigits 256 (bytes.map UInt8.toNat)) =
      bytes.map UInt8.toNat :=
    (Nat.setInvOn_digitsAppend_ofDigits (by decide) 4).1
      ⟨(List.length_map _).trans h, fun _ => lt_of_mem_map_toNat⟩
  rw [toLittleEndian, toNat_littleEndian h.le, hdigits, List.map_map]
  exact (List.map_congr_left fun byte _ => UInt8.ofNat_toNat).trans (List.map_id _)

/-- Numbers with the same bytes are the same. -/
lemma toLittleEndian_injective : Function.Injective toLittleEndian :=
  Function.LeftInverse.injective littleEndian_toLittleEndian

/-! ### The two layouts -/

/-- The header of a file: its format version and a mark, or a mark and its size before compression. -/
def encode : FileType → UInt32 → Bytes
  | .uncompressed, version => toLittleEndian version ++ utf8 "SCCA"
  | .compressedWindows10, size => utf8 "MAM\x04" ++ toLittleEndian size

/-- The format version whose bytes are the mark of a compressed file. -/
def ambiguousVersion : UInt32 := 0x044d414d

/-- The size whose bytes are the mark of a plain file. -/
def ambiguousSize : UInt32 := 0x41434353

/-- The letters `SCCA` are the mark of a plain file. -/
lemma utf8_scca : utf8 "SCCA" = plainMark := by decide

/-- The letters `MAM` and a 4 are the mark of a compressed file. -/
lemma utf8_mam : utf8 "MAM\x04" = compressedMark := by decide

/-- The bytes of the ambiguous format version are the mark of a compressed file. -/
lemma toLittleEndian_ambiguousVersion : toLittleEndian ambiguousVersion = utf8 "MAM\x04" := by
  have hnumber : ambiguousVersion = littleEndian compressedMark := by decide
  rw [hnumber, toLittleEndian_littleEndian rfl, utf8_mam]

/-- The bytes of the ambiguous size are the mark of a plain file. -/
lemma toLittleEndian_ambiguousSize : toLittleEndian ambiguousSize = utf8 "SCCA" := by
  have hnumber : ambiguousSize = littleEndian plainMark := by decide
  rw [hnumber, toLittleEndian_littleEndian rfl, utf8_scca]

/-- A header has eight bytes. -/
lemma length_encode (fileType : FileType) (value : UInt32) :
    (encode fileType value).length = headerSize := by
  cases fileType with
  | uncompressed => rw [encode, List.length_append, length_toLittleEndian, utf8_scca]; rfl
  | compressedWindows10 => rw [encode, List.length_append, length_toLittleEndian, utf8_mam]; rfl

/-- A header fits both layouts just if both of its numbers are the mark of the other layout. -/
lemma encode_eq_encode_iff {version size : UInt32} :
    encode .uncompressed version = encode .compressedWindows10 size ↔
      version = ambiguousVersion ∧ size = ambiguousSize := by
  have hlength : (toLittleEndian version).length = (utf8 "MAM\x04").length := by
    rw [length_toLittleEndian, utf8_mam]
    rfl
  constructor
  · intro h
    obtain ⟨hversion, hsize⟩ := List.append_inj h hlength
    rw [← toLittleEndian_ambiguousVersion] at hversion
    rw [← toLittleEndian_ambiguousSize] at hsize
    exact ⟨toLittleEndian_injective hversion, toLittleEndian_injective hsize.symm⟩
  · rintro ⟨rfl, rfl⟩
    rw [encode, encode, toLittleEndian_ambiguousVersion, toLittleEndian_ambiguousSize]

/-! ### Detection -/

/-- The mark of a plain file is looked for before that of a compressed one. -/
lemma detect_of_long (h : headerSize ≤ data.length) :
    detect data =
      if (data.drop 4).take 4 = utf8 "SCCA" then
        some ⟨.uncompressed, littleEndian (data.take 4), data.take headerSize⟩
      else if data.take 4 = utf8 "MAM\x04" then
        some ⟨.compressedWindows10, littleEndian ((data.drop 4).take 4), data.take headerSize⟩
      else none := by
  have hsecond : (data.take headerSize).drop 4 = (data.drop 4).take 4 := List.drop_take
  have hfirst : (data.take headerSize).take 4 = data.take 4 := by rw [List.take_take]; rfl
  rw [detect, if_neg (Nat.not_lt_of_le h), utf8_scca, utf8_mam]
  simp only [hfirst, hsecond]

/-- A signature is found just if there is a header with one of the marks. -/
lemma isSome_detect_iff :
    (detect data).isSome = true ↔ headerSize ≤ data.length ∧
      ((data.drop 4).take 4 = utf8 "SCCA" ∨ data.take 4 = utf8 "MAM\x04") := by
  by_cases hlong : headerSize ≤ data.length
  · rw [detect_of_long hlong]
    split
    · rename_i hplain
      exact iff_of_true rfl ⟨hlong, .inl hplain⟩
    · rename_i hplain
      split
      · rename_i hcompressed
        exact iff_of_true rfl ⟨hlong, .inr hcompressed⟩
      · rename_i hcompressed
        exact iff_of_false Bool.false_ne_true fun h => h.2.elim hplain hcompressed
  · rw [detect_of_short (Nat.lt_of_not_le hlong)]
    exact iff_of_false Bool.false_ne_true fun h => hlong h.1

/-- The layout of a signature that is found is that of the header it was found in. -/
lemma encode_of_detect {signature : Signature} (h : detect data = some signature) :
    encode signature.fileType signature.value = data.take headerSize := by
  have hlong := (header_eq_take h).1
  have hfirst : (data.take 4).length = 4 := by
    rw [List.length_take, Nat.min_eq_left (Nat.le_trans (by decide) hlong)]
  have hsecond : ((data.drop 4).take 4).length = 4 := by
    rw [List.length_take, List.length_drop]
    exact Nat.min_eq_left (Nat.le_sub_of_add_le hlong)
  have hheader : data.take (4 + 4) = data.take 4 ++ (data.drop 4).take 4 := List.take_add
  change _ = data.take (4 + 4)
  rw [detect_of_long hlong] at h
  split at h
  · rename_i hplain
    rw [← Option.some.inj h, encode, toLittleEndian_littleEndian hfirst, hheader, hplain]
  · split at h
    · rename_i hcompressed
      rw [← Option.some.inj h, encode, toLittleEndian_littleEndian hsecond, hheader, hcompressed]
    · cases h

/-- What is found in a header does not depend on what follows it. -/
lemma detect_append {header : Bytes} (h : header.length = headerSize) (rest : Bytes) :
    detect (header ++ rest) = detect header := by
  rw [← detect_take, List.take_left' h]

/-- The header of a plain file is found to be that. -/
lemma detect_encode_uncompressed (version : UInt32) :
    detect (encode .uncompressed version) =
      some ⟨.uncompressed, version, encode .uncompressed version⟩ := by
  have hlength := length_encode .uncompressed version
  have hfirst : (encode .uncompressed version).take 4 = toLittleEndian version :=
    List.take_left' (length_toLittleEndian version)
  have hsecond : ((encode .uncompressed version).drop 4).take 4 = utf8 "SCCA" := by
    rw [encode, List.drop_left' (length_toLittleEndian version), utf8_scca]
    rfl
  rw [detect_of_long hlength.ge, if_pos hsecond, hfirst, littleEndian_toLittleEndian,
    List.take_of_length_le hlength.le]

/-- The header of a compressed file is found to be that, unless it is ambiguous. -/
lemma detect_encode_compressedWindows10 {size : UInt32} (h : size ≠ ambiguousSize) :
    detect (encode .compressedWindows10 size) =
      some ⟨.compressedWindows10, size, encode .compressedWindows10 size⟩ := by
  have hlength := length_encode .compressedWindows10 size
  have hmark : (utf8 "MAM\x04").length = 4 := by
    rw [utf8_mam]
    rfl
  have hfirst : (encode .compressedWindows10 size).take 4 = utf8 "MAM\x04" := List.take_left' hmark
  have hsecond : ((encode .compressedWindows10 size).drop 4).take 4 = toLittleEndian size := by
    rw [encode, List.drop_left' hmark, List.take_of_length_le (length_toLittleEndian size).le]
  have hne : toLittleEndian size ≠ utf8 "SCCA" := by
    rw [← toLittleEndian_ambiguousSize]
    exact fun hsame => h (toLittleEndian_injective hsame)
  rw [detect_of_long hlength.ge, hsecond, if_neg hne, if_pos hfirst, littleEndian_toLittleEndian,
    List.take_of_length_le hlength.le]

/-- **Detecting a signature decodes the two layouts of a header and nothing else.**  A signature is found
just if there are enough bytes for a header and it carries one of the marks in its place; what follows
the header does not matter. The signature that is found is laid out in the header it was found in, and
keeps that header. Conversely every header of a plain file is found to be one, with its format version,
and every header of a compressed file, with its size; but the single header that fits both layouts is
that of a plain file. -/
theorem decodes_the_layouts (data rest : Bytes) :
    ((detect data).isSome = true ↔ headerSize ≤ data.length ∧
      ((data.drop 4).take 4 = utf8 "SCCA" ∨ data.take 4 = utf8 "MAM\x04")) ∧
    (∀ other, other.take headerSize = data.take headerSize → detect other = detect data) ∧
    (∀ signature, detect data = some signature →
      encode signature.fileType signature.value = data.take headerSize ∧
      signature.header = data.take headerSize) ∧
    (∀ version, detect (encode .uncompressed version ++ rest) =
      some ⟨.uncompressed, version, encode .uncompressed version⟩) ∧
    (∀ size, size ≠ ambiguousSize → detect (encode .compressedWindows10 size ++ rest) =
      some ⟨.compressedWindows10, size, encode .compressedWindows10 size⟩) ∧
    toLittleEndian ambiguousSize = utf8 "SCCA" ∧
    (∀ version size, encode .uncompressed version = encode .compressedWindows10 size ↔
      version = ambiguousVersion ∧ size = ambiguousSize) ∧
    detect (encode .compressedWindows10 ambiguousSize ++ rest) =
      some ⟨.uncompressed, ambiguousVersion, encode .compressedWindows10 ambiguousSize⟩ := by
  have hambiguous := encode_eq_encode_iff.mpr ⟨rfl, rfl⟩
  refine ⟨isSome_detect_iff, fun other hsame => ?_, fun signature hdetect => ?_, fun version => ?_,
    fun size hsize => ?_, toLittleEndian_ambiguousSize, fun _ _ => encode_eq_encode_iff, ?_⟩
  · rw [← detect_take other, hsame, detect_take]
  · exact ⟨encode_of_detect hdetect, (header_eq_take hdetect).2⟩
  · rw [detect_append (length_encode _ _), detect_encode_uncompressed]
  · rw [detect_append (length_encode _ _), detect_encode_compressedWindows10 hsize]
  · rw [← hambiguous, detect_append (length_encode _ _), detect_encode_uncompressed]

end PrefetchInfo.Signature
