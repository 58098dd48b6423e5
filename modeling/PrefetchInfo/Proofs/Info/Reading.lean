import Mathlib
import PrefetchInfo.Proofs.Codepage.Spelling
import PrefetchInfo.Proofs.Info.Lifecycle
import PrefetchInfo.Proofs.Info.Stages
import PrefetchInfo.Proofs.Signature.Layouts
import PrefetchInfo.Proofs.Text.Lines

/-!
# Reading a description

A description is a number of lines, most of them a label and a field, with a colon and a blank between
them. From the fields the type of the file, the value in its header and the codepage can be read, and so
can the header, which is laid out in one way for a type and a value. Nothing that a description is made
from is lost in it.
-/

namespace PrefetchInfo.Info

variable {signature : Signature} {codepage : Codepage}

/-! ### The lines of a description -/

/-- A label, and a field behind a colon and a blank. -/
def labelled (label field : String) : String :=
  label ++ ": " ++ field

/-- The name of a type of files in a description. -/
def typeName : FileType → String
  | .uncompressed => "uncompressed"
  | .compressedWindows10 => "compressed (MAM)"

/-- The label of the value in a header of some type. -/
def valueLabel : FileType → String
  | .uncompressed => "\tFormat version\t\t\t"
  | .compressedWindows10 => "\tUncompressed size\t\t"

/-- What stands behind the value: the systems that a version is from, or the unit of a size. -/
def valueNote (signature : Signature) : String :=
  match signature.fileType with
  | .uncompressed =>
    match windowsVersions signature.value with
    | some windows => " (" ++ windows ++ ")"
    | none => ""
  | .compressedWindows10 => " bytes"

/-- The lines of a description. -/
def lines (signature : Signature) (codepage : Codepage) : List String :=
  ["Windows Prefetch File (PF) information:",
    labelled "\tFile type\t\t\t" (typeName signature.fileType),
    labelled (valueLabel signature.fileType)
      (Nat.repr signature.value.toNat ++ valueNote signature),
    labelled "\tCodepage\t\t\t" codepage.name,
    ""]

/-- A description is its lines, with a line feed behind each of them. -/
lemma description_eq_join (signature : Signature) (codepage : Codepage) :
    description signature codepage = String.join ((lines signature codepage).map (· ++ "\n")) := by
  -- Some texts carry a colon or a line feed of their own; those are cut off first.
  have htitle : "Windows Prefetch File (PF) information:\n" =
      "Windows Prefetch File (PF) information:" ++ "\n" := rfl
  have hcodepage : "\tCodepage\t\t\t: " = "\tCodepage\t\t\t" ++ ": " := rfl
  have hend : "\n\n" = "\n" ++ "\n" := rfl
  obtain ⟨fileType, value, header⟩ := signature
  unfold description typeLines lines
  cases fileType with
  | uncompressed =>
    have htype : "\tFile type\t\t\t: uncompressed\n" =
        "\tFile type\t\t\t" ++ (": " ++ ("uncompressed" ++ "\n")) := rfl
    have hlabel : "\tFormat version\t\t\t: " = "\tFormat version\t\t\t" ++ ": " := rfl
    rcases hwindows : windowsVersions value with _ | windows <;>
      simp only [labelled, typeName, valueLabel, valueNote, hwindows, htitle, hcodepage, hend, htype,
        hlabel, List.map_cons, List.map_nil, String.join_cons, String.join_nil, String.append_assoc,
        String.empty_append, String.append_empty]
  | compressedWindows10 =>
    have htype : "\tFile type\t\t\t: compressed (MAM)\n" =
        "\tFile type\t\t\t" ++ (": " ++ ("compressed (MAM)" ++ "\n")) := rfl
    have hlabel : "\tUncompressed size\t\t: " = "\tUncompressed size\t\t" ++ ": " := rfl
    have hunit : " bytes\n" = " bytes" ++ "\n" := rfl
    simp only [labelled, typeName, valueLabel, valueNote, htitle, hcodepage, hend, htype, hlabel, hunit,
      List.map_cons, List.map_nil, String.join_cons, String.join_nil, String.append_assoc,
      String.empty_append, String.append_empty]

/-- All lines take a single line. -/
lemma inline_lines (signature : Signature) (codepage : Codepage) :
    ∀ line ∈ lines signature codepage, Inline line := by
  have htype : ∀ fileType, Inline (typeName fileType) := by
    intro fileType
    cases fileType <;> decide
  have hlabel : ∀ fileType, Inline (valueLabel fileType) := by
    intro fileType
    cases fileType <;> decide
  have hwindows : ∀ windows, windowsVersions signature.value = some windows → Inline windows := by
    intro windows h
    unfold windowsVersions at h
    split_ifs at h <;> rw [← Option.some.inj h] <;> decide
  have hnote : Inline (valueNote signature) := by
    unfold valueNote
    split
    · split
      · rename_i windows h
        exact (Inline.append (by decide) (hwindows windows h)).append (by decide)
      · decide
    · decide
  have hcolon : Inline ": " := by decide
  simp only [lines, List.forall_mem_cons, List.not_mem_nil, false_implies, implies_true, and_true]
  refine ⟨by decide, ?_, ?_, ?_, by decide⟩
  · exact (Inline.append (by decide) hcolon).append (htype _)
  · exact ((hlabel _).append hcolon).append ((inline_repr _).append hnote)
  · exact (Inline.append (by decide) hcolon).append (Codepage.inline_name codepage)

/-- The characters of a description are its lines, with a line feed behind each of them. -/
lemma toList_description (signature : Signature) (codepage : Codepage) :
    (description signature codepage).toList =
      ((lines signature codepage).map String.toList).flatMap (· ++ ['\n']) := by
  rw [description_eq_join, String.toList_join, List.flatMap_map, List.flatMap_map]
  simp only [String.toList_append]
  rfl

/-- A description is found again in its bytes. -/
lemma asciiChars_description (signature : Signature) (codepage : Codepage) :
    asciiChars (utf8 (description signature codepage)) = (description signature codepage).toList := by
  apply asciiChars_utf8
  intro c hc
  rw [toList_description, List.flatMap_map, List.mem_flatMap] at hc
  obtain ⟨line, hline, hc⟩ := hc
  rcases List.mem_append.mp hc with hc | hc
  · exact (inline_lines signature codepage line hline c hc).1
  · rw [List.mem_singleton.mp hc]
    decide

/-- The lines of a description are found again between its line feeds. -/
lemma splitOn_description (signature : Signature) (codepage : Codepage) :
    (asciiChars (utf8 (description signature codepage))).splitOn '\n' =
      (lines signature codepage).map String.toList ++ [[]] := by
  rw [asciiChars_description, toList_description]
  apply splitOn_lines
  intro line hline hmem
  obtain ⟨text, htext, rfl⟩ := List.mem_map.mp hline
  exact (inline_lines signature codepage text htext '\n' hmem).2 rfl

/-! ### Reading the fields -/

/-- The field of a line: what stands behind its first colon and a blank. -/
def field (line : List Char) : List Char :=
  (line.dropWhile (· ≠ ':')).drop 2

/-- The field of a labelled line. -/
lemma field_labelled {label : String} (h : ':' ∉ label.toList) (text : String) :
    field (labelled label text).toList = text.toList := by
  have hlabel : ∀ c ∈ label.toList, decide (c ≠ ':') = true := by
    intro c hc
    rw [decide_eq_true_eq]
    rintro rfl
    exact h hc
  rw [field, labelled, String.toList_append, String.toList_append, List.append_assoc,
    List.dropWhile_append_of_pos hlabel]
  rfl

/-- The type of files with a given name. -/
def typeOf? (name : List Char) : Option FileType :=
  if name = (typeName .uncompressed).toList then some .uncompressed
  else if name = (typeName .compressedWindows10).toList then some .compressedWindows10
  else none

/-- A type of files is read from its name. -/
lemma typeOf?_typeName (fileType : FileType) : typeOf? (typeName fileType).toList = some fileType := by
  cases fileType <;> decide

/-- The word at the beginning of a field. -/
def numberOf? (field : List Char) : Option UInt32 :=
  Codepage.decimal? (field.takeWhile Char.isDigit)

/-- The value in a header is read from its field, whatever stands behind it. -/
lemma numberOf?_value (signature : Signature) :
    numberOf? (Nat.repr signature.value.toNat ++ valueNote signature).toList =
      some signature.value := by
  have hdigits : ∀ c ∈ Nat.toDigits 10 signature.value.toNat, c.isDigit = true := by
    intro c hc
    exact Nat.isDigit_of_mem_toDigits (by decide) (by decide) hc
  have hnote : (valueNote signature).toList.takeWhile Char.isDigit = [] := by
    unfold valueNote
    split
    · split
      · rw [String.toList_append, String.toList_append]
        rfl
      · rfl
    · rfl
  rw [numberOf?, String.toList_append, Nat.toList_repr, List.takeWhile_append_of_pos hdigits, hnote,
    List.append_nil, Codepage.decimal?_toDigits]

/-- Reads a description: the signature of the file and the codepage that it was made from. -/
def readDescription (text : Bytes) : Option (Signature × Codepage) :=
  match (asciiChars text).splitOn '\n' with
  | _ :: typeLine :: valueLine :: codepageLine :: _ => do
    let fileType ← typeOf? (field typeLine)
    let value ← numberOf? (field valueLine)
    let codepage ← Codepage.ofName? (String.ofList (field codepageLine))
    some (⟨fileType, value, Signature.encode fileType value⟩, codepage)
  | _ => none

/-- A description is read back as the signature and the codepage that it was made from. -/
lemma readDescription_description {data : Bytes} (h : Signature.detect data = some signature)
    (codepage : Codepage) :
    readDescription (utf8 (description signature codepage)) = some (signature, codepage) := by
  have hheader : Signature.encode signature.fileType signature.value = signature.header := by
    rw [Signature.encode_of_detect h, (Signature.header_eq_take h).2]
  have htype : field (labelled "\tFile type\t\t\t" (typeName signature.fileType)).toList =
      (typeName signature.fileType).toList := field_labelled (by decide) _
  have hvalue : field (labelled (valueLabel signature.fileType)
      (Nat.repr signature.value.toNat ++ valueNote signature)).toList =
        (Nat.repr signature.value.toNat ++ valueNote signature).toList := by
    apply field_labelled
    cases signature.fileType <;> decide
  have hcodepage : field (labelled "\tCodepage\t\t\t" codepage.name).toList = codepage.name.toList :=
    field_labelled (by decide) _
  rw [readDescription, splitOn_description]
  simp only [lines, List.map_cons, List.cons_append, htype, hvalue, hcodepage, typeOf?_typeName,
    numberOf?_value, String.ofList_toList, Codepage.ofName?_name, Option.bind_eq_bind,
    Option.bind_some, hheader]

/-! ### What is printed for an open file -/

namespace Handle

open Notify

variable {handle : Handle} {input : InputFile} {text : Bytes}

/-- The handle that a call to open leaves. -/
def Opened (handle : Handle) : Prop :=
  ∃ (earlier : Handle) (path : Bytes) (opened : Except Failure Source) (before after : AbortFlag),
    (earlier.openInput path opened before after).1 = .ok () ∧
      (earlier.openInput path opened before after).2.1 = handle

/-- A text is what printing writes for a handle: all of it arrives on some device that delivers, and
printing does not fail to write it. -/
inductive Prints (handle : Handle) (text : Bytes) : Prop where
  | intro {τ σ φ ω : Type} {out : Device τ} {fit : τ → Prop} {content : τ → Bytes}
      {outlets : Outlets σ φ ω} {stream : NotifyStream φ ω} {t : τ} {s : σ}
      (hout : out.DeliversWhile fit content) (ht : fit t)
      (harrived : content (handle.print out outlets stream t s).2.1 = content t ++ text)
      (hwritten : ∀ chain, (handle.print out outlets stream t s).1 = .error chain →
        chain.brief ≠ "unable to write file information")

/-- A handle that a call to open leaves has a file open, whose signature is that of its header. -/
lemma Opened.exists_input (h : handle.Opened) : ∃ input, handle.input = some input ∧
    Signature.detect input.signature.header = some input.signature := by
  obtain ⟨earlier, path, opened, before, after, hopen, rfl⟩ := h
  obtain ⟨-, -, -, signature, hcheck⟩ := openInput_ok_iff.mp hopen
  obtain ⟨source, -, -, hdetect⟩ := Signature.ofFile_eq_some_iff.mp hcheck
  refine ⟨⟨path, signature⟩, ?_, hdetect⟩
  rw [handle_openInput, hopen, hcheck]
  rfl

/-- What printing writes for an open file is its description. -/
lemma Prints.eq_description (h : handle.Prints text) (hinput : handle.input = some input) :
    text = utf8 (description input.signature handle.codepage) := by
  obtain ⟨codepage, _⟩ := handle
  obtain rfl : _ = some input := hinput
  obtain @⟨τ, σ, φ, ω, out, fit, content, outlets, stream, t, s, hout, ht, harrived, hwritten⟩ := h
  rw [print_device] at harrived
  -- A device that does not take everything is named as the cause, which it is not here.
  have hall : content (out.writeAll (utf8 (description input.signature codepage)) t).2 =
      content t ++ utf8 (description input.signature codepage) := by
    rw [← hout.writeAll_ok_iff _ ht]
    rcases hw : out.writeAll (utf8 (description input.signature codepage)) t with ⟨failure | _, t'⟩
    · have hprint : (print ⟨codepage, some input⟩ out outlets stream t s).1 =
          context (.error failure) (.inOut .writeFailed) "unable to write file information" := by
        simp only [print, hw]
      exact absurd rfl (hwritten _ hprint)
    · rfl
  exact List.append_cancel_left (harrived.symm.trans hall)

/-- For every open file its description can be printed. -/
lemma prints_description (hinput : handle.input = some input) :
    handle.Prints (utf8 (description input.signature handle.codepage)) := by
  obtain ⟨codepage, _⟩ := handle
  obtain rfl : _ = some input := hinput
  have htakes : World.account.takes (NotifyStream.silent : NotifyStream Route String).destination.place
      (.ofFiles ⟨[], []⟩) := trivial
  have hprinted : (print ⟨codepage, some input⟩ Sink.device World.outlets .silent ({} : Sink)
      (.ofFiles ⟨[], []⟩)).1 = .ok () :=
    print_ok_of_takes World.account Sink.willing_roomy Sink.roomy_default htakes input
  obtain ⟨taken, -, hcontent, hall⟩ := content_print Sink.deliversWhile_roomy World.outlets input .silent
    Sink.roomy_default (.ofFiles ⟨[], []⟩)
  rw [hall hprinted] at hcontent
  refine .intro Sink.deliversWhile_roomy Sink.roomy_default hcontent ?_
  intro chain herror
  cases hprinted.symm.trans herror

/-- **A description determines the header that it was made from.**  From the description of a signature
that is found in some bytes, and of a codepage, both are read back, with the header that the signature
was found in. So if the same text is printed for two handles that calls to open left, then their
codepages are the same, and so are the types of their files, the values, and the eight bytes of the
headers. -/
theorem description_determines_header :
    (∀ data signature codepage, Signature.detect data = some signature →
      readDescription (utf8 (description signature codepage)) = some (signature, codepage) ∧
        signature.header = data.take Signature.headerSize) ∧
    ∀ (handle other : Handle) (text : Bytes), handle.Opened → other.Opened →
      handle.Prints text → other.Prints text →
      handle.codepage = other.codepage ∧ ∃ input again, handle.input = some input ∧
        other.input = some again ∧ input.signature.fileType = again.signature.fileType ∧
        input.signature.value = again.signature.value ∧
        input.signature.header = again.signature.header ∧
        input.signature.header.length = Signature.headerSize ∧
        readDescription text = some (input.signature, handle.codepage) := by
  refine ⟨?_, ?_⟩
  · intro data signature codepage h
    exact ⟨readDescription_description h codepage, (Signature.header_eq_take h).2⟩
  · intro handle other text hopened hagain hprints hsame
    obtain ⟨input, hinput, hdetect⟩ := hopened.exists_input
    obtain ⟨again, hother, hfound⟩ := hagain.exists_input
    have hread : readDescription text = some (input.signature, handle.codepage) := by
      rw [hprints.eq_description hinput]
      exact readDescription_description hdetect handle.codepage
    have hreread : readDescription text = some (again.signature, other.codepage) := by
      rw [hsame.eq_description hother]
      exact readDescription_description hfound other.codepage
    obtain ⟨hsignature, hcodepage⟩ := Prod.mk.inj (Option.some.inj (hread.symm.trans hreread))
    obtain ⟨hlong, hheader⟩ := Signature.header_eq_take hdetect
    have hlength : input.signature.header.length = Signature.headerSize := by
      rw [hheader, List.length_take]
      exact Nat.min_eq_left hlong
    refine ⟨hcodepage, input, again, hinput, hother, ?_, ?_, ?_, hlength, hread⟩ <;> rw [hsignature]

/-- The same header is opened under two paths, and the same text is printed for both. -/
theorem same_text_same_header :
    let signature : Signature := ⟨.uncompressed, 17, [17, 0, 0, 0, 83, 67, 67, 65]⟩
    let text := utf8 (description signature .windows1252)
    ∃ handle other : Handle, handle.Opened ∧ other.Opened ∧ handle.Prints text ∧ other.Prints text ∧
      readDescription text = some (signature, .windows1252) ∧
      ∃ input again, handle.input = some input ∧ other.input = some again ∧
        input.path ≠ again.path ∧ input.signature.header = again.signature.header := by
  intro signature text
  have hopened : ∀ path, (⟨.windows1252, some ⟨path, signature⟩⟩ : Handle).Opened := by
    intro path
    exact ⟨new .windows1252, path, .ok (.ofBytes signature.header), {}, {}, by cbv, by cbv⟩
  have hprints : ∀ path, (⟨.windows1252, some ⟨path, signature⟩⟩ : Handle).Prints text := by
    intro path
    have hinput : (⟨.windows1252, some ⟨path, signature⟩⟩ : Handle).input = some ⟨path, signature⟩ := rfl
    have hprints := prints_description hinput
    exact hprints
  obtain ⟨-, hdetermines⟩ := description_determines_header
  obtain ⟨-, input, again, hinput, hagain, -, -, hheader, -, hread⟩ :=
    hdetermines _ _ text (hopened (utf8 "a")) (hopened (utf8 "b")) (hprints _) (hprints _)
  obtain rfl := Option.some.inj hinput
  obtain rfl := Option.some.inj hagain
  exact ⟨_, _, hopened _, hopened _, hprints _, hprints _, hread, _, _, rfl, rfl, by decide, hheader⟩

end Handle

end PrefetchInfo.Info
