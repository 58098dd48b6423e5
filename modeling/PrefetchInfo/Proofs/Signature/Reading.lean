import Mathlib.Tactic.Lemma
import PrefetchInfo.Signature.Check

/-!
# The header that was read

A check of a file that finds a signature has read a header, all of it, and the signature keeps the bytes
that were read.
-/

namespace PrefetchInfo

namespace Source

/-- A script that is read to the wanted number of bytes delivers that many. -/
lemma length_takeScript {count : Nat} {deliveries : List Delivery}
    (h : (takeScript count deliveries).ending = .complete) :
    (takeScript count deliveries).bytes.length = count := by
  induction deliveries generalizing count with
  | nil =>
    rw [takeScript.eq_def] at h ⊢
    by_cases hzero : count = 0
    · rw [if_pos hzero, hzero]
      rfl
    · rw [if_neg hzero] at h
      cases h
  | cons delivery rest ih =>
    rw [takeScript.eq_def] at h ⊢
    by_cases hzero : count = 0
    · rw [if_pos hzero, hzero]
      rfl
    · rw [if_neg hzero] at h ⊢
      cases delivery with
      | data bytes =>
        by_cases hend : bytes = []
        · simp only [if_pos hend] at h
          cases h
        · simp only [if_neg hend] at h ⊢
          have hrest := ih h
          rw [List.length_append, hrest, List.length_take]
          omega
      | failure failure =>
        by_cases hagain : failure.kind = .interrupted
        · simp only [if_pos hagain] at h ⊢
          exact ih h
        · simp only [if_neg hagain] at h
          cases h

/-- A source that is read to the wanted number of bytes delivers that many. -/
lemma length_take {count : Nat} {source : Source} (h : (source.take count).ending = .complete) :
    (source.take count).bytes.length = count := by
  cases source with
  | script deliveries => exact length_takeScript h
  | endless byte => exact List.length_replicate

end Source

namespace Signature

variable {signature : Signature}

/-- A signature keeps the header it was found in. -/
lemma header_eq_take {data : Bytes} (h : detect data = some signature) :
    headerSize ≤ data.length ∧ signature.header = data.take headerSize := by
  unfold detect at h
  split at h
  · cases h
  · rename_i hlong
    refine ⟨Nat.le_of_not_lt hlong, ?_⟩
    simp only at h
    split at h
    · rw [← Option.some.inj h]
    · split at h
      · rw [← Option.some.inj h]
      · cases h

/-- A signature was read from a file, given how opening the file ended: the file was opened, its header
was read, and the signature is that of these bytes. -/
def ReadFrom (signature : Signature) (opened : Except Failure Source) : Prop :=
  ∃ source, opened = .ok source ∧ source.take headerSize = ⟨signature.header, .complete⟩ ∧
    detect signature.header = some signature

/-- A check of a source finds a signature just if its header can be read and has that signature. -/
lemma ofSource_eq_some_iff {source : Source} :
    (ofSource source).1 = .ok (some signature) ↔
      source.take headerSize = ⟨signature.header, .complete⟩ ∧
        detect signature.header = some signature := by
  rcases hread : source.take headerSize with ⟨bytes, _ | _ | failure⟩
  · have hlength : bytes.length = headerSize := by
      have hcomplete : (source.take headerSize).ending = .complete := by rw [hread]
      have hall := Source.length_take hcomplete
      rwa [hread] at hall
    simp only [ofSource, hread, ofReading, Except.ok.injEq, Reading.mk.injEq, and_true]
    constructor
    · intro hdetect
      obtain ⟨-, hheader⟩ := header_eq_take hdetect
      rw [← hlength, List.take_length] at hheader
      exact ⟨hheader.symm, hheader ▸ hdetect⟩
    · rintro ⟨rfl, hdetect⟩
      exact hdetect
  · simp [ofSource, hread, ofReading]
  · simp only [ofSource, hread, ofReading, Reading.mk.injEq, reduceCtorEq, and_false, false_and,
      iff_false]
    split <;> simp

/-- A check of a file finds a signature just if it was read from the file. -/
lemma ofFile_eq_some_iff {path : Bytes} {opened : Except Failure Source} :
    (ofFile path opened).1 = .ok (some signature) ↔ signature.ReadFrom opened := by
  rcases opened with failure | source
  · refine iff_of_false (fun h => nomatch h) ?_
    rintro ⟨source, hsource, -⟩
    cases hsource
  · have hcheck : (ofFile path (.ok source)).1 = .ok (some signature) ↔
        (ofSource source).1 = .ok (some signature) := by
      change context (ofSource source).1 _ _ = _ ↔ _
      rcases (ofSource source).1 with chain | detected
      · exact iff_of_false (fun h => nomatch h) (fun h => nomatch h)
      · rfl
    rw [hcheck, ofSource_eq_some_iff]
    constructor
    · intro h
      exact ⟨source, rfl, h⟩
    · rintro ⟨_, hsource, h⟩
      cases hsource
      exact h

end Signature

end PrefetchInfo
