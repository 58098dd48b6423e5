import PrefetchInfo.Files.Tree
import PrefetchInfo.Proofs.Error.Growth
import PrefetchInfo.Signature.Check

/-!
# Reading a header in portions

A source delivers its bytes in portions of its own choosing, and reading may be interrupted between
them. What is read depends on neither: it is the first bytes of all that arrives before the source ends
or fails for good. `Source.Fills` says what reading does one read after the other; it leaves in the
source what it does not need. So a check finds the signature of the bytes that arrive, whatever the
portions, and fails just if a failure comes before the header is complete.
-/

namespace PrefetchInfo

namespace Delivery

/-- The bytes of a delivery, if it has any. -/
def bytes : Delivery → Bytes
  | .data bytes => bytes
  | .failure _ => []

/-- More may arrive after a delivery: it is a portion that is not empty, or an interruption. -/
def goesOn : Delivery → Bool
  | .data bytes => bytes ≠ []
  | .failure reason => reason.kind = .interrupted

end Delivery

namespace Source

variable {count : Nat} {deliveries left rest : List Delivery} {reading : Reading} {bytes : Bytes}
  {failure : Failure}

/-! ### What arrives -/

/-- The bytes that arrive before a script ends or fails for good. -/
def arriving (deliveries : List Delivery) : Bytes :=
  (deliveries.takeWhile Delivery.goesOn).flatMap Delivery.bytes

/-- The failure for good that a script comes to; none if it ends before that. -/
def halt (deliveries : List Delivery) : Option Failure :=
  match deliveries.dropWhile Delivery.goesOn with
  | .failure failure :: _ => some failure
  | _ => none

/-- Nothing arrives after an empty portion, which is the end of a script. -/
lemma arriving_end (rest : List Delivery) :
    arriving (.data [] :: rest) = [] ∧ halt (.data [] :: rest) = none := by
  simp [arriving, halt, Delivery.goesOn]

/-- After a portion that is not empty the rest arrives. -/
lemma arriving_portion (rest : List Delivery) (hbytes : bytes ≠ []) :
    arriving (.data bytes :: rest) = bytes ++ arriving rest ∧
      halt (.data bytes :: rest) = halt rest := by
  simp [arriving, halt, Delivery.goesOn, hbytes, Delivery.bytes]

/-- After an interruption the rest arrives. -/
lemma arriving_interruption (rest : List Delivery) (hagain : failure.kind = .interrupted) :
    arriving (.failure failure :: rest) = arriving rest ∧
      halt (.failure failure :: rest) = halt rest := by
  simp [arriving, halt, Delivery.goesOn, hagain, Delivery.bytes]

/-- Nothing arrives after a failure for good. -/
lemma arriving_failure (rest : List Delivery) (hfails : failure.kind ≠ .interrupted) :
    arriving (.failure failure :: rest) = [] ∧ halt (.failure failure :: rest) = some failure := by
  simp [arriving, halt, Delivery.goesOn, hfails]

/-- How reading `count` bytes of a script ends. -/
def ending (count : Nat) (deliveries : List Delivery) : Reading.Ending :=
  if count ≤ (arriving deliveries).length then .complete
  else (halt deliveries).elim .ended .failed

/-- **What is read of a script is the beginning of what arrives,** and reading is complete once that is
long enough. -/
lemma takeScript_eq (count : Nat) (deliveries : List Delivery) :
    takeScript count deliveries = ⟨(arriving deliveries).take count, ending count deliveries⟩ := by
  induction deliveries generalizing count with
  | nil =>
    rw [takeScript.eq_def]
    rcases count with _ | count <;> rfl
  | cons delivery rest ih =>
    rw [takeScript.eq_def]
    by_cases hzero : count = 0
    · subst hzero
      simp only [if_true, ending, List.take_zero, Nat.zero_le]
    · have hnone : ¬count ≤ ([] : Bytes).length := by simpa using hzero
      rw [if_neg hzero]
      cases delivery with
      | data bytes =>
        by_cases hend : bytes = []
        · subst hend
          obtain ⟨hbytes, hhalt⟩ := arriving_end rest
          simp only [if_true, ending, hbytes, hhalt, if_neg hnone, List.take_nil, Option.elim]
        · obtain ⟨hbytes, hhalt⟩ := arriving_portion rest hend
          have hle : count ≤ (bytes ++ arriving rest).length ↔
              count - bytes.length ≤ (arriving rest).length := by
            rw [List.length_append]
            omega
          simp only [if_neg hend, ih, ending, hbytes, hhalt, hle, List.take_append]
      | failure failure =>
        by_cases hagain : failure.kind = .interrupted
        · obtain ⟨hbytes, hhalt⟩ := arriving_interruption rest hagain
          simp only [if_pos hagain, ih, ending, hbytes, hhalt]
        · obtain ⟨hbytes, hhalt⟩ := arriving_failure rest hagain
          simp only [if_neg hagain, ending, hbytes, hhalt, if_neg hnone, List.take_nil, Option.elim]

/-! ### One read after the other -/

/-- A single read of at most `count` bytes: what it meets, and what is left of the script. Of a portion
that is too large the rest is left. -/
def readOnce (count : Nat) : List Delivery → Delivery × List Delivery
  | [] => (.data [], [])
  | .data bytes :: rest =>
    (.data (bytes.take count), if bytes.length ≤ count then rest else .data (bytes.drop count) :: rest)
  | .failure failure :: rest => (.failure failure, rest)

/-- Reading a wanted number of bytes from a script, one read after the other: until there are enough, the
script ends, or a read fails for good. -/
inductive Fills : Nat → List Delivery → Reading → List Delivery → Prop where
  /-- There are enough bytes. -/
  | full (deliveries : List Delivery) : Fills 0 deliveries ⟨[], .complete⟩ deliveries
  /-- A read meets the end. -/
  | ended {count : Nat} {deliveries left : List Delivery} (hmore : 0 < count)
      (hread : readOnce count deliveries = (.data [], left)) :
      Fills count deliveries ⟨[], .ended⟩ left
  /-- A read delivers a portion, and what is still wanted is read from what it left. -/
  | portion {count : Nat} {deliveries rest left : List Delivery} {bytes : Bytes} {reading : Reading}
      (hmore : 0 < count) (hread : readOnce count deliveries = (.data bytes, rest))
      (hbytes : bytes ≠ []) (hrest : Fills (count - bytes.length) rest reading left) :
      Fills count deliveries { reading with bytes := bytes ++ reading.bytes } left
  /-- A read is interrupted and tried again. -/
  | again {count : Nat} {deliveries rest left : List Delivery} {failure : Failure} {reading : Reading}
      (hmore : 0 < count) (hread : readOnce count deliveries = (.failure failure, rest))
      (hagain : failure.kind = .interrupted) (hrest : Fills count rest reading left) :
      Fills count deliveries reading left
  /-- A read fails for good. -/
  | failed {count : Nat} {deliveries left : List Delivery} {failure : Failure} (hmore : 0 < count)
      (hread : readOnce count deliveries = (.failure failure, left))
      (hfails : failure.kind ≠ .interrupted) :
      Fills count deliveries ⟨[], .failed failure⟩ left

/-- All bytes of a script, whether they ever arrive or not. -/
def content (deliveries : List Delivery) : Bytes :=
  deliveries.flatMap Delivery.bytes

/-- A read that delivers a portion delivers the beginning of what arrives, and leaves the rest. -/
lemma readOnce_portion (hread : readOnce count deliveries = (.data bytes, rest))
    (hbytes : bytes ≠ []) :
    bytes.length ≤ count ∧ arriving deliveries = bytes ++ arriving rest ∧
      halt deliveries = halt rest ∧ content deliveries = bytes ++ content rest ∧
      rest.length ≤ deliveries.length := by
  rcases deliveries with _ | ⟨all | failure, tail⟩
  · cases hread
    exact absurd rfl hbytes
  · obtain ⟨hdata, hrest⟩ := Prod.mk.inj hread
    obtain rfl : all.take count = bytes := Delivery.data.inj hdata
    have hall : all ≠ [] := by
      rintro rfl
      exact hbytes List.take_nil
    obtain ⟨harriving, hhalt⟩ := arriving_portion tail hall
    refine ⟨List.length_take_le count all, ?_⟩
    by_cases hfits : all.length ≤ count
    · rw [if_pos hfits] at hrest
      subst hrest
      rw [List.take_of_length_le hfits]
      exact ⟨harriving, hhalt, rfl, Nat.le_succ _⟩
    · rw [if_neg hfits] at hrest
      subst hrest
      have hdrop : all.drop count ≠ [] := by
        rw [ne_eq, List.drop_eq_nil_iff]
        exact hfits
      obtain ⟨harriving', hhalt'⟩ := arriving_portion tail hdrop
      have hsplit : all.take count ++ (all.drop count ++ arriving tail) = all ++ arriving tail := by
        rw [← List.append_assoc, List.take_append_drop]
      rw [harriving, hhalt, harriving', hhalt', hsplit]
      refine ⟨rfl, rfl, ?_, Nat.le_refl _⟩
      simp only [content, List.flatMap_cons, Delivery.bytes, ← List.append_assoc,
        List.take_append_drop]
  · cases hread

/-- A read that delivers nothing meets the end. -/
lemma readOnce_end (hmore : 0 < count) (hread : readOnce count deliveries = (.data [], left)) :
    arriving deliveries = [] ∧ halt deliveries = none ∧ content deliveries = content left := by
  rcases deliveries with _ | ⟨all | failure, tail⟩
  · cases hread
    exact ⟨rfl, rfl, rfl⟩
  · obtain ⟨hdata, hrest⟩ := Prod.mk.inj hread
    have hnone : all.take count = [] := Delivery.data.inj hdata
    obtain rfl : all = [] := by
      rcases List.take_eq_nil_iff.mp hnone with hzero | hall
      · omega
      · exact hall
    obtain rfl : tail = left := hrest
    exact ⟨(arriving_end tail).1, (arriving_end tail).2, rfl⟩
  · cases hread

/-- A read that fails leaves what comes after the failure. -/
lemma readOnce_failure (hread : readOnce count deliveries = (.failure failure, rest)) :
    deliveries = .failure failure :: rest := by
  rcases deliveries with _ | ⟨all | other, tail⟩ <;> cases hread
  rfl

/-- One read after the other comes to an end. -/
lemma exists_fills (count : Nat) (deliveries : List Delivery) :
    ∃ reading left, Fills count deliveries reading left := by
  -- A portion leaves less to read, and an interruption a shorter script.
  induction hsize : count + deliveries.length using Nat.strongRecOn generalizing count deliveries with
  | ind size ih =>
    by_cases hzero : count = 0
    · subst hzero
      exact ⟨_, _, .full deliveries⟩
    · have hmore := Nat.pos_of_ne_zero hzero
      rcases hread : readOnce count deliveries with ⟨bytes | failure, rest⟩
      · by_cases hend : bytes = []
        · subst hend
          exact ⟨_, _, .ended hmore hread⟩
        · obtain ⟨hle, -, -, -, hshorter⟩ := readOnce_portion hread hend
          have hpos : 0 < bytes.length := List.length_pos_iff.mpr hend
          obtain ⟨reading, left, hrest⟩ := ih _ (by omega) (count - bytes.length) rest rfl
          exact ⟨_, _, .portion hmore hread hend hrest⟩
      · by_cases hagain : failure.kind = .interrupted
        · obtain rfl := readOnce_failure hread
          rw [List.length_cons] at hsize
          obtain ⟨reading, left, hrest⟩ := ih _ (by omega) count rest rfl
          exact ⟨_, _, .again hmore hread hagain hrest⟩
        · exact ⟨_, _, .failed hmore hread hagain⟩

/-- **What one read after the other reads is the beginning of what arrives,** and the rest is left. -/
lemma Fills.spec (h : Fills count deliveries reading left) :
    reading = ⟨(arriving deliveries).take count, ending count deliveries⟩ ∧
      content deliveries = reading.bytes ++ content left := by
  induction h with
  | full deliveries => exact ⟨by simp [ending], rfl⟩
  | ended hmore hread =>
    obtain ⟨harriving, hhalt, hcontent⟩ := readOnce_end hmore hread
    have hshort := Nat.not_le_of_gt hmore
    exact ⟨by simp [harriving, ending, hhalt, hshort], hcontent⟩
  | @portion count deliveries rest left bytes reading hmore hread hbytes hrest ih =>
    obtain ⟨hle, harriving, hhalt, hcontent, -⟩ := readOnce_portion hread hbytes
    obtain ⟨rfl, hleft⟩ := ih
    have henough : count ≤ (bytes ++ arriving rest).length ↔
        count - bytes.length ≤ (arriving rest).length := by
      rw [List.length_append]
      omega
    refine ⟨?_, by rw [hcontent, hleft, List.append_assoc]⟩
    rw [harriving, List.take_append, List.take_of_length_le hle]
    simp only [ending, harriving, hhalt, henough]
  | @again count deliveries rest left failure reading hmore hread hagain hrest ih =>
    obtain rfl := readOnce_failure hread
    obtain ⟨harriving, hhalt⟩ := arriving_interruption rest hagain
    obtain ⟨rfl, hleft⟩ := ih
    exact ⟨by simp only [ending, harriving, hhalt], hleft⟩
  | @failed count deliveries left failure hmore hread hfails =>
    obtain rfl := readOnce_failure hread
    obtain ⟨harriving, hhalt⟩ := arriving_failure left hfails
    have hshort := Nat.not_le_of_gt hmore
    exact ⟨by simp [harriving, ending, hhalt, hshort], rfl⟩

/-- A source fails for good before `count` bytes of it have arrived. -/
def FailsWithin (count : Nat) : Source → Failure → Prop
  | script deliveries, failure =>
    (arriving deliveries).length < count ∧ halt deliveries = some failure
  | endless _, _ => False

/-- Reading fails just if the source does before enough bytes have arrived. -/
lemma take_ending_eq_failed_iff {source : Source} :
    (source.take count).ending = .failed failure ↔ source.FailsWithin count failure := by
  cases source with
  | script deliveries =>
    rw [take, takeScript_eq]
    simp only [ending, FailsWithin]
    split
    · rename_i henough
      refine iff_of_false (fun h => nomatch h) ?_
      rintro ⟨hshort, -⟩
      omega
    · rename_i hshort
      rcases hhalt : halt deliveries with _ | other
      · exact iff_of_false (fun h => nomatch h) (fun h => nomatch h.2)
      · simp only [Option.elim, Reading.Ending.failed.injEq, Option.some.injEq]
        exact ⟨fun h => ⟨by omega, h⟩, fun h => h.2⟩
  | endless byte => exact iff_of_false (fun h => nomatch h) id

/-- The bytes of a file arrive all at once. -/
lemma arriving_ofBytes (data : Bytes) :
    arriving [.data data] = data ∧ halt [.data data] = none := by
  by_cases hend : data = []
  · subst hend
    exact arriving_end []
  · obtain ⟨harriving, hhalt⟩ := arriving_portion [] hend
    exact ⟨by rw [harriving]; exact List.append_nil data, hhalt⟩

end Source

/-! ### What is found -/

namespace Signature

open Source

/-- A signature depends on the first bytes alone. -/
lemma detect_take (data : Bytes) : detect (data.take headerSize) = detect data := by
  by_cases hshort : data.length < headerSize
  · rw [List.take_of_length_le (Nat.le_of_lt hshort)]
  · have hlong : ¬(data.take headerSize).length < headerSize := by
      rw [List.length_take]
      omega
    simp only [detect, if_neg hshort, if_neg hlong, List.take_take, Nat.min_self]

/-- Data that is too short for a header has no signature. -/
lemma detect_of_short {data : Bytes} (hshort : data.length < headerSize) : detect data = none := by
  rw [detect, if_pos hshort]

/-- A check of a script finds the signature of what arrives if that is enough for a header, no signature
if the script ends before that, and otherwise tells of the failure. -/
lemma ofSource_script (deliveries : List Delivery) :
    (ofSource (.script deliveries)).1 =
      if headerSize ≤ (arriving deliveries).length then
        .ok (detect ((arriving deliveries).take headerSize))
      else
        match halt deliveries with
        | none => .ok none
        | some failure =>
          if failure.kind = .unexpectedEof then .ok none else .error (.ofFailure failure) := by
  rw [ofSource, Source.take, takeScript_eq, ending]
  split
  · rfl
  · rcases halt deliveries with _ | failure
    · rfl
    · simp only [Option.elim, ofReading]
      split <;> rfl

/-- A check of data at hand finds its signature. -/
lemma ofSource_ofBytes (data : Bytes) : (ofSource (.ofBytes data)).1 = .ok (detect data) := by
  obtain ⟨harriving, hhalt⟩ := arriving_ofBytes data
  rw [Source.ofBytes, ofSource_script, harriving, hhalt]
  split
  · rw [detect_take]
  · rename_i hshort
    rw [detect_of_short (Nat.lt_of_not_le hshort)]

/-- A check of a source fails just if the source fails before the header is complete, other than by
saying that it has ended. -/
lemma ofSource_eq_error_iff {source : Source} {chain : ErrorChain} :
    (ofSource source).1 = .error chain ↔ ∃ failure, source.FailsWithin headerSize failure ∧
      failure.kind ≠ .unexpectedEof ∧ chain = .ofFailure failure := by
  simp only [← take_ending_eq_failed_iff, ofSource]
  rcases source.take headerSize with ⟨bytes, _ | _ | failure⟩
  · simp [ofReading]
  · simp [ofReading]
  · simp only [ofReading, Reading.Ending.failed.injEq, exists_eq_left']
    by_cases hends : failure.kind = .unexpectedEof
    · simp [hends]
    · simp [hends, eq_comm]

/-- A check of a file fails just if the file cannot be opened, or the open file fails before the header
is complete, other than by saying that it has ended. It tells why, and what of the two failed. -/
lemma ofFile_eq_error_iff {path : Bytes} {opened : Except Failure Source} {chain : ErrorChain} :
    (ofFile path opened).1 = .error chain ↔
      (∃ failure, opened = .error failure ∧ chain = (ErrorChain.ofFailure failure).append
        (.inOut .openFailed) ("unable to open file: " ++ Utf8.lossy path)) ∨
      ∃ source failure, opened = .ok source ∧ source.FailsWithin headerSize failure ∧
        failure.kind ≠ .unexpectedEof ∧ chain = (ErrorChain.ofFailure failure).append
          (.inOut .readFailed) ("unable to read file header: " ++ Utf8.lossy path) := by
  rcases opened with failure | source
  · constructor
    · intro h
      exact .inl ⟨failure, rfl, (Except.error.inj h).symm⟩
    · rintro (⟨_, hopened, rfl⟩ | ⟨_, _, hopened, -⟩)
      · cases hopened
        rfl
      · cases hopened
  · change context (ofSource source).1 _ _ = .error chain ↔ _
    simp only [context_eq_error_iff, ofSource_eq_error_iff]
    constructor
    · rintro ⟨_, ⟨failure, hfails, hends, rfl⟩, hchain⟩
      exact .inr ⟨source, failure, rfl, hfails, hends, hchain⟩
    · rintro (⟨failure, hopened, -⟩ | ⟨_, failure, hopened, hfails, hends, hchain⟩)
      · cases hopened
      · cases hopened
        exact ⟨_, ⟨failure, hfails, hends, rfl⟩, hchain⟩

/-- A check of a file that was opened finds what a check of the source finds. -/
lemma ofFile_opened_of_ok {path : Bytes} {source : Source} {found : Option Signature}
    (h : (ofSource source).1 = .ok found) : (ofFile path (.ok source)).1 = .ok found := by
  change context (ofSource source).1 _ _ = .ok found
  rw [h]
  rfl

/-- A file with the given content is opened as a source that holds the content. -/
lemma openForReading_of_content? {tree : FileTree} {path data : Bytes} {route : Route}
    (hlocate : tree.locate path = .ok route) (hcontent : tree.content? route = some data) :
    tree.openForReading path = .ok (.ofBytes data) := by
  have hentry : tree.entry? route = some (.file data) := by
    simp only [FileTree.content?] at hcontent
    split at hcontent
    · rename_i content hentry
      rw [hentry, Option.some.inj hcontent]
    · cases hcontent
  simp only [FileTree.openForReading, hlocate, bind, Except.bind, hentry, Entry.opened]

/-- **A signature is found whatever the portions it comes in.**  A check of a source finds the signature
of the first bytes that arrive if there are enough of them for a header before the source ends or fails
for good, wherever it is interrupted; no signature if the source ends before that, or says that it has
by a failure of that kind; and otherwise it tells of the failure in a chain of one record. Read one
portion after the other, the source is left with all that did not arrive or was not needed. A file that
can be read has the signature of its content. A check of any file fails with a chain of two records,
of which the latest says that opening failed just if it did, and that reading failed just if the open
file failed, other than by ending, before the header was complete. -/
theorem detected_whatever_the_portions :
    (∀ deliveries,
      let checked := (ofSource (.script deliveries)).1
      (headerSize ≤ (arriving deliveries).length →
        checked = .ok (detect ((arriving deliveries).take headerSize))) ∧
      ((arriving deliveries).length < headerSize →
        (halt deliveries = none → checked = .ok none) ∧
        ∀ failure, halt deliveries = some failure →
          (failure.kind = .unexpectedEof → checked = .ok none) ∧
          (failure.kind ≠ .unexpectedEof → checked = .error (.ofFailure failure) ∧
            (ErrorChain.ofFailure failure).length = 1)) ∧
      (∃ left, Fills headerSize deliveries (takeScript headerSize deliveries) left) ∧
      ∀ reading left, Fills headerSize deliveries reading left →
        reading = takeScript headerSize deliveries ∧
        content deliveries = (arriving deliveries).take headerSize ++ content left) ∧
    (∀ (tree : FileTree) path route data,
      tree.locate path = .ok route → tree.content? route = some data →
      (ofFile path (tree.openForReading path)).1 = .ok (detect data)) ∧
    (∀ path opened,
      let checked := (ofFile path opened).1
      ((∃ chain, checked = .error chain ∧ chain.length = 2 ∧ chain.kind = .inOut .openFailed) ↔
        ∃ failure, opened = .error failure) ∧
      ((∃ chain, checked = .error chain ∧ chain.length = 2 ∧ chain.kind = .inOut .readFailed) ↔
        ∃ source failure, opened = .ok source ∧ source.FailsWithin headerSize failure ∧
          failure.kind ≠ .unexpectedEof) ∧
      ∀ chain, checked = .error chain → chain.length = 2 ∧
        (chain.kind = .inOut .openFailed ∨ chain.kind = .inOut .readFailed)) := by
  refine ⟨fun deliveries => ⟨fun hlong => ?_, fun hshort => ?_, ?_, fun reading left hfills => ?_⟩,
    fun tree path route data hlocate hcontent => ?_, fun path opened => ?_⟩
  · rw [ofSource_script, if_pos hlong]
  · have hshort' : ¬headerSize ≤ (arriving deliveries).length := Nat.not_le_of_gt hshort
    rw [ofSource_script, if_neg hshort']
    refine ⟨fun hhalt => by rw [hhalt], fun failure hhalt => ?_⟩
    rw [hhalt]
    exact ⟨fun hends => if_pos hends, fun hfails => ⟨if_neg hfails, rfl⟩⟩
  · obtain ⟨reading, left, hfills⟩ := exists_fills headerSize deliveries
    rw [takeScript_eq, ← hfills.spec.1]
    exact ⟨left, hfills⟩
  · obtain ⟨rfl, hleft⟩ := hfills.spec
    exact ⟨(takeScript_eq headerSize deliveries).symm, hleft⟩
  · rw [openForReading_of_content? hlocate hcontent]
    exact ofFile_opened_of_ok (ofSource_ofBytes data)
  · refine ⟨⟨?_, ?_⟩, ⟨?_, ?_⟩, fun chain hchain => ?_⟩
    · rintro ⟨chain, hchain, -, hkind⟩
      obtain ⟨failure, hopened, -⟩ | ⟨_, _, -, -, -, rfl⟩ := ofFile_eq_error_iff.mp hchain
      · exact ⟨failure, hopened⟩
      · cases hkind
    · rintro ⟨failure, hopened⟩
      exact ⟨_, ofFile_eq_error_iff.mpr (.inl ⟨failure, hopened, rfl⟩), rfl, rfl⟩
    · rintro ⟨chain, hchain, -, hkind⟩
      obtain ⟨_, -, rfl⟩ | ⟨source, failure, hopened, hfails, hends, -⟩ := ofFile_eq_error_iff.mp hchain
      · cases hkind
      · exact ⟨source, failure, hopened, hfails, hends⟩
    · rintro ⟨source, failure, hopened, hfails, hends⟩
      exact ⟨_, ofFile_eq_error_iff.mpr (.inr ⟨source, failure, hopened, hfails, hends, rfl⟩), rfl, rfl⟩
    · obtain ⟨_, -, rfl⟩ | ⟨_, _, -, -, -, rfl⟩ := ofFile_eq_error_iff.mp hchain
      · exact ⟨rfl, .inl rfl⟩
      · exact ⟨rfl, .inr rfl⟩

end Signature

end PrefetchInfo
