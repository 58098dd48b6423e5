import PrefetchInfo.Proofs.Files.Tree
import PrefetchInfo.Signature.Check

/-!
# Detecting files beside an open log

A tool that is told to log to a file opens it before it looks at its input file, and may create it by
doing so. Whatever path the log has, also that of the input file, this does not change the signature
that is found in the input file: a file that is created is empty, and an empty file has none.
-/

namespace PrefetchInfo.FileTree

variable {tree : FileTree} {route : Route}

/-- The signature of a source, given how opening it ended; none if it could not be opened, its header
cannot be read, or the header carries no known mark. -/
def signatureOf : Except Failure Source → Option Signature
  | .error _ => none
  | .ok source =>
    match (source.take Signature.headerSize).ending with
    | .complete => Signature.detect (source.take Signature.headerSize).bytes
    | _ => none

/-- A signature is found in the first bytes of a source. -/
lemma exists_detect_of_signatureOf {opened : Except Failure Source} {signature : Signature}
    (h : signatureOf opened = some signature) : ∃ data, Signature.detect data = some signature := by
  rcases opened with failure | source
  · cases h
  · simp only [signatureOf] at h
    split at h
    · exact ⟨_, h⟩
    · cases h

/-- The signature of the file that a path leads to, if there is such a file and it has one. -/
def signatureAt (tree : FileTree) (path : Bytes) : Option Signature :=
  signatureOf (tree.openForReading path)

/-- The files once a log is open for appending, if one is wanted; none if it cannot be opened. -/
def logging (tree : FileTree) : Option Bytes → Option FileTree
  | none => some tree
  | some path =>
    match tree.openForAppending path with
    | (.ok _, tree) => some tree
    | (.error _, _) => none

/-- A log that can be opened is open then. -/
lemma logging_of_ok {path : Bytes} (h : (tree.openForAppending path).1 = .ok route) :
    tree.logging (some path) = some (tree.openForAppending path).2 := by
  rcases hopen : tree.openForAppending path with ⟨failure | other, tree'⟩
  · rw [hopen] at h
    cases h
  · simp only [logging, hopen]

/-! ### Paths beside a new empty file -/

/-- Opens what a path leads to in the end. -/
def openAt (tree : FileTree) (path : Path) (last : Route) : Except Failure Source :=
  if path.wantsFolder ∧ ¬tree.isFolder last then .error .notADirectory
  else
    match tree.entry? last with
    | some entry => entry.opened
    | none => .error .notFound

/-- Opening for reading is taking the path apart, following it, and opening what it leads to. -/
lemma openForReading_eq (tree : FileTree) (bytes : Bytes) :
    tree.openForReading bytes =
      match Path.check bytes with
      | .error failure => .error failure
      | .ok path =>
        match tree.follow (tree.start path) path.names with
        | .error failure => .error failure
        | .ok last => tree.openAt path last := by
  simp only [openForReading, locate, bind, Except.bind]
  rcases Path.check bytes with failure | path
  · rfl
  · simp only
    rcases tree.follow (tree.start path) path.names with failure | last
    · rfl
    · by_cases hfolder : path.wantsFolder ∧ ¬tree.isFolder last
      · simp only [openAt, if_pos hfolder]
      · rcases hentry : tree.entry? last with _ | entry <;>
          simp only [openAt, if_neg hfolder, hentry]

section Put

variable (hroute : route ≠ []) (hnone : tree.entry? route = none)

include hroute hnone

/-- A new file is no folder, and neither was what was there before. -/
lemma isFolder_put_file (other : Route) :
    (tree.put route (.file [])).isFolder other = tree.isFolder other := by
  rw [isFolder, isFolder, entry?_put tree route _ hroute]
  by_cases hother : other = route
  · rw [if_pos hother, hother, hnone]
    rfl
  · rw [if_neg hother]

/-- A step beside a new file is the step that it was before, unless it leads to the new file. -/
lemma step_put_file (before : Route) (name : Bytes) :
    (tree.put route (.file [])).step before name = tree.step before name ∨
    tree.step before name = .error .notFound ∧
      (tree.put route (.file [])).step before name = .ok route := by
  simp only [step, isFolder_put_file hroute hnone, entry?_put tree route _ hroute]
  by_cases hnext : before ++ [name] = route
  · simp only [hnext, hnone, if_true, Option.isNone_none, Option.isNone_some, Bool.false_eq_true,
      if_false]
    split
    · exact .inl rfl
    · split
      · exact .inl rfl
      · split
        · exact .inl rfl
        · split
          · exact .inl rfl
          · exact .inr ⟨rfl, rfl⟩
  · simp only [if_neg hnext, true_or]

/-- Names followed beside a new file lead where they led before, unless they led nowhere and now lead to
the new file or again nowhere. -/
lemma follow_put_file (before : Route) (names : List Bytes) :
    (tree.put route (.file [])).follow before names = tree.follow before names ∨
    (∃ failure, tree.follow before names = .error failure) ∧
      ((tree.put route (.file [])).follow before names = .ok route ∨
        ∃ failure, (tree.put route (.file [])).follow before names = .error failure) := by
  induction names generalizing before with
  | nil => exact .inl rfl
  | cons name names ih =>
    simp only [follow, List.foldlM_cons]
    rcases step_put_file hroute hnone before name with hsame | ⟨hgone, hfound⟩
    · rw [hsame]
      rcases tree.step before name with failure | next
      · exact .inl rfl
      · exact ih next
    · rw [hgone, hfound]
      refine .inr ⟨⟨.notFound, rfl⟩, ?_⟩
      cases names with
      | nil => exact .inl rfl
      | cons name names =>
        -- A file is no folder, so that no name leads on from it.
        have hfile : (tree.put route (.file [])).step route name = .error .notADirectory := by
          have hnot : tree.isFolder route = false := by
            rw [isFolder, hnone]
            rfl
          simp only [step, isFolder_put_file hroute hnone, hnot, Bool.false_eq_true, not_false_iff,
            if_true]
        refine .inr ⟨.notADirectory, ?_⟩
        simp only [bind, Except.bind, List.foldlM_cons, hfile]

/-- At the end of a path, a new empty file has no signature, just as nothing had none. -/
lemma signatureAt_end_put_file (path : Path) (last : Route) :
    signatureOf ((tree.put route (.file [])).openAt path last) =
      signatureOf (tree.openAt path last) := by
  simp only [openAt, isFolder_put_file hroute hnone, entry?_put tree route _ hroute]
  by_cases hfolder : path.wantsFolder ∧ ¬tree.isFolder last
  · simp only [if_pos hfolder]
  · simp only [if_neg hfolder]
    by_cases hlast : last = route
    · rw [if_pos hlast, hlast, hnone]
      rfl
    · rw [if_neg hlast]

/-- A new empty file changes no signature. -/
lemma signatureAt_put_file (bytes : Bytes) :
    (tree.put route (.file [])).signatureAt bytes = tree.signatureAt bytes := by
  rw [signatureAt, signatureAt, openForReading_eq, openForReading_eq]
  rcases Path.check bytes with failure | path
  · rfl
  · have hstart : (tree.put route (.file [])).start path = tree.start path := rfl
    simp only [hstart]
    rcases follow_put_file hroute hnone (tree.start path) path.names with
      hsame | ⟨⟨failure, hgone⟩, hfound | ⟨failure', hfails⟩⟩
    · rw [hsame]
      rcases tree.follow (tree.start path) path.names with failure | last
      · rfl
      · exact signatureAt_end_put_file hroute hnone path last
    · rw [hgone, hfound]
      simp only [openAt, isFolder_put_file hroute hnone, entry?_put tree route _ hroute]
      split <;> rfl
    · rw [hgone, hfails]
      rfl

end Put

/-- **Opening a log does not change what is detected,** wherever the log is. -/
theorem signatureAt_of_logging {log : Option Bytes} {tree' : FileTree}
    (h : tree.logging log = some tree') (path : Bytes) :
    tree'.signatureAt path = tree.signatureAt path := by
  cases log with
  | none => rw [← Option.some.inj h]
  | some log =>
    simp only [logging] at h
    rcases tree.openForAppending_cases log with
      ⟨_, hlog⟩ | ⟨_, _, _, hlog⟩ | ⟨route, hroute, hnone, hlog⟩ <;> rw [hlog] at h
    · cases h
    · rw [← Option.some.inj h]
    · rw [← Option.some.inj h, signatureAt_put_file hroute hnone]

end PrefetchInfo.FileTree
