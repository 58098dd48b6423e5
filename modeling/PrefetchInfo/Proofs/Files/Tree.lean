import PrefetchInfo.Files.Tree
import PrefetchInfo.Proofs.Device.Delivery
import PrefetchInfo.Proofs.Lookup

/-!
# Appending to files

What is read at a route after something was put or appended at a route, and what opening for appending
can come to. Appending to a file changes that file only; opening one changes none, and creates at most
an empty one.
-/

namespace PrefetchInfo

/-- An entry found at the route `way` after bytes were appended to the file at a route. -/
def Entry.appended (way route : Route) (data : Bytes) : Entry → Entry
  | file content => file (if way = route then content ++ data else content)
  | entry => entry

namespace FileTree

variable {tree tree' : FileTree} {route other : Route} {data : Bytes}

/-! ### Entries -/

/-- An entry that is put somewhere is found there, and the others as before. -/
lemma entry?_put (tree : FileTree) (route : Route) (entry : Entry) (hroute : route ≠ [])
    (other : Route) :
    entry? (tree.put route entry) other = if other = route then some entry else tree.entry? other := by
  by_cases hother : other = route
  · subst hother
    simp only [ entry?, put, if_neg hroute, List.lookup_cons, beq_self_eq_true, if_true]
  · rw [if_neg hother]
    by_cases hroot : other = []
    · simp only [ entry?, if_pos hroot]
    · simp only [ entry?, put, if_neg hroot, List.lookup_cons, beq_eq_false_iff_ne.mpr hother]
      exact lookup_filter_ne hother tree.entries

/-- What is found after bytes were appended is what was found before, with the bytes behind it if it is
the file they were appended to. -/
lemma entry?_append (tree : FileTree) (route : Route) (data : Bytes) (other : Route) :
    entry? (tree.append route data) other =
      (tree.entry? other).map (Entry.appended other route data) := by
  by_cases hroot : other = []
  · simp only [ entry?, if_pos hroot, Option.map_some, Entry.appended]
  · simp only [ entry?, if_neg hroot, append]
    induction tree.entries with
    | nil => rfl
    | cons head entries ih =>
      obtain ⟨way, entry⟩ := head
      by_cases hway : other = way
      · subst hway
        cases entry <;> simp [Entry.appended]
      · have hfalse : (other == way) = false := beq_eq_false_iff_ne.mpr hway
        cases entry <;> simp only [List.map_cons, List.lookup_cons, hfalse, ih]

/-! ### Content -/

/-- What is read from the file at a route; nothing if there is no file. -/
def contentAt (route : Route) (tree : FileTree) : Bytes :=
  (tree.content? route).getD []

/-- Appending to a file puts the bytes behind its content. -/
lemma contentAt_append {content : Bytes} (h : tree.entry? route = some (.file content)) :
    (tree.append route data).contentAt route = tree.contentAt route ++ data := by
  simp only [contentAt, content?, entry?_append, h, Option.map_some, Entry.appended, if_true,
    Option.getD_some]

/-- Appending to a file leaves the others as they are. -/
lemma contentAt_append_of_ne (hne : other ≠ route) :
    (tree.append route data).contentAt other = tree.contentAt other := by
  simp only [contentAt, content?, entry?_append]
  rcases tree.entry? other with _ | entry
  · rfl
  · cases entry <;> simp only [Option.map_some, Entry.appended, if_neg hne]

/-- An empty file where nothing was changes no content. -/
lemma contentAt_put_empty (hroute : route ≠ []) (h : tree.entry? route = none) :
    (tree.put route (.file [])).contentAt other = tree.contentAt other := by
  simp only [contentAt, content?, entry?_put tree route _ hroute]
  by_cases hother : other = route
  · simp only [hother, if_true, h, Option.getD_some, Option.getD_none]
  · simp only [if_neg hother]

/-! ### Opening -/

/-- What opening a name in a folder can come to: what bears that name is a folder, or refuses; something
else that bears the name is opened; or an empty file is put where nothing was. -/
lemma openNamed_cases (tree : FileTree) (folder : Route) (name : Bytes) :
    (∃ failure, tree.openNamed folder name = (.error failure, tree)) ∨
    (∃ route entry, tree.entry? route = some entry ∧
      tree.openNamed folder name = (.ok route, tree)) ∨
    (∃ route, route ≠ [] ∧ tree.entry? route = none ∧
      tree.openNamed folder name = (.ok route, tree.put route (.file []))) := by
  rcases hentry : tree.entry? (folder ++ [name]) with _ | entry
  · exact .inr (.inr ⟨_, by simp, hentry, by simp only [openNamed, hentry]⟩)
  · cases entry with
    | folder => exact .inl ⟨.isADirectory, by simp only [openNamed, hentry]⟩
    | file content => exact .inr (.inl ⟨_, _, hentry, by simp only [openNamed, hentry]⟩)
    | pipe content => exact .inr (.inl ⟨_, _, hentry, by simp only [openNamed, hentry]⟩)
    | device special => exact .inr (.inl ⟨_, _, hentry, by simp only [openNamed, hentry]⟩)
    | refusing failure => exact .inl ⟨failure, by simp only [openNamed, hentry]⟩

/-- What opening for appending can come to: it fails and changes nothing; something that is there and
is no folder is opened; or an empty file is put where nothing was. -/
lemma openForAppending_cases (tree : FileTree) (path : Bytes) :
    (∃ failure, tree.openForAppending path = (.error failure, tree)) ∨
    (∃ route entry, tree.entry? route = some entry ∧
      tree.openForAppending path = (.ok route, tree)) ∨
    (∃ route, route ≠ [] ∧ tree.entry? route = none ∧
      tree.openForAppending path = (.ok route, tree.put route (.file []))) := by
  unfold openForAppending
  split
  · exact .inl ⟨_, rfl⟩
  · split
    · exact .inl ⟨_, rfl⟩
    · split
      · exact .inl ⟨_, rfl⟩
      · split
        · exact .inl ⟨_, rfl⟩
        · split
          · exact .inl ⟨_, rfl⟩
          · split
            · exact .inl ⟨_, rfl⟩
            · exact tree.openNamed_cases _ _

/-- Opening for appending changes no content. -/
lemma contentAt_openForAppending (tree : FileTree) (path : Bytes) (other : Route) :
    (tree.openForAppending path).2.contentAt other = tree.contentAt other := by
  rcases tree.openForAppending_cases path with
    ⟨_, h⟩ | ⟨_, _, _, h⟩ | ⟨route, hroute, hnone, h⟩ <;> rw [h]
  exact contentAt_put_empty hroute hnone

/-! ### How entries change -/

/-- How the entry at a route changes when files are opened and appended to: not at all, unless it is a
file, which may grow, or nothing, which may become a file. -/
inductive Grows (tree tree' : FileTree) (route : Route) : Prop where
  /-- The entry is as it was. -/
  | same (h : tree'.entry? route = tree.entry? route)
  /-- There is a file now, where there was a file or nothing. -/
  | file {content : Bytes} (h : tree'.entry? route = some (.file content))
      (before : tree.entry? route = none ∨ ∃ content, tree.entry? route = some (.file content))

/-- Appending lets entries grow. -/
lemma grows_append (tree : FileTree) (route : Route) (data : Bytes) (other : Route) :
    Grows tree (tree.append route data) other := by
  have happend := entry?_append tree route data other
  rcases hentry : tree.entry? other with _ | entry
  · exact .same (by rw [happend, hentry]; rfl)
  · cases entry with
    | file content => exact .file (by rw [happend, hentry]; rfl) (.inr ⟨content, hentry⟩)
    | folder => exact .same (by rw [happend, hentry]; rfl)
    | pipe content => exact .same (by rw [happend, hentry]; rfl)
    | device special => exact .same (by rw [happend, hentry]; rfl)
    | refusing failure => exact .same (by rw [happend, hentry]; rfl)

/-- One operation on what was opened lets entries grow. -/
lemma grows_of_step (h : (appender route).Step tree tree') (other : Route) :
    Grows tree tree' other := by
  cases h with
  | write data =>
    change Grows tree (write route data tree).2 other
    by_cases hfull : tree.entry? route = some (.device .full)
    · exact .same (by rw [write, if_pos hfull])
    · rw [write, if_neg hfull]
      exact grows_append tree route data other
  | flush => exact .same rfl

/-- Opening lets entries grow. -/
lemma grows_openForAppending (tree : FileTree) (path : Bytes) (other : Route) :
    Grows tree (tree.openForAppending path).2 other := by
  rcases tree.openForAppending_cases path with
    ⟨_, h⟩ | ⟨_, _, _, h⟩ | ⟨route, hroute, hnone, h⟩ <;> rw [h]
  · exact .same rfl
  · exact .same rfl
  · have hput := entry?_put tree route (.file []) hroute other
    by_cases hother : other = route
    · rw [if_pos hother] at hput
      exact .file hput (.inl (hother ▸ hnone))
    · rw [if_neg hother] at hput
      exact .same hput

/-- Whether what is appended at a route is kept there, or would be if there were a file. The device
that is full takes nothing that it would have to keep. -/
def Keeps (route : Route) (tree : FileTree) : Prop :=
  ∀ entry, tree.entry? route = some entry →
    (∃ content, entry = .file content) ∨ entry = .device .full

/-- What is kept stays so. -/
lemma Grows.keeps (h : Grows tree tree' route) (hkeeps : tree.Keeps route) :
    tree'.Keeps route := by
  intro entry hentry
  cases h with
  | same h => exact hkeeps entry (h ▸ hentry)
  | file h _ => exact .inl ⟨_, Option.some.inj (hentry.symm.trans h)⟩

/-- What is there stays there. -/
lemma Grows.isSome (h : Grows tree tree' route) (hsome : (tree.entry? route).isSome) :
    (tree'.entry? route).isSome := by
  cases h with
  | same h => rwa [h]
  | file h _ => rw [h]; rfl

/-- What is not full does not become full. -/
lemma Grows.ne_full (h : Grows tree tree' route)
    (hne : tree.entry? route ≠ some (.device .full)) :
    tree'.entry? route ≠ some (.device .full) := by
  cases h with
  | same h => rwa [h]
  | file h _ => rw [h]; simp

/-- The device that is full stays it. -/
lemma Grows.full (h : Grows tree tree' route) (hfull : tree.entry? route = some (.device .full)) :
    tree'.entry? route = some (.device .full) := by
  cases h with
  | same h => exact h.trans hfull
  | file _ before =>
    rcases before with hnone | ⟨content, hfile⟩
    · cases hnone.symm.trans hfull
    · cases hfile.symm.trans hfull

/-! ### What was opened as a device -/

/-- What was opened delivers if it is a kind of thing that keeps what it takes. -/
theorem deliversWhile_appender (route : Route) :
    (appender route).DeliversWhile (fun tree => tree.Keeps route ∧ (tree.entry? route).isSome)
      (contentAt route) where
  stays hstep h := ⟨(grows_of_step hstep route).keeps h.1, (grows_of_step hstep route).isSome h.2⟩
  write_ok {data tree n tree'} h hw := by
    change write route data tree = (.ok n, tree') at hw
    obtain ⟨entry, hentry⟩ := Option.isSome_iff_exists.mp h.2
    rcases h.1 entry hentry with ⟨content, rfl⟩ | rfl
    · have hroom : tree.entry? route ≠ some (.device .full) := by simp [hentry]
      rw [write, if_neg hroom, Prod.mk.injEq, Except.ok.injEq] at hw
      obtain ⟨rfl, rfl⟩ := hw
      rw [List.take_length, contentAt_append hentry]
    · rw [write, if_pos hentry] at hw
      cases (Prod.mk.inj hw).1
  write_error {data tree failure tree'} h hw := by
    change write route data tree = (.error failure, tree') at hw
    unfold write at hw
    split at hw
    · rw [(Prod.mk.inj hw).2]
    · cases (Prod.mk.inj hw).1
  flush _ := rfl

/-- What was opened is willing if it is not the device that is full. -/
theorem willing_appender (route : Route) :
    (appender route).Willing (fun tree => tree.entry? route ≠ some (.device .full)) where
  stays hstep h := (grows_of_step hstep route).ne_full h
  pos_of_ok {data tree n tree'} h hdata hw := by
    change write route data tree = (.ok n, tree') at hw
    rw [write, if_neg h, Prod.mk.injEq, Except.ok.injEq] at hw
    rw [← hw.1]
    exact List.length_pos_iff.mpr hdata
  retries_of_error {data tree failure tree'} h _ hw := by
    change write route data tree = (.error failure, tree') at hw
    rw [write, if_neg h] at hw
    cases (Prod.mk.inj hw).1

/-- One operation on what was opened leaves the content of other files. -/
lemma contentAt_of_step (hne : other ≠ route) (h : (appender route).Step tree tree') :
    tree'.contentAt other = tree.contentAt other := by
  cases h with
  | write data =>
    change (write route data tree).2.contentAt other = _
    unfold write
    split
    · rfl
    · exact contentAt_append_of_ne hne
  | flush => rfl

end FileTree

end PrefetchInfo
