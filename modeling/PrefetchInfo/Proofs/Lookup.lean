import Mathlib.Data.List.Nodup
import Mathlib.Tactic.Lemma

/-!
# Entries with a key

Looking up a key in a list of entries, and leaving out the entries with a key. Where no key comes twice,
leaving out a key takes one entry from the list, the one that is found under it.
-/

namespace PrefetchInfo

variable {κ α : Type} [BEq κ] [LawfulBEq κ] [DecidableEq κ] {key other : κ} {value : α}
  {entries : List (κ × α)}

/-- A lookup that a filter by another key does not concern finds what it found before. -/
lemma lookup_filter_ne (hne : other ≠ key) (entries : List (κ × α)) :
    (entries.filter (·.1 ≠ key)).lookup other = entries.lookup other := by
  induction entries with
  | nil => rfl
  | cons head entries ih =>
    obtain ⟨label, entry⟩ := head
    by_cases hlabel : label = key
    · have hother : (other == label) = false := by
        rw [hlabel]
        exact beq_eq_false_iff_ne.mpr hne
      rw [List.filter_cons_of_neg (by simpa using hlabel), ih, List.lookup_cons, hother]
    · rw [List.filter_cons_of_pos (by simpa using hlabel), List.lookup_cons, List.lookup_cons, ih]

/-- Nothing is found under a key that was left out. -/
lemma lookup_filter_self (key : κ) (entries : List (κ × α)) :
    (entries.filter (·.1 ≠ key)).lookup key = none := by
  rw [List.lookup_eq_none_iff]
  intro entry hentry
  have hne : entry.1 ≠ key := by simpa using (List.mem_filter.mp hentry).2
  exact bne_iff_ne.mpr hne.symm

/-- Leaving out a key that no entry has leaves all entries. -/
lemma filter_eq_self_of_lookup (h : entries.lookup key = none) :
    entries.filter (·.1 ≠ key) = entries := by
  rw [List.filter_eq_self]
  intro entry hentry
  have hne : key ≠ entry.1 := bne_iff_ne.mp (List.lookup_eq_none_iff.mp h entry hentry)
  exact decide_eq_true hne.symm

/-- Where no key comes twice, an entry that is found stands beside those with another key. -/
lemma perm_cons_filter (hnodup : (entries.map Prod.fst).Nodup) (h : entries.lookup key = some value) :
    entries.Perm ((key, value) :: entries.filter (·.1 ≠ key)) := by
  obtain ⟨before, after, rfl, -⟩ := List.lookup_eq_some_iff.mp h
  rw [List.map_append, List.map_cons, List.nodup_middle, List.nodup_cons, ← List.map_append] at hnodup
  have hothers : (before ++ after).filter (·.1 ≠ key) = before ++ after := by
    rw [List.filter_eq_self]
    intro entry hentry
    have hne : entry.1 ≠ key := fun hsame => hnodup.1 (List.mem_map.mpr ⟨entry, hentry, hsame⟩)
    exact decide_eq_true hne
  have hleft : (before ++ (key, value) :: after).filter (·.1 ≠ key) = before ++ after := by
    rw [← hothers, List.filter_append, List.filter_cons_of_neg (by simp), List.filter_append]
  rw [hleft]
  exact List.perm_middle

end PrefetchInfo
