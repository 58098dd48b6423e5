import PrefetchInfo.Proofs.Device.Offers
import PrefetchInfo.Proofs.Device.Waning
import Mathlib.Data.List.TakeDrop
import Mathlib.Data.List.TakeWhile

/-!
# Finished lines that a line buffer keeps

A line buffer offers finished lines to the device behind it as soon as it is offered them, and offers
them once. If the device takes only some, the rest waits, as far as it fits, and is reported as taken
all the same. The next bytes pass it on before anything else; but if it was the last of the bytes there
are no next ones, and finished lines stay in the buffer. That is the only way in which they do:
`holds_no_line_iff` says so for bytes that are given to a line buffer until all are taken.
-/

namespace PrefetchInfo.LineBuffer

variable {σ : Type} {device : Device σ} {fit : σ → Prop} {content : σ → Bytes}
  {capacity : Nat} {data : Bytes} {b b' : Buffered σ}

/-! ### The finished lines of some bytes -/

/-- The finished lines at the start of some bytes. -/
def finishedLines (data : Bytes) : Bytes :=
  data.take (finished data)

/-- Bytes are their finished lines, of which the last byte is a line feed, and others without one. -/
lemma exists_finished_split (data : Bytes) :
    ∃ lines rest, data = lines ++ rest ∧ finished data = lines.length ∧ newline ∉ rest ∧
      (lines = [] ∨ lines.getLast? = some newline) := by
  set rest := data.reverse.takeWhile (· ≠ newline) with hrest
  set lines := data.reverse.dropWhile (· ≠ newline) with hlines
  have hsplit : data = lines.reverse ++ rest.reverse := by
    rw [← List.reverse_append, hrest, hlines, List.takeWhile_append_dropWhile, List.reverse_reverse]
  refine ⟨lines.reverse, rest.reverse, hsplit, ?_, ?_, ?_⟩
  · have hlength := congrArg List.length hsplit
    simp only [List.length_append, List.length_reverse] at hlength ⊢
    simp only [finished, ← hrest]
    omega
  · intro hmem
    simpa using List.mem_takeWhile_imp (List.mem_reverse.mp hmem)
  · have hhead := List.head?_dropWhile_not (· ≠ newline) data.reverse
    rw [← hlines] at hhead
    rw [List.getLast?_reverse]
    rcases hc : lines with _ | ⟨first, others⟩
    · exact .inl rfl
    · rw [hc] at hhead
      exact .inr (by simpa using hhead)

/-- The finished lines end before a place just if no line feed comes after it. -/
lemma finished_le_iff {n : Nat} : finished data ≤ n ↔ newline ∉ data.drop n := by
  obtain ⟨lines, rest, hdata, hlength, hrest, hlast⟩ := exists_finished_split data
  rw [hlength, hdata, List.drop_append]
  constructor
  · intro hle hmem
    rw [List.drop_of_length_le hle, List.nil_append] at hmem
    exact hrest (List.mem_of_mem_drop hmem)
  · intro hnot
    by_contra hlt
    have hne : lines.drop n ≠ [] := by simpa using hlt
    rcases hlast with rfl | hlast
    · simp at hlt
    · have hsome : (lines.drop n).getLast? = some newline := by
        rw [List.getLast?_drop, if_neg (by omega), hlast]
      exact hnot (List.mem_append_left _ (List.mem_of_getLast? hsome))

/-- Some bytes hold no line feed just if they have no finished lines. -/
lemma finished_eq_zero_iff : finished data = 0 ↔ newline ∉ data := by
  rw [← Nat.le_zero, finished_le_iff, List.drop_zero]

/-- Some bytes are nothing but finished lines just if the last of them is a line feed. -/
lemma finished_eq_length_iff (hdata : data ≠ []) :
    finished data = data.length ↔ data.getLast? = some newline := by
  have hpos := List.length_pos_iff.mpr hdata
  have hle := finished_le data
  have hiff : finished data ≤ data.length - 1 ↔ newline ∉ data.drop (data.length - 1) :=
    finished_le_iff
  rw [List.drop_length_sub_one hdata, List.mem_singleton] at hiff
  rw [List.getLast?_eq_some_getLast hdata, Option.some_inj]
  constructor
  · intro heq
    by_contra hne
    have hless := hiff.mpr fun h => hne h.symm
    omega
  · intro heq
    have hnot : ¬finished data ≤ data.length - 1 := fun hless => hiff.mp hless heq.symm
    omega

/-! ### What waits after a short write -/

/-- What waits after a short write fits into an empty buffer. -/
lemma leftover_fits (capacity : Nat) (data : Bytes) (lines taken : Nat) :
    (leftover capacity data lines taken).length ≤ capacity := by
  simp only [leftover]
  split
  · split
    · exact Nat.zero_le _
    · rw [List.length_drop]
      omega
  · split
    · rw [List.length_drop, List.length_take]
      omega
    · split
      · exact List.length_take_le _ _
      · exact (List.length_take_le' _ _).trans (List.length_take_le _ _)

/-- What a buffer holds back is settled if it has no finished line in it, or nothing but finished
lines. -/
def Settled (b : Buffered σ) : Prop :=
  newline ∉ b.pending ∨ b.pending.getLast? = some newline

/-- A device that is offered bytes behind all that is pending cuts them if they end with a line feed
and it takes only some, so many that the rest fits into the buffer. -/
def Cuts (capacity : Nat) (device : Device σ) (data : Bytes) (b : Buffered σ) : Prop :=
  data.getLast? = some newline ∧ ∃ c taken s, BlockBuffer.drain device b = (.ok (), c) ∧
    device.write data c.inner = (.ok taken, s) ∧ 0 < taken ∧ taken < data.length ∧
    data.length - taken ≤ capacity

/-- The finished lines at the start of some bytes are empty or end with a line feed. -/
lemma getLast?_take_finished (hlines : finished data ≠ 0) :
    (data.take (finished data)).getLast? = some newline := by
  obtain ⟨lines, rest, hdata, hlength, -, rfl | hlast⟩ := exists_finished_split data
  · exact absurd hlength hlines
  · rwa [hlength, hdata, List.take_left]

/-- What waits after a short write is settled. It is the end of the data and has a finished line in it
just if the data ends with a line feed and all that was not taken fits. -/
lemma leftover_settled {taken : Nat} (hlines : finished data ≠ 0) (htaken : taken ≤ finished data) :
    (newline ∉ leftover capacity data (finished data) taken ∨
      (leftover capacity data (finished data) taken).getLast? = some newline) ∧
    (taken + (leftover capacity data (finished data) taken).length = data.length ∧
        newline ∈ leftover capacity data (finished data) taken ↔
      finished data = data.length ∧ taken < data.length ∧ data.length - taken ≤ capacity) := by
  have hle := finished_le data
  by_cases hall : finished data ≤ taken
  · -- Only the unfinished line is left.
    have hnone : newline ∉ leftover capacity data (finished data) taken := fun hmem =>
      finished_le_iff.mp hall ((leftover_comes_next capacity data _ taken).subset hmem)
    refine ⟨.inl hnone, iff_of_false (fun h => hnone h.2) ?_⟩
    omega
  · by_cases hfits : finished data - taken ≤ capacity
    · -- All of the finished lines that are left wait.
      have hw : leftover capacity data (finished data) taken =
          (data.take (finished data)).drop taken := by
        simp only [leftover, if_neg hall, if_pos hfits]
      have hlast : ((data.take (finished data)).drop taken).getLast? = some newline := by
        rw [List.getLast?_drop, if_neg (by rw [List.length_take]; omega),
          getLast?_take_finished hlines]
      rw [hw]
      refine ⟨.inr hlast, ?_⟩
      rw [and_iff_left (List.mem_of_getLast? hlast), List.length_drop, List.length_take]
      omega
    · -- Not all of them fit, and those that do end before the data does.
      have hfit := leftover_fits capacity data (finished data) taken
      refine ⟨?_, iff_of_false (by omega) (by omega)⟩
      simp only [leftover, if_neg hall, if_neg hfits]
      split
      case isTrue hnone => exact .inl (finished_eq_zero_iff.mp hnone)
      case isFalse hsome => exact .inr (getLast?_take_finished hsome)

/-! ### Offers to a line buffer in front of a willing device -/

/-- Offering bytes without a line feed to a block buffer that holds none leaves none in it. -/
lemma newline_not_mem_blockWrite (h : device.Willing fit) (capacity : Nat) (hb : fit b.inner)
    (hpending : newline ∉ b.pending) (hdata : newline ∉ data) :
    newline ∉ (BlockBuffer.write capacity device data b).2.pending := by
  have hok := BlockBuffer.makeRoom_ok h capacity data.length hb
  have hroom : newline ∉ (BlockBuffer.makeRoom capacity device data.length b).2.pending := by
    rcases BlockBuffer.makeRoom_cases capacity device data.length b with ⟨_, hm⟩ | hm
    · rwa [hm]
    · have hdone := BlockBuffer.pending_of_drain_ok (Prod.ext (BlockBuffer.drain_ok h hb) rfl)
      rw [hm, hdone]
      exact List.not_mem_nil
  rcases BlockBuffer.write_cases capacity device data b with
    ⟨_, c, hm, hw⟩ | ⟨c, hm, _, hw⟩ | ⟨c, hm, hw⟩ <;> rw [hm] at hok hroom <;> rw [hw]
  · cases hok
  · exact hroom
  · exact List.not_mem_append hroom hdata

/-- Offering bytes without a line feed leaves no finished line waiting. -/
lemma newline_not_mem_writeUnfinished (h : device.Willing fit) (capacity : Nat) (hb : fit b.inner)
    (hsettled : Settled b) (hdata : newline ∉ data) :
    newline ∉ (writeUnfinished capacity device data b).2.pending := by
  by_cases hline : b.pending.getLast? = some newline
  · have hdrain := BlockBuffer.reaches_drain device b
    have hok := BlockBuffer.drain_ok h hb
    rcases hd : BlockBuffer.drain device b with ⟨failure | _, c⟩ <;> rw [hd] at hok hdrain
    · cases hok
    · have hnil := BlockBuffer.pending_of_drain_ok hd
      simp only [writeUnfinished, if_pos hline, hd]
      exact newline_not_mem_blockWrite h capacity (h.fit_of_reaches hdrain hb)
        (hnil ▸ List.not_mem_nil) hdata
  · simp only [writeUnfinished, if_neg hline]
    exact newline_not_mem_blockWrite h capacity hb (hsettled.resolve_right hline) hdata

/-- What offering finished lines can come to in front of a willing device: all that was pending passes,
and then the device is interrupted, or it takes something and leaves the rest as far as it fits. -/
lemma writeFinished_cases_of_willing (h : device.Willing fit) (capacity : Nat) (hb : fit b.inner)
    (hlines : finished data ≠ 0) :
    ∃ c, BlockBuffer.drain device b = (.ok (), c) ∧
      ((∃ failure s, device.write (data.take (finished data)) c.inner = (.error failure, s) ∧
        writeFinished capacity device data (finished data) b = (.error failure, ⟨[], s⟩)) ∨
      ∃ taken s, device.write (data.take (finished data)) c.inner = (.ok taken, s) ∧ 0 < taken ∧
        taken ≤ finished data ∧ writeFinished capacity device data (finished data) b =
          (.ok (taken + (leftover capacity data (finished data) taken).length),
            ⟨leftover capacity data (finished data) taken, s⟩)) := by
  have hdrain := BlockBuffer.reaches_drain device b
  have hok := BlockBuffer.drain_ok h hb
  rcases hd : BlockBuffer.drain device b with ⟨failure | _, c⟩ <;> rw [hd] at hok hdrain
  · cases hok
  · have hnil : c.pending = [] := BlockBuffer.pending_of_drain_ok hd
    refine ⟨c, rfl, ?_⟩
    rcases hw : device.write (data.take (finished data)) c.inner with ⟨failure | taken, s⟩
    · exact .inl ⟨failure, s, rfl, by simp only [writeFinished, hd, hw, hnil]⟩
    · have hpos := h.pos_of_ok (h.fit_of_reaches hdrain hb) (take_finished_ne_nil hlines) hw
      have hle := device.taken_le hw
      rw [List.length_take] at hle
      refine .inr ⟨taken, s, rfl, hpos, by omega, ?_⟩
      have hfit := leftover_fits capacity data (finished data) taken
      simp only [writeFinished, hd, hw, if_neg hpos.ne', hnil, List.length_nil, Nat.sub_zero,
        List.nil_append, List.take_of_length_le hfit]

/-- Offering bytes to a line buffer leaves what it holds back settled, however it ends. -/
lemma settled_write (h : device.Willing fit) (capacity : Nat) (data : Bytes) (hb : fit b.inner)
    (hsettled : Settled b) : Settled (write capacity device data b).2 := by
  by_cases hlines : finished data = 0
  · rw [write_of_unfinished hlines]
    exact .inl (newline_not_mem_writeUnfinished h capacity hb hsettled
      (finished_eq_zero_iff.mp hlines))
  · rw [write_of_finished hlines]
    obtain ⟨c, _, ⟨_, _, _, hw⟩ | ⟨taken, s, _, _, hle, hw⟩⟩ :=
      writeFinished_cases_of_willing h capacity hb hlines
    · rw [hw]
      exact .inl List.not_mem_nil
    · rw [hw]
      exact (leftover_settled hlines hle).1

/-- Data that is cut is nothing but finished lines. -/
lemma finished_of_cuts (hcut : Cuts capacity device data b) :
    finished data ≠ 0 ∧ finished data = data.length := by
  have hmem := List.mem_of_getLast? hcut.1
  exact ⟨fun hzero => finished_eq_zero_iff.mp hzero hmem,
    (finished_eq_length_iff (List.ne_nil_of_mem hmem)).mpr hcut.1⟩

/-- An offer is cut just if all of it is reported as taken and finished lines of it wait. -/
lemma cuts_iff_of_write_ok (h : device.Willing fit) (hb : fit b.inner) (hsettled : Settled b)
    {n : Nat} (hok : write capacity device data b = (.ok n, b')) :
    Cuts capacity device data b ↔ n = data.length ∧ newline ∈ b'.pending := by
  by_cases hlines : finished data = 0
  · rw [write_of_unfinished hlines] at hok
    have hnone := newline_not_mem_writeUnfinished h capacity hb hsettled
      (finished_eq_zero_iff.mp hlines)
    rw [hok] at hnone
    exact iff_of_false (fun hcut => (finished_of_cuts hcut).1 hlines) fun hheld => hnone hheld.2
  · rw [write_of_finished hlines] at hok
    have hne : data ≠ [] := fun hnil => hlines (by rw [hnil]; rfl)
    obtain ⟨c, hd, ⟨_, _, _, hw⟩ | ⟨taken, s, hi, hpos, hle, hw⟩⟩ :=
      writeFinished_cases_of_willing h capacity hb hlines <;> rw [hw, Prod.mk.injEq] at hok <;>
      obtain ⟨hr, rfl⟩ := hok
    · cases hr
    · rw [← Except.ok.inj hr, (leftover_settled hlines hle).2, finished_eq_length_iff hne]
      constructor
      · rintro ⟨hlast, c', taken', s', hd', hi', _, hless, hfits⟩
        rw [(finished_eq_length_iff hne).mpr hlast, List.take_length] at hi
        obtain rfl := (Prod.mk.inj (hd.symm.trans hd')).2
        obtain rfl := Except.ok.inj (Prod.mk.inj (hi.symm.trans hi')).1
        exact ⟨hlast, hless, hfits⟩
      · rintro ⟨hlast, hless, hfits⟩
        rw [(finished_eq_length_iff hne).mpr hlast, List.take_length] at hi
        exact ⟨hlast, c, taken, s, hd, hi, hpos, hless, hfits⟩

/-- An offer that fails is not cut. -/
lemma not_cuts_of_write_error (h : device.Willing fit) (hb : fit b.inner) {failure : Failure}
    (herror : write capacity device data b = (.error failure, b')) :
    ¬Cuts capacity device data b := by
  intro hcut
  obtain ⟨hlines, hall⟩ := finished_of_cuts hcut
  obtain ⟨_, c', taken', s', hd', hi', _⟩ := hcut
  rw [write_of_finished hlines] at herror
  obtain ⟨c, hd, ⟨_, s, hi, _⟩ | ⟨_, _, _, _, _, hw⟩⟩ :=
    writeFinished_cases_of_willing h capacity hb hlines
  · rw [hall, List.take_length] at hi
    obtain rfl := (Prod.mk.inj (hd.symm.trans hd')).2
    cases (Prod.mk.inj (hi.symm.trans hi')).1
  · rw [hw] at herror
    cases (Prod.mk.inj herror).1

/-! ### Giving bytes until all are taken -/

/-- **Finished lines stay in a line buffer just if an offer was cut.**  While a line buffer in front of a
willing device that wanes is given bytes until all are taken, what it holds back is settled; at the end
no finished line is held back just if none of the offers on the way was cut. -/
theorem holds_no_line_iff (h : device.Willing fit) (hwanes : device.Wanes fit) (capacity : Nat)
    (data : Bytes) (hb : fit b.inner) (hsettled : Settled b) :
    Settled ((LineBuffer.device capacity device).writeAll data b).2 ∧
    (data ≠ [] → (newline ∉ ((LineBuffer.device capacity device).writeAll data b).2.pending ↔
      ∀ rest t, (LineBuffer.device capacity device).Offers data b rest t →
        ¬Cuts capacity device rest t)) := by
  have hdevice := willing_device h hwanes capacity
  induction data, b using Device.writeAll.induct (LineBuffer.device capacity device) with
  | case1 b =>
    rw [Device.writeAll_nil]
    exact ⟨hsettled, fun hne => absurd rfl hne⟩
  | case2 data b hdata c hw => exact absurd (hdevice.pos_of_ok hb hdata hw) (Nat.lt_irrefl 0)
  | case3 data b hdata n c hw ih =>
    have hc : Settled c := by
      have hnext := settled_write h capacity data hb hsettled
      rwa [show write capacity device data b = _ from hw] at hnext
    have hcut := cuts_iff_of_write_ok h hb hsettled hw
    rw [Device.writeAll_of_succ hdata hw]
    obtain ⟨hrest, hiff⟩ := ih (hdevice.stays (.of_write hw) hb) hc
    refine ⟨hrest, fun _ => ?_⟩
    rw [Device.forall_offers_of_succ hdata hw]
    by_cases hall : data.drop (n + 1) = []
    · -- All was taken at once, so that there are no further offers.
      have hlength : n + 1 = data.length :=
        Nat.le_antisymm ((LineBuffer.device capacity device).taken_le hw)
          (List.drop_eq_nil_iff.mp hall)
      rw [hall, Device.writeAll_nil, hcut, and_iff_right hlength]
      refine ⟨fun hnone => ⟨hnone, fun rest t hoffer => ?_⟩, fun hnone => hnone.1⟩
      cases hoffer <;> contradiction
    · rw [hiff hall, and_iff_right]
      intro hcuts
      exact hall (List.drop_eq_nil_iff.mpr (hcut.mp hcuts).1.ge)
  | case4 data b hdata failure c hw hr ih =>
    have hc : Settled c := by
      have hnext := settled_write h capacity data hb hsettled
      rwa [show write capacity device data b = _ from hw] at hnext
    rw [Device.writeAll_of_retries hdata hw hr]
    obtain ⟨hrest, hiff⟩ := ih (hdevice.stays (.of_write hw) hb) hc
    refine ⟨hrest, fun hne => ?_⟩
    rw [hiff hne, Device.forall_offers_of_retries hdata hw hr,
      and_iff_right (not_cuts_of_write_error h hb hw)]
  | case5 data b hdata failure c hw hr => exact absurd (hdevice.retries_of_error hb hdata hw) hr

/-! ### Finished lines that have arrived -/

/-- Of what a line buffer was given behind the bytes `start`, the finished lines have arrived just if
none of them is held back. -/
lemma finishedLines_prefix_iff {start : Bytes} (hstart : start <+: content b.inner)
    (hgiven : b.given content = start ++ data) :
    start ++ finishedLines data <+: content b.inner ↔ newline ∉ b.pending := by
  obtain ⟨arrived, harrived⟩ := hstart
  rw [Buffered.given, ← harrived, List.append_assoc, List.append_cancel_left_eq] at hgiven
  have htake : arrived = data.take arrived.length := by rw [← hgiven, List.take_left]
  have hdrop : b.pending = data.drop arrived.length := by rw [← hgiven, List.drop_left]
  have hle : arrived.length ≤ data.length := by
    rw [← hgiven, List.length_append]
    exact Nat.le_add_right _ _
  rw [← harrived, List.prefix_append_right_inj, hdrop, ← finished_le_iff, finishedLines]
  constructor
  · intro hfirst
    have hlength := hfirst.length_le
    rwa [List.length_take, Nat.min_eq_left (finished_le data)] at hlength
  · intro hbefore
    rw [htake]
    exact List.take_prefix_take_left hbefore

/-- Operations on a line buffer are operations on the device behind it. -/
lemma reaches_inner (h : (LineBuffer.device capacity device).Reaches b b') :
    device.Reaches b.inner b'.inner :=
  h.keeps (P := fun c => device.Reaches b.inner c.inner)
    (fun hstep hreach => hreach.trans (reaches_of_step hstep)) (.refl device _)

/-- An offer passes on all that is held back if that ends with a finished line. -/
lemma given_prefix_write (h : device.DeliversWhile fit content) (hwilling : device.Willing fit)
    (capacity : Nat) (data : Bytes) (hb : fit b.inner)
    (hline : b.pending.getLast? = some newline) :
    b.given content <+: content (write capacity device data b).2.inner := by
  have hdrain := BlockBuffer.reaches_drain device b
  have hok := BlockBuffer.drain_ok hwilling hb
  rcases hd : BlockBuffer.drain device b with ⟨failure | _, c⟩ <;> rw [hd] at hok hdrain
  · cases hok
  · have hc := h.fit_of_reaches hdrain hb
    have harrived : content c.inner = b.given content := BlockBuffer.content_of_drain_ok h hb hd
    rw [← harrived]
    refine h.prefix_of_reaches ?_ hc
    by_cases hlines : finished data = 0
    · rw [write_of_unfinished hlines]
      simp only [writeUnfinished, if_pos hline, hd]
      exact BlockBuffer.reaches_write capacity device data c
    · rw [write_of_finished hlines]
      obtain ⟨c', hd', ⟨_, s, hi, hw⟩ | ⟨_, s, hi, _, _, hw⟩⟩ :=
        writeFinished_cases_of_willing hwilling capacity hb hlines <;>
        obtain rfl := (Prod.mk.inj (hd.symm.trans hd')).2 <;> rw [hw]
      · exact .write hi
      · exact .write hi

/-- When more bytes are given to a line buffer, the finished lines of all that it was given before
arrive. -/
lemma finishedLines_prefix_writeAll (h : device.DeliversWhile fit content)
    (hwilling : device.Willing fit) (capacity : Nat) {earlier start : Bytes} (hdata : data ≠ [])
    (hb : fit b.inner) (hsettled : Settled b) (hstart : start <+: content b.inner)
    (hgiven : b.given content = start ++ earlier) :
    start ++ finishedLines earlier <+:
      content ((LineBuffer.device capacity device).writeAll data b).2.inner := by
  rcases hsettled with hnone | hline
  · have hreach := reaches_inner (.writeAll (LineBuffer.device capacity device) data b)
    exact ((finishedLines_prefix_iff hstart hgiven).mpr hnone).trans (h.prefix_of_reaches hreach hb)
  · have hfirst := reaches_inner (.write (Prod.eta ((LineBuffer.device capacity device).write data b)))
    have hreach := reaches_inner
      (Device.reaches_writeAll_of_write (LineBuffer.device capacity device) hdata b)
    have hbefore : start ++ finishedLines earlier <+: b.given content := by
      rw [hgiven, List.prefix_append_right_inj]
      exact List.take_prefix _ _
    have hpassed := given_prefix_write h hwilling capacity data hb hline
    exact (hbefore.trans hpassed).trans (h.prefix_of_reaches hreach (h.fit_of_reaches hfirst hb))

end PrefetchInfo.LineBuffer
