import PrefetchInfo.Proofs.Device.LineBuffer
import PrefetchInfo.Proofs.Device.Calls
import PrefetchInfo.Proofs.Device.Sink

/-!
# Buffers in front of a willing device

A buffer does several operations on the device behind it before it answers, and answers with the
failure of the last. Whether that failure is worth another attempt is judged by the patience from before
the first. So a buffer in front of a willing device is willing itself if the device wanes: if no
operation makes it more patient. Then whatever is called on the buffer, it takes all it is given.
-/

namespace PrefetchInfo

variable {σ : Type} {device : Device σ} {fit : σ → Prop} {content : σ → Bytes}

namespace Device

/-! ### Patience that is not regained -/

/-- In the states `fit`, no operation makes a device more patient. -/
def Wanes (device : Device σ) (fit : σ → Prop) : Prop :=
  ∀ s s', device.Step s s' → fit s → device.patience s' ≤ device.patience s

/-- A failure worth another attempt is worth one also to who began when the device was more patient. -/
lemma retries_of_patience_le {failure : Failure} {before s s' : σ}
    (hle : device.patience s ≤ device.patience before)
    (hr : device.retries failure s s' = true) : device.retries failure before s' = true := by
  simp only [retries, Bool.and_eq_true, decide_eq_true_eq] at hr ⊢
  exact ⟨hr.1, Nat.lt_of_lt_of_le hr.2 hle⟩

/-- Operations do not make a willing device that wanes more patient. -/
lemma Wanes.patience_le (hwanes : device.Wanes fit) (h : device.Willing fit) {s s' : σ}
    (hr : device.Reaches s s') (hs : fit s) : device.patience s' ≤ device.patience s := by
  have hkeeps : fit s' ∧ device.patience s' ≤ device.patience s :=
    hr.keeps (P := fun t => fit t ∧ device.patience t ≤ device.patience s)
      (fun hstep ht => ⟨h.stays hstep ht.1, Nat.le_trans (hwanes _ _ hstep ht.1) ht.2⟩)
      ⟨hs, Nat.le_refl _⟩
  exact hkeeps.2

/-- A device that wanes on a part wanes on the whole. -/
lemma Wanes.within {τ : Type} {part : Part τ σ} (hwanes : device.Wanes fit) :
    (device.within part).Wanes (fun t => fit (part.get t)) :=
  fun _ _ hstep ht => hwanes _ _ (step_within hstep).1 ht

/-- The view of a device that delivers only grows. -/
lemma DeliversWhile.prefix_of_reaches (h : device.DeliversWhile fit content) {s s' : σ}
    (hr : device.Reaches s s') (hs : fit s) : content s <+: content s' := by
  have hstep : ∀ {t t' : σ}, device.Step t t' → fit t → content t <+: content t' := by
    intro t t' hstep ht
    cases hstep with
    | write data =>
      rcases hw : device.write data t with ⟨failure | n, t'⟩
      · exact h.write_error ht hw ▸ List.prefix_rfl
      · exact h.write_ok ht hw ▸ List.prefix_append _ _
    | flush => exact h.flush ht ▸ List.prefix_rfl
  have hkeeps : fit s' ∧ content s <+: content s' :=
    hr.keeps (P := fun t => fit t ∧ content s <+: content t)
      (fun ht hP => ⟨h.stays ht hP.1, hP.2.trans (hstep ht hP.1)⟩) ⟨hs, List.prefix_rfl⟩
  exact hkeeps.2

/-! ### Several pieces -/

/-- Calls are made one after the other, the later ones where the earlier ones ended. -/
lemma run_append (device : Device σ) (calls more : List Call) (s : σ) :
    device.run (calls ++ more) s =
      ((device.run calls s).1 ++ (device.run more (device.run calls s).2).1,
        (device.run more (device.run calls s).2).2) := by
  induction calls generalizing s with
  | nil => rfl
  | cons call calls ih => simp only [List.cons_append, run, ih]

/-- A willing device takes all of the pieces it is given. -/
lemma Willing.run_writeAll_ok (h : device.Willing fit) (pieces : List Bytes) {s : σ} (hs : fit s) :
    (device.run (pieces.map .writeAll) s).1 = pieces.map fun piece => .ok piece.length := by
  induction pieces generalizing s with
  | nil => rfl
  | cons piece pieces ih =>
    have hlater := ih (h.fit_of_reaches (.writeAll device piece s) hs)
    simp only [List.map_cons, run, perform, h.writeAll_ok piece hs, Except.map, hlater]

/-- What is written by pieces that are all taken is the pieces. -/
lemma written_writeAll (pieces : List Bytes) :
    written (pieces.map .writeAll) (pieces.map List.length) = pieces.flatten := by
  have hsame : List.zipWith Call.taken (pieces.map .writeAll) (pieces.map List.length) = pieces := by
    rw [List.zipWith_map, List.zipWith_self]
    exact List.map_id pieces
  rw [written, hsame]

/-- After pieces were written to a device that delivers and takes them all, the view has grown by the
pieces. -/
lemma DeliversWhile.content_run_writeAll (h : device.DeliversWhile fit content)
    (hwilling : device.Willing fit) (pieces : List Bytes) {s : σ} (hs : fit s) :
    content (device.run (pieces.map .writeAll) s).2 = content s ++ pieces.flatten := by
  have hok : (device.run (pieces.map .writeAll) s).1 = (pieces.map List.length).map .ok := by
    rw [hwilling.run_writeAll_ok pieces hs, List.map_map]
    rfl
  rw [h.content_run_ok hs hok, written_writeAll]

/-- The first offer comes before all that follow. -/
lemma reaches_writeAll_of_write (device : Device σ) {data : Bytes} (hdata : data ≠ []) (s : σ) :
    device.Reaches (device.write data s).2 (device.writeAll data s).2 := by
  rcases hw : device.write data s with ⟨failure | n, s'⟩
  · by_cases hr : device.retries failure s s' = true
    · rw [writeAll_of_retries hdata hw hr]
      exact .writeAll device data s'
    · rw [writeAll_of_error hdata hw hr]
      exact .refl device s'
  · rcases n with _ | n
    · rw [writeAll_of_zero hdata hw]
      exact .refl device s'
    · rw [writeAll_of_succ hdata hw]
      exact .writeAll device _ s'

end Device

/-! ### Block buffers -/

namespace BlockBuffer

/-- **A block buffer in front of a willing device that wanes is willing.** -/
theorem willing_device (h : device.Willing fit) (hwanes : device.Wanes fit) (capacity : Nat) :
    (BlockBuffer.device capacity device).Willing (fun b => fit b.inner) where
  stays hstep hb := h.fit_of_reaches (reaches_of_step hstep) hb
  pos_of_ok {data b n b'} hb hdata hok := by
    change write capacity device data b = (.ok n, b') at hok
    have hroom := reaches_makeRoom capacity device data.length b
    rcases write_cases capacity device data b with
      ⟨_, c, hm, hw⟩ | ⟨c, hm, _, hw⟩ | ⟨c, hm, hw⟩ <;> rw [hm] at hroom <;>
      rw [hw, Prod.mk.injEq] at hok
    · cases hok.1
    · exact h.pos_of_ok (h.fit_of_reaches hroom hb) hdata (Prod.ext hok.1 rfl)
    · exact Except.ok.inj hok.1 ▸ List.length_pos_iff.mpr hdata
  retries_of_error {data b failure b'} hb hdata herror := by
    change write capacity device data b = (.error failure, b') at herror
    have hroom := reaches_makeRoom capacity device data.length b
    have hok := makeRoom_ok h capacity data.length hb
    rcases write_cases capacity device data b with
      ⟨_, c, hm, hw⟩ | ⟨c, hm, _, hw⟩ | ⟨c, hm, hw⟩ <;> rw [hm] at hroom hok <;>
      rw [hw, Prod.mk.injEq] at herror <;> obtain ⟨hr, rfl⟩ := herror
    · cases hok
    · have hretries := h.retries_of_error (h.fit_of_reaches hroom hb) hdata (Prod.ext hr rfl)
      exact Device.retries_of_patience_le (hwanes.patience_le h hroom hb) hretries
    · cases hr

/-- A block buffer wanes with the device behind it. -/
lemma wanes_device (h : device.Willing fit) (hwanes : device.Wanes fit) (capacity : Nat) :
    (BlockBuffer.device capacity device).Wanes (fun b => fit b.inner) :=
  fun _ _ hstep hb => hwanes.patience_le h (reaches_of_step hstep) hb

end BlockBuffer

/-! ### Line buffers -/

namespace LineBuffer

variable {capacity : Nat} {data : Bytes} {b b' : Buffered σ}

/-- In front of a willing device, offering bytes without a line feed is offering them to a block buffer,
after some operations on the device. -/
lemma exists_writeUnfinished_eq (h : device.Willing fit) (capacity : Nat) (data : Bytes)
    (hb : fit b.inner) :
    ∃ c, device.Reaches b.inner c.inner ∧
      writeUnfinished capacity device data b = BlockBuffer.write capacity device data c := by
  have hdrain := BlockBuffer.reaches_drain device b
  have hok := BlockBuffer.drain_ok h hb
  rcases writeUnfinished_cases capacity device data b with ⟨_, c, hd, _⟩ | ⟨c, rfl | hd, hw⟩
  · rw [hd] at hok
    cases hok
  · exact ⟨c, .refl device _, hw⟩
  · rw [hd] at hdrain
    exact ⟨c, hdrain, hw⟩

/-- The finished lines of bytes that have some are not nothing. -/
lemma take_finished_ne_nil (hlines : finished data ≠ 0) : data.take (finished data) ≠ [] := by
  have hle := finished_le data
  rw [← List.length_pos_iff, List.length_take]
  omega

/-- In front of a willing device, finished lines that a line buffer reports as taken are not none. -/
lemma writeFinished_pos (h : device.Willing fit) (hb : fit b.inner) (hlines : finished data ≠ 0)
    {n : Nat} (hok : writeFinished capacity device data (finished data) b = (.ok n, b')) :
    0 < n := by
  have hdrain := BlockBuffer.reaches_drain device b
  rcases writeFinished_cases capacity device data (finished data) b with
    ⟨_, c, _, hw⟩ | ⟨_, c, s, _, _, hw⟩ | ⟨taken, next, c, s, hd, hi, _, hw⟩ <;>
    rw [hw, Prod.mk.injEq] at hok
  · cases hok.1
  · cases hok.1
  · rw [hd] at hdrain
    have hpos := h.pos_of_ok (h.fit_of_reaches hdrain hb) (take_finished_ne_nil hlines) hi
    rw [← Except.ok.inj hok.1]
    omega

/-- In front of a willing device that wanes, finished lines that a line buffer reports as failed are
worth another attempt. -/
lemma writeFinished_retries (h : device.Willing fit) (hwanes : device.Wanes fit) (hb : fit b.inner)
    (hlines : finished data ≠ 0) {failure : Failure}
    (herror : writeFinished capacity device data (finished data) b = (.error failure, b')) :
    device.retries failure b.inner b'.inner = true := by
  have hdrain := BlockBuffer.reaches_drain device b
  have hdone := BlockBuffer.drain_ok h hb
  rcases writeFinished_cases capacity device data (finished data) b with
    ⟨_, c, hd, hw⟩ | ⟨_, c, s, hd, hi, hw⟩ | ⟨_, _, _, _, _, _, _, hw⟩ <;>
    rw [hw, Prod.mk.injEq] at herror <;> obtain ⟨hr, rfl⟩ := herror
  · simp [hd] at hdone
  · obtain rfl := Except.error.inj hr
    rw [hd] at hdrain
    have hretries :=
      h.retries_of_error (h.fit_of_reaches hdrain hb) (take_finished_ne_nil hlines) hi
    exact Device.retries_of_patience_le (hwanes.patience_le h hdrain hb) hretries
  · cases hr

/-- **A line buffer in front of a willing device that wanes is willing.** -/
theorem willing_device (h : device.Willing fit) (hwanes : device.Wanes fit) (capacity : Nat) :
    (LineBuffer.device capacity device).Willing (fun b => fit b.inner) where
  stays hstep hb := h.fit_of_reaches (reaches_of_step hstep) hb
  pos_of_ok {data b n b'} hb hdata hok := by
    change write capacity device data b = (.ok n, b') at hok
    by_cases hlines : finished data = 0
    · obtain ⟨c, hreach, hc⟩ := exists_writeUnfinished_eq h capacity data hb
      rw [write_of_unfinished hlines, hc] at hok
      exact (BlockBuffer.willing_device h hwanes capacity).pos_of_ok (h.fit_of_reaches hreach hb)
        hdata hok
    · rw [write_of_finished hlines] at hok
      exact writeFinished_pos h hb hlines hok
  retries_of_error {data b failure b'} hb hdata herror := by
    change write capacity device data b = (.error failure, b') at herror
    by_cases hlines : finished data = 0
    · obtain ⟨c, hreach, hc⟩ := exists_writeUnfinished_eq h capacity data hb
      rw [write_of_unfinished hlines, hc] at herror
      have hretries := (BlockBuffer.willing_device h hwanes capacity).retries_of_error
        (h.fit_of_reaches hreach hb) hdata herror
      exact Device.retries_of_patience_le (hwanes.patience_le h hreach hb) hretries
    · rw [write_of_finished hlines] at herror
      exact writeFinished_retries h hwanes hb hlines herror

/-- A line buffer wanes with the device behind it. -/
lemma wanes_device (h : device.Willing fit) (hwanes : device.Wanes fit) (capacity : Nat) :
    (LineBuffer.device capacity device).Wanes (fun b => fit b.inner) :=
  fun _ _ hstep hb => hwanes.patience_le h (reaches_of_step hstep) hb

end LineBuffer

/-! ### Sinks -/

namespace Sink

/-- A sink that accepts more has no more room. -/
lemma room_getD_append_le (sink : Sink) (more : Bytes) :
    ({ sink with accepted := sink.accepted ++ more }).room.getD 0 ≤ sink.room.getD 0 := by
  rcases hl : sink.limit with _ | limit
  · simp only [room, hl, Option.map_none, Option.getD_none, Nat.le_refl]
  · simp only [room, hl, Option.map_some, Option.getD_some, List.length_append]
    omega

/-- **A sink wanes.**  It can be interrupted no more often after an operation than before. -/
theorem wanes (fit : Sink → Prop) : Sink.device.Wanes fit := by
  intro sink sink' hstep _
  change patience sink' ≤ patience sink
  cases hstep with
  | write data =>
    change patience (sink.write data).2 ≤ _
    rcases write_cases data sink with ⟨_, hw⟩ | ⟨_, _, _, hw⟩ | hw
    · rw [hw]
      simp only [patience, room]
      omega
    · exact Nat.le_of_eq (by rw [hw])
    · rw [hw]
      have hroom := room_getD_append_le sink (data.take (sink.portion data.length))
      simp only [patience]
      omega
  | flush =>
    change patience sink.flush.2 ≤ _
    unfold flush
    split
    · simp only [patience, room]
      omega
    · split <;> exact Nat.le_refl _

end Sink

end PrefetchInfo
