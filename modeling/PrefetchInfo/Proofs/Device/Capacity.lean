import PrefetchInfo.Proofs.Output.Steady

/-!
# Devices of limited capacity

A device fills up if it takes what it is offered, in whatever portions and with whatever interruptions on
the way, until it has no more room, and refuses from then on. Of some bytes that it is given exactly those
arrive for which there is room, and giving them succeeds just if these are all of them. A sink fills up,
whatever its portions, its interruptions and its capacity.
-/

namespace PrefetchInfo

namespace Device

variable {σ : Type} {device : Device σ} {fit : σ → Prop} {content : σ → Bytes}
  {capacity : Option Nat} {refusal : Option Failure} {arrived data first rest : Bytes}

/-! ### What fits -/

/-- The first of some bytes, as many as there is room for behind what has arrived, within a capacity if
there is one. -/
def fitting (capacity : Option Nat) (arrived data : Bytes) : Bytes :=
  match capacity with
  | none => data
  | some capacity => data.take (capacity - arrived.length)

/-- What fits is a first part. -/
lemma prefix_fitting (capacity : Option Nat) (arrived data : Bytes) :
    fitting capacity arrived data <+: data := by
  cases capacity with
  | none => exact List.prefix_rfl
  | some capacity => exact List.take_prefix _ _

/-- Behind a first part that fits, there is room for what fits of the rest. -/
lemma fitting_append (h : first <+: fitting capacity arrived (first ++ rest)) :
    fitting capacity arrived (first ++ rest) = first ++ fitting capacity (arrived ++ first) rest := by
  cases capacity with
  | none => rfl
  | some capacity =>
    have hroom : first.length ≤ capacity - arrived.length := by
      refine Nat.le_trans h.length_le ?_
      rw [fitting, List.length_take]
      exact Nat.min_le_left _ _
    simp only [fitting]
    rw [List.take_append, List.take_of_length_le hroom, List.length_append, Nat.sub_add_eq]

/-- What fits by itself fits as a first part. -/
lemma prefix_fitting_append (h : fitting capacity arrived first = first) :
    first <+: fitting capacity arrived (first ++ rest) := by
  cases capacity with
  | none => exact List.prefix_append _ _
  | some capacity =>
    simp only [fitting] at h ⊢
    have hcut := (List.prefix_append first rest).take (capacity - arrived.length)
    rwa [h] at hcut

/-- Behind a first part that does not fit, nothing of the rest does. -/
lemma fitting_append_of_cut (h : fitting capacity arrived first ≠ first) :
    fitting capacity arrived (first ++ rest) = fitting capacity arrived first := by
  cases capacity with
  | none => exact absurd rfl h
  | some capacity =>
    simp only [fitting] at h ⊢
    have hlt : capacity - arrived.length < first.length := by
      by_contra hle
      exact h (List.take_of_length_le (Nat.le_of_not_lt hle))
    exact List.take_append_of_le_length (Nat.le_of_lt hlt)

/-! ### Filling up -/

/-- In the states `fit`, which no operation leads out of, a device delivers to the view `content` until
its capacity is reached, and refuses from then on: with the failure `refusal`, or, if there is none, by
taking nothing. -/
structure FillsUp (device : Device σ) (fit : σ → Prop) (content : σ → Bytes) (capacity : Option Nat)
    (refusal : Option Failure) : Prop extends device.DeliversWhile fit content where
  /-- There is room for what is taken. -/
  fits : ∀ {data s n s'}, fit s → device.write data s = (.ok n, s') →
    data.take n <+: fitting capacity (content s) data
  /-- Nothing is taken only if there is no room, and no failure to refuse with. -/
  full_of_zero : ∀ {data s s'}, fit s → data ≠ [] → device.write data s = (.ok 0, s') →
    fitting capacity (content s) data = [] ∧ refusal = none
  /-- A write fails for good only if there is no room, and only with one failure. -/
  full_of_error : ∀ {data s failure s'}, fit s → data ≠ [] →
    device.write data s = (.error failure, s') → ¬device.retries failure s s' = true →
    fitting capacity (content s) data = [] ∧ refusal = some failure

/-- **A device that fills up takes what fits.**  Of bytes that it is given exactly those arrive for which
there is room; if these are all of them, it is done, and else it has refused. -/
theorem FillsUp.writeAll (h : device.FillsUp fit content capacity refusal) (data : Bytes) {s : σ}
    (hs : fit s) :
    content (device.writeAll data s).2 = content s ++ fitting capacity (content s) data ∧
      (device.writeAll data s).1 =
        if fitting capacity (content s) data = data then .ok ()
        else .error (refusal.getD nothingTaken) := by
  induction data, s using Device.writeAll.induct device with
  | case1 s =>
    have hnil := List.prefix_nil.mp (prefix_fitting capacity (content s) [])
    rw [writeAll_nil, hnil, if_pos rfl, List.append_nil]
    exact ⟨rfl, rfl⟩
  | case2 data s hdata s' hw =>
    obtain ⟨hfull, hnone⟩ := h.full_of_zero hs hdata hw
    have hcontent := h.write_ok hs hw
    rw [writeAll_of_zero hdata hw, hfull, if_neg (Ne.symm hdata), hnone]
    exact ⟨hcontent, rfl⟩
  | case3 data s hdata n s' hw ih =>
    obtain ⟨hcontent, hresult⟩ := ih (h.fit_of_reaches (.write hw) hs)
    have hsplit : fitting capacity (content s) data =
        data.take (n + 1) ++ fitting capacity (content s') (data.drop (n + 1)) := by
      have htaken := h.fits hs hw
      rw [h.write_ok hs hw, ← fitting_append] <;> rw [List.take_append_drop]
      exact htaken
    have hall : fitting capacity (content s) data = data ↔
        fitting capacity (content s') (data.drop (n + 1)) = data.drop (n + 1) := by
      nth_rewrite 2 [← List.take_append_drop (n + 1) data]
      rw [hsplit, List.append_right_inj]
    rw [writeAll_of_succ hdata hw]
    refine ⟨?_, ?_⟩
    · rw [hcontent, hsplit, h.write_ok hs hw, List.append_assoc]
    · simp only [hresult, hall]
  | case4 data s hdata failure s' hw hr ih =>
    rw [writeAll_of_retries hdata hw hr, ← h.write_error hs hw]
    exact ih (h.fit_of_reaches (.write hw) hs)
  | case5 data s hdata failure s' hw hr =>
    obtain ⟨hfull, hrefusal⟩ := h.full_of_error hs hdata hw hr
    rw [writeAll_of_error hdata hw hr, hfull, if_neg (Ne.symm hdata), h.write_error hs hw, hrefusal,
      List.append_nil]
    exact ⟨rfl, rfl⟩

end Device

/-! ### Sinks -/

namespace Sink

variable {capacity : Option Nat} {refusal : Option Failure}

/-- A sink of a certain capacity that accepts something of what it is offered while it has room, and
refuses in a certain way, but not with an interruption. -/
structure Bounded (capacity : Option Nat) (refusal : Option Failure) (sink : Sink) : Prop where
  /-- It accepts something in one write. -/
  portions : sink.chunk ≠ some 0
  /-- It has this capacity. -/
  bound : sink.limit = capacity
  /-- It refuses in this way. -/
  refuses : sink.refusal = refusal
  /-- A refusal is not worth another attempt. -/
  final : ∀ failure, refusal = some failure → failure.isInterruption = false

/-- What a sink has room for is what fits into its capacity behind what it has accepted. -/
lemma take_room (sink : Sink) (data : Bytes) :
    data.take (sink.room.getD data.length) = Device.fitting sink.limit sink.accepted data := by
  rcases hlimit : sink.limit with _ | limit
  · rw [room, hlimit]
    exact List.take_length
  · rw [room, hlimit]
    rfl

/-- A write that succeeds accepts a portion. A sink that is full then has no failure to refuse with. -/
lemma of_write_ok {sink sink' : Sink} {data : Bytes} {count : Nat}
    (h : sink.write data = (.ok count, sink')) :
    count = sink.portion data.length ∧ (sink.room = some 0 → data ≠ [] → sink.refusal = none) := by
  unfold write at h
  split at h
  · cases (Prod.mk.inj h).1
  · split at h
    · split at h
      · cases (Prod.mk.inj h).1
      · rename_i hroom
        exact ⟨(Except.ok.inj (Prod.mk.inj h).1).symm, fun hfull hdata => absurd ⟨hfull, hdata⟩ hroom⟩
    · rename_i hrefusal
      exact ⟨(Except.ok.inj (Prod.mk.inj h).1).symm, fun _ _ => hrefusal⟩

/-- A write that fails for good is refused by a sink that is full. -/
lemma of_write_error {sink sink' : Sink} {data : Bytes} {failure : Failure}
    (h : sink.write data = (.error failure, sink'))
    (hr : ¬device.retries failure sink sink' = true) :
    sink.room = some 0 ∧ sink.refusal = some failure := by
  unfold write at h
  split at h
  · -- An interruption does not last.
    rename_i hi
    obtain ⟨hfailure, rfl⟩ := Prod.mk.inj h
    rw [← Except.error.inj hfailure] at hr
    exact absurd (retries_interruption hi) hr
  · split at h
    · rename_i hrefusal
      split at h
      · rename_i hfull
        exact ⟨hfull.1, hrefusal.trans (congrArg some (Except.error.inj (Prod.mk.inj h).1))⟩
      · cases (Prod.mk.inj h).1
    · cases (Prod.mk.inj h).1

/-- A portion is no more than there is room for. -/
lemma prefix_take_portion (sink : Sink) (data : Bytes) :
    data.take (sink.portion data.length) <+: Device.fitting sink.limit sink.accepted data := by
  rw [← take_room]
  refine List.take_prefix_take_left ?_
  unfold portion
  rcases sink.room with _ | room
  · simp only [Option.getD_none]
    omega
  · exact Nat.min_le_right _ _

/-- Nothing fits into a sink that has no more room. -/
lemma fitting_of_full {sink : Sink} (h : sink.room = some 0) (data : Bytes) :
    Device.fitting sink.limit sink.accepted data = [] := by
  rw [← take_room, h]
  exact List.take_zero

/-- **A sink fills up.** -/
theorem fillsUp (capacity : Option Nat) (refusal : Option Failure) :
    device.FillsUp (Bounded capacity refusal) accepted capacity refusal where
  toDeliversWhile := delivers.deliversWhile fun hstep hs => by
    obtain ⟨hchunk, hlimit, -⟩ := bounds_of_step hstep
    exact ⟨hchunk ▸ hs.portions, hlimit.trans hs.bound, (refusal_of_step hstep).trans hs.refuses,
      hs.final⟩
  fits {data sink count sink'} hs hw := by
    obtain ⟨rfl, -⟩ := of_write_ok hw
    rw [← hs.bound]
    exact prefix_take_portion sink data
  full_of_zero {data sink sink'} hs hdata hw := by
    obtain ⟨hcount, hwhy⟩ := of_write_ok hw
    have hfull : sink.room = some 0 := by
      by_contra hroom
      have hpos := portion_pos hs.portions hroom (List.length_eq_zero_iff.not.mpr hdata)
      omega
    rw [← hs.bound, ← hs.refuses]
    exact ⟨fitting_of_full hfull data, hwhy hfull hdata⟩
  full_of_error {data sink failure sink'} hs _ hw hr := by
    obtain ⟨hfull, hrefusal⟩ := of_write_error hw hr
    rw [← hs.bound, ← hs.refuses]
    exact ⟨fitting_of_full hfull data, hrefusal⟩

end Sink

end PrefetchInfo
