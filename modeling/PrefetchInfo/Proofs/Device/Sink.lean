import PrefetchInfo.Device.Sink
import PrefetchInfo.Proofs.Device.Delivery

/-!
# What a sink accepts

A sink keeps a record of what it accepts, and the record is a view that it delivers to whatever its
behaviour is. A sink with room for everything that accepts something of every write is willing: it may
be interrupted, but each interruption is one of those still to come.
-/

namespace PrefetchInfo.Sink

/-- What offering bytes to a sink can come to: it is interrupted, one of the times it was going to be;
it is full and refuses; or it accepts a first part. -/
lemma write_cases (data : Bytes) (sink : Sink) :
    (sink.interrupts ≠ 0 ∧ sink.write data =
      (.error .interruption, { sink with interrupts := sink.interrupts - 1 })) ∨
    (∃ failure, sink.room = some 0 ∧ data ≠ [] ∧ sink.write data = (.error failure, sink)) ∨
    sink.write data = (.ok (sink.portion data.length),
      { sink with accepted := sink.accepted ++ data.take (sink.portion data.length) }) := by
  by_cases hi : sink.interrupts ≠ 0
  · exact .inl ⟨hi, by simp only [write, if_pos hi]⟩
  · rcases hr : sink.refusal with _ | failure
    · exact .inr (.inr (by simp only [write, if_neg hi, hr]))
    · by_cases hfull : sink.room = some 0 ∧ data ≠ []
      · refine .inr (.inl ⟨failure, hfull.1, hfull.2, ?_⟩)
        simp only [write, if_neg hi, hr, if_pos hfull]
      · exact .inr (.inr (by simp only [write, if_neg hi, hr, if_neg hfull]))

/-- **A sink delivers.**  What a sink takes is appended to what it has accepted. -/
theorem delivers : device.Delivers accepted where
  write_ok {data sink n sink'} h := by
    change sink.write data = (.ok n, sink') at h
    rcases write_cases data sink with ⟨_, hw⟩ | ⟨_, _, _, hw⟩ | hw <;>
      rw [hw, Prod.mk.injEq] at h <;> obtain ⟨hr, rfl⟩ := h
    · cases hr
    · cases hr
    · rw [← Except.ok.inj hr]
  write_error {data sink failure sink'} h := by
    change sink.write data = (.error failure, sink') at h
    rcases write_cases data sink with ⟨_, hw⟩ | ⟨_, _, _, hw⟩ | hw <;>
      rw [hw, Prod.mk.injEq] at h <;> obtain ⟨hr, rfl⟩ := h
    · rfl
    · rfl
    · cases hr
  flush sink := by
    change sink.flush.2.accepted = sink.accepted
    unfold flush
    split
    · rfl
    · split <;> rfl

/-- A sink keeps its bounds and does not begin to fail when it is flushed. -/
lemma bounds_of_step {sink sink' : Sink} (h : device.Step sink sink') :
    sink'.chunk = sink.chunk ∧ sink'.limit = sink.limit ∧
      sink'.flushFailure = sink.flushFailure ∧ sink'.flushInterrupts ≤ sink.flushInterrupts := by
  cases h with
  | write data =>
    change _ ∧ _ ∧ _ ∧ (sink.write data).2.flushInterrupts ≤ _
    rcases write_cases data sink with ⟨_, hw⟩ | ⟨_, _, _, hw⟩ | hw <;>
      exact ⟨by simp [device, hw], by simp [device, hw], by simp [device, hw], by simp [hw]⟩
  | flush =>
    simp only [device]
    unfold flush
    split
    · exact ⟨rfl, rfl, rfl, Nat.sub_le _ _⟩
    · split <;> exact ⟨rfl, rfl, rfl, Nat.le_refl _⟩

/-- A sink is flushable if its flushes neither fail nor are interrupted. -/
def Flushable (sink : Sink) : Prop :=
  sink.flushFailure = none ∧ sink.flushInterrupts = 0

/-- A flushable sink stays flushable. -/
lemma flushable_of_step {sink sink' : Sink} (h : device.Step sink sink') (hs : sink.Flushable) :
    sink'.Flushable := by
  obtain ⟨_, _, hfailure, hle⟩ := bounds_of_step h
  refine ⟨hfailure.trans hs.1, ?_⟩
  have hzero := hs.2
  omega

/-- Flushing a flushable sink succeeds. -/
lemma flush_ok {sink : Sink} (h : sink.Flushable) : (device.flush sink).1 = .ok () := by
  change sink.flush.1 = .ok ()
  simp only [flush, h.1, h.2, ne_eq, not_true, if_false]

/-- A sink is generous if it has room for everything and accepts something of every write. -/
def Generous (sink : Sink) : Prop :=
  sink.limit = none ∧ sink.chunk ≠ some 0

/-- A sink that accepts something of every write and has room accepts something. -/
lemma portion_pos {sink : Sink} (hchunk : sink.chunk ≠ some 0) (hroom : sink.room ≠ some 0)
    {count : Nat} (hc : count ≠ 0) : 0 < sink.portion count := by
  have hpos : ∀ {bound : Option Nat} {n : Nat}, bound ≠ some 0 → n ≠ 0 → min n (bound.getD n) ≠ 0 := by
    intro bound n hbound hn
    cases bound with
    | none => simpa using hn
    | some bound =>
      have hne : bound ≠ 0 := fun hzero => hbound (by rw [hzero])
      simp only [Option.getD_some]
      omega
  exact Nat.pos_of_ne_zero (hpos hroom (hpos hchunk hc))

/-- An interruption of a sink will not last. -/
lemma retries_interruption {sink : Sink} (h : sink.interrupts ≠ 0) :
    device.retries .interruption sink { sink with interrupts := sink.interrupts - 1 } = true := by
  simp only [Device.retries, Bool.and_eq_true, decide_eq_true_eq]
  refine ⟨rfl, ?_⟩
  change patience _ < patience sink
  simp only [patience, room]
  omega

/-- **A generous sink is willing.**  It takes something of every offer, or is interrupted one time
less often from then on. -/
theorem willing : device.Willing Generous where
  stays hstep h := by
    obtain ⟨hchunk, hlimit, _⟩ := bounds_of_step hstep
    exact ⟨hlimit.trans h.1, hchunk ▸ h.2⟩
  pos_of_ok {data sink n sink'} h hdata hok := by
    change sink.write data = (.ok n, sink') at hok
    rcases write_cases data sink with ⟨_, hw⟩ | ⟨_, _, _, hw⟩ | hw <;>
      rw [hw, Prod.mk.injEq] at hok
    · cases hok.1
    · cases hok.1
    · rw [← Except.ok.inj hok.1]
      have hroom : sink.room ≠ some 0 := by simp [room, h.1]
      exact portion_pos h.2 hroom (by simpa using hdata)
  retries_of_error {data sink failure sink'} h hdata herror := by
    change sink.write data = (.error failure, sink') at herror
    rcases write_cases data sink with ⟨hi, hw⟩ | ⟨_, hroom, _, hw⟩ | hw <;>
      rw [hw, Prod.mk.injEq] at herror
    · rw [← herror.2, ← Except.error.inj herror.1]
      exact retries_interruption hi
    · simp [room, h.1] at hroom
    · cases herror.1

/-! ### Sinks with room for everything -/

/-- A sink with room for everything: it is generous, and no flush of it fails. -/
def Roomy (sink : Sink) : Prop :=
  sink.Generous ∧ sink.Flushable

/-- A new sink has room for everything. -/
lemma roomy_default : Roomy {} :=
  ⟨⟨rfl, by simp⟩, rfl, rfl⟩

/-- A sink with room for everything keeps it. -/
lemma roomy_of_step {sink sink' : Sink} (h : device.Step sink sink') (hs : sink.Roomy) :
    sink'.Roomy :=
  ⟨willing.stays h hs.1, flushable_of_step h hs.2⟩

/-- A sink with room for everything delivers. -/
lemma deliversWhile_roomy : device.DeliversWhile Roomy accepted :=
  delivers.deliversWhile roomy_of_step

/-- A sink with room for everything is willing. -/
lemma willing_roomy : device.Willing Roomy :=
  willing.restrict (fun hs => hs.1) roomy_of_step

/-- A sink with room for everything can be flushed. -/
lemma flush_roomy (sink : Sink) (hs : sink.Roomy) : (device.flush sink).1 = .ok () :=
  flush_ok hs.2

end PrefetchInfo.Sink
