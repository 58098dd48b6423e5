import PrefetchInfo.Proofs.Device.Waning
import PrefetchInfo.Proofs.Output.Conservation

/-!
# Output that goes on

In every mode, output to a willing sink takes all it is given: each interruption is worth another
attempt, in the unbuffered mode if the sink can be flushed.
-/

namespace PrefetchInfo.Output

variable {σ : Type} {device : Device σ} {fit : σ → Prop}

/-- Writing through to a willing sink goes on, if no flush fails. -/
lemma willing_through (h : device.Willing fit)
    (hflush : ∀ s, fit s → (device.flush s).1 = .ok ()) : (through device).Willing fit where
  stays hstep hs := h.fit_of_reaches (reaches_of_step_through hstep) hs
  pos_of_ok {data s n s'} hs hdata hok := by
    change writeThrough device data s = (.ok n, s') at hok
    rcases writeThrough_cases device data s with
      ⟨_, _, _, ht⟩ | ⟨_, _, _, _, _, _, ht⟩ | ⟨count, t, u, hw, _, ht⟩ <;>
      rw [ht, Prod.mk.injEq] at hok
    · cases hok.1
    · cases hok.1
    · exact h.pos_of_ok hs hdata (Except.ok.inj hok.1 ▸ hw)
  retries_of_error {data s failure s'} hs hdata herror := by
    change writeThrough device data s = (.error failure, s') at herror
    rcases writeThrough_cases device data s with
      ⟨_, t, hw, ht⟩ | ⟨_, t, _, u, hw, hf, _⟩ | ⟨_, _, _, _, _, ht⟩
    · rw [ht] at herror
      exact h.retries_of_error hs hdata (hw.trans herror)
    · have hdone := hflush t (h.fit_of_reaches (.write hw) hs)
      rw [hf] at hdone
      cases hdone
    · rw [ht, Prod.mk.injEq] at herror
      cases herror.1

/-- **Output to a willing sink is willing,** in every mode. -/
theorem willing_device (h : device.Willing fit) (hwanes : device.Wanes fit) {mode : BufferingMode}
    (hflush : FlushesIn mode device fit) :
    (Output.device mode device).Willing (fun b => fit b.inner) := by
  cases mode with
  | unbuffered => exact (willing_through h (hflush rfl)).within
  | lineBuffered => exact LineBuffer.willing_device h hwanes lineCapacity
  | fullyBuffered => exact BlockBuffer.willing_device h hwanes blockCapacity

/-- Output to a willing sink that can be flushed can be flushed, in every mode. -/
lemma flush_device_ok (h : device.Willing fit) (hflush : ∀ s, fit s → (device.flush s).1 = .ok ())
    (mode : BufferingMode) {b : Buffered σ} (hb : fit b.inner) :
    ((Output.device mode device).flush b).1 = .ok () := by
  cases mode with
  | unbuffered => exact hflush b.inner hb
  | lineBuffered => exact BlockBuffer.flush_ok h hflush hb
  | fullyBuffered => exact BlockBuffer.flush_ok h hflush hb

end PrefetchInfo.Output
