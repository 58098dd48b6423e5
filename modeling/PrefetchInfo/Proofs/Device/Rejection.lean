import PrefetchInfo.Proofs.Device.BlockBuffer

/-!
# Devices that reject everything

A device rejects everything if no write to it takes a byte, whether it fails, is interrupted before it
does, or takes nothing without a failure. A block buffer in front of it still takes what fits, and shows
nothing of the device until it overflows or is flushed; then it fails, and keeps what is pending.
-/

namespace PrefetchInfo

variable {σ : Type} {device : Device σ} {fit : σ → Prop}

namespace Device

/-- In the states `fit`, which no operation leads out of, no write takes a byte. -/
structure RejectsAll (device : Device σ) (fit : σ → Prop) : Prop where
  /-- No operation leads out of the states `fit`. -/
  stays : ∀ {s s'}, device.Step s s' → fit s → fit s'
  /-- A write that does not fail takes nothing. -/
  zero_of_ok : ∀ {data s n s'}, fit s → data ≠ [] → device.write data s = (.ok n, s') → n = 0

namespace RejectsAll

/-- Fit states lead to fit states. -/
lemma fit_of_reaches (h : device.RejectsAll fit) {s s' : σ} (hr : device.Reaches s s') (hs : fit s) :
    fit s' :=
  hr.keeps h.stays hs

/-- Giving bytes to a device that rejects everything fails. -/
lemma writeAll_error (h : device.RejectsAll fit) {data : Bytes} (hdata : data ≠ []) {s : σ}
    (hs : fit s) : ∃ failure t, device.writeAll data s = (.error failure, t) := by
  induction data, s using Device.writeAll.induct device with
  | case1 s => exact absurd rfl hdata
  | case2 data s _ s' hw => exact ⟨_, s', writeAll_of_zero hdata hw⟩
  | case3 data s _ n s' hw ih => cases h.zero_of_ok hs hdata hw
  | case4 data s _ failure s' hw hr ih =>
    rw [writeAll_of_retries hdata hw hr]
    exact ih hdata (h.fit_of_reaches (.write hw) hs)
  | case5 data s _ failure s' hw hr => exact ⟨failure, s', writeAll_of_error hdata hw hr⟩

end RejectsAll

end Device

namespace BlockBuffer

variable {capacity : Nat} {data : Bytes} {b : Buffered σ}

/-- So many bytes overflow a buffer if they would fill it by themselves, or do not fit behind what is
pending. -/
def Overflows (capacity : Nat) (pending : Bytes) (count : Nat) : Prop :=
  capacity ≤ count ∨ pending ≠ [] ∧ capacity - pending.length < count

instance (capacity : Nat) (pending : Bytes) (count : Nat) :
    Decidable (Overflows capacity pending count) :=
  inferInstanceAs (Decidable (capacity ≤ count ∨ pending ≠ [] ∧ capacity - pending.length < count))

/-- Bytes that do not overflow a buffer stop in it, whatever the device. -/
lemma writeAll_of_not_overflows (device : Device σ)
    (h : ¬Overflows capacity b.pending data.length) :
    writeAll capacity device data b = (.ok (), ⟨b.pending ++ data, b.inner⟩) := by
  obtain ⟨hsmall, hbehind⟩ := not_or.mp h
  have hroom : ¬data.length > capacity - b.pending.length := by
    by_cases hnil : b.pending = []
    · rw [hnil, List.length_nil]
      omega
    · exact fun hlong => hbehind ⟨hnil, hlong⟩
  have hmake : makeRoom capacity device data.length b = (.ok (), b) := if_neg hroom
  simp only [writeAll, hmake, if_neg hsmall]

/-- If nothing is pending, flushing a buffer is flushing the device. -/
lemma flush_of_nil (device : Device σ) (h : b.pending = []) :
    flush device b = ((device.flush b.inner).1, ⟨[], (device.flush b.inner).2⟩) := by
  simp only [flush, drain_of_nil h, h]

section Rejected

variable (hrejects : device.RejectsAll fit)

include hrejects

/-- Pending bytes do not pass, and stay pending. -/
lemma drain_of_rejected (hne : b.pending ≠ []) (hb : fit b.inner) :
    ∃ failure s, drain device b = (.error failure, ⟨b.pending, s⟩) := by
  induction b using drain.induct device with
  | case1 b hnil => exact absurd hnil hne
  | case2 b _ s hw => exact ⟨_, s, drain_of_zero hne hw⟩
  | case3 b _ n s hw ih => cases hrejects.zero_of_ok hb hne hw
  | case4 b _ failure s hw hr ih =>
    rw [drain_of_retries hne hw hr]
    exact ih hne (hrejects.fit_of_reaches (.write hw) hb)
  | case5 b _ failure s hw hr => exact ⟨failure, s, drain_of_error hne hw hr⟩

/-- Bytes that overflow a buffer are refused, and what was pending before stays so. -/
lemma writeAll_of_overflows (hcapacity : 0 < capacity) (hb : fit b.inner)
    (h : Overflows capacity b.pending data.length) :
    ∃ failure s, writeAll capacity device data b = (.error failure, ⟨b.pending, s⟩) := by
  by_cases hnil : b.pending = []
  · have hlarge : capacity ≤ data.length := h.resolve_right fun hbehind => hbehind.1 hnil
    have hmake : makeRoom capacity device data.length b = (.ok (), b) := by
      rcases makeRoom_cases capacity device data.length b with ⟨-, hm⟩ | hm
      · exact hm
      · rw [hm, drain_of_nil hnil]
    have hdata : data ≠ [] := by
      rintro rfl
      exact absurd hlarge (Nat.not_le_of_lt hcapacity)
    obtain ⟨failure, s, hw⟩ := hrejects.writeAll_error hdata hb
    exact ⟨failure, s, by simp only [writeAll, hmake, if_pos hlarge, hw]⟩
  · have hlong : data.length > capacity - b.pending.length := by
      have hpos := List.length_pos_iff.mpr hnil
      rcases h with hlarge | hbehind
      · omega
      · exact hbehind.2
    have hmake : makeRoom capacity device data.length b = drain device b := if_pos hlong
    obtain ⟨failure, s, hd⟩ := drain_of_rejected hrejects hnil hb
    exact ⟨failure, s, by simp only [writeAll, hmake, hd]⟩

/-- If anything is pending, flushing a buffer fails, and it stays pending. -/
lemma flush_of_rejected (hne : b.pending ≠ []) (hb : fit b.inner) :
    ∃ failure s, flush device b = (.error failure, ⟨b.pending, s⟩) := by
  obtain ⟨failure, s, hd⟩ := drain_of_rejected hrejects hne hb
  exact ⟨failure, s, by simp only [flush, hd]⟩

end Rejected

end BlockBuffer

end PrefetchInfo
