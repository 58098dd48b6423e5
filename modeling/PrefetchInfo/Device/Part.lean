import PrefetchInfo.Device.Basic

/-!
# Devices that work on a part of a state

A device over a state is also a device over every larger state that has the first one as a part.
-/

namespace PrefetchInfo

/-- A part of a state that can be looked at and replaced. -/
structure Part (τ σ : Type) where
  /-- The part as it is in a state. -/
  get : τ → σ
  /-- A state with the part replaced. -/
  set : σ → τ → τ
  get_set : ∀ s t, get (set s t) = s

/-- A device that works on a part of a larger state. -/
def Device.within {τ σ : Type} (device : Device σ) (part : Part τ σ) : Device τ where
  write data t := ((device.write data (part.get t)).1, part.set (device.write data (part.get t)).2 t)
  flush t := ((device.flush (part.get t)).1, part.set (device.flush (part.get t)).2 t)
  patience t := device.patience (part.get t)
  taken_le := by
    intro data t n t' h
    exact device.taken_le (Prod.ext (Prod.mk.inj h).1 rfl)

end PrefetchInfo
