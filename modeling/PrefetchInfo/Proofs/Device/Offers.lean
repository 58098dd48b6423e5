import PrefetchInfo.Proofs.Device.Delivery

/-!
# Offers on the way

A device that is given all of some bytes is offered them, then what it did not take, and the same bytes
again after an interruption. `Device.Offers` names each of those offers with the state the device is in
when it is made, so that what must hold of every attempt can be said and proved by induction on the
attempts.
-/

namespace PrefetchInfo.Device

variable {σ : Type}

/-- While a device that is in the state `s` is given all of `data`, it is at some time in the state `t`
and is offered `rest`. -/
inductive Offers (device : Device σ) : Bytes → σ → Bytes → σ → Prop where
  /-- All of the bytes are offered first. -/
  | first {data s} (hdata : data ≠ []) : Offers device data s data s
  /-- What was not taken is offered next. -/
  | next {data s n s' rest t} (hdata : data ≠ []) (hw : device.write data s = (.ok (n + 1), s'))
      (later : Offers device (data.drop (n + 1)) s' rest t) : Offers device data s rest t
  /-- The same bytes are offered after an interruption. -/
  | again {data s failure s' rest t} (hdata : data ≠ [])
      (hw : device.write data s = (.error failure, s'))
      (hr : device.retries failure s s' = true) (later : Offers device data s' rest t) :
      Offers device data s rest t

/-- The same for several pieces, of which each is given after the others before it. -/
inductive OffersAmong (device : Device σ) : List Bytes → σ → Bytes → σ → Prop where
  /-- The offer is made for the first piece. -/
  | head {data pieces s rest t} (offer : Offers device data s rest t) :
      OffersAmong device (data :: pieces) s rest t
  /-- The offer is made for a later piece. -/
  | tail {data pieces s rest t}
      (later : OffersAmong device pieces (device.writeAll data s).2 rest t) :
      OffersAmong device (data :: pieces) s rest t

variable {device : Device σ} {P : Bytes → σ → Prop} {data : Bytes} {s s' : σ}

/-- After some bytes were taken, what holds of all offers holds of the first and of those that
follow. -/
lemma forall_offers_of_succ {n : Nat} (hdata : data ≠ [])
    (hw : device.write data s = (.ok (n + 1), s')) :
    (∀ rest t, Offers device data s rest t → P rest t) ↔
      P data s ∧ ∀ rest t, Offers device (data.drop (n + 1)) s' rest t → P rest t := by
  constructor
  · intro h
    exact ⟨h data s (.first hdata), fun rest t hlater => h rest t (.next hdata hw hlater)⟩
  · rintro ⟨hfirst, hlater⟩ rest t hoffer
    cases hoffer with
    | first _ => exact hfirst
    | next _ hw' hnext =>
      rw [hw, Prod.mk.injEq, Except.ok.injEq, Nat.add_right_cancel_iff] at hw'
      obtain ⟨rfl, rfl⟩ := hw'
      exact hlater rest t hnext
    | again _ hw' _ _ => simp [hw] at hw'

/-- After an interruption, what holds of all offers holds of the first and of those that follow. -/
lemma forall_offers_of_retries {failure : Failure} (hdata : data ≠ [])
    (hw : device.write data s = (.error failure, s'))
    (hr : device.retries failure s s' = true) :
    (∀ rest t, Offers device data s rest t → P rest t) ↔
      P data s ∧ ∀ rest t, Offers device data s' rest t → P rest t := by
  constructor
  · intro h
    exact ⟨h data s (.first hdata), fun rest t hlater => h rest t (.again hdata hw hr hlater)⟩
  · rintro ⟨hfirst, hlater⟩ rest t hoffer
    cases hoffer with
    | first _ => exact hfirst
    | next _ hw' _ => simp [hw] at hw'
    | again _ hw' _ hnext =>
      obtain rfl := (Prod.mk.inj (hw.symm.trans hw')).2
      exact hlater rest t hnext

/-- What holds of all offers for several pieces holds of those for the first and for the later
ones. -/
lemma forall_offersAmong_cons {pieces : List Bytes} :
    (∀ rest t, OffersAmong device (data :: pieces) s rest t → P rest t) ↔
      (∀ rest t, Offers device data s rest t → P rest t) ∧
      ∀ rest t, OffersAmong device pieces (device.writeAll data s).2 rest t → P rest t := by
  constructor
  · intro h
    exact ⟨fun rest t hoffer => h rest t (.head hoffer), fun rest t hlater => h rest t (.tail hlater)⟩
  · rintro ⟨hfirst, hlater⟩ rest t hoffer
    cases hoffer with
    | head hhead => exact hfirst rest t hhead
    | tail htail => exact hlater rest t htail

end PrefetchInfo.Device
