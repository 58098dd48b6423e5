import PrefetchInfo.Device.Part
import PrefetchInfo.Device.Sink
import Mathlib.Logic.Relation
import Mathlib.Tactic.Lemma

/-!
# What a device takes

A device is known by what it does to its state. `Device.Reaches` follows it through any number of
operations, `Device.DeliversWhile` says that what it takes is appended to a view of the state, and
`Device.Willing` says that it goes on taking. Under the second, `Device.writeAll` neither loses nor
repeats a byte: a first part of what it is given arrives, and it is all of it just if there is success.
Under the third, there is.
-/

namespace PrefetchInfo

/-- What every step keeps, any number of steps keep. -/
lemma keeps_of_reflTransGen {σ : Type} {step : σ → σ → Prop} {P : σ → Prop} {s s' : σ}
    (h : Relation.ReflTransGen step s s') (hP : ∀ s s', step s s' → P s → P s') (hs : P s) :
    P s' := by
  induction h with
  | refl => exact hs
  | tail _ hstep ih => exact hP _ _ hstep ih

/-! ### Parts that arrive -/

/-- From `before` to `after` a first part of some bytes has arrived, and it is all of them just if there
was success. -/
def Arrives (data before after : Bytes) (success : Prop) : Prop :=
  ∃ taken, taken <+: data ∧ after = before ++ taken ∧ (success ↔ taken = data)

namespace Arrives

variable {data first rest before between after : Bytes} {success further : Prop}

/-- No bytes arrive with success. -/
lemma nil (before : Bytes) (h : success) : Arrives [] before before success :=
  ⟨[], List.prefix_rfl, (List.append_nil before).symm, iff_of_true h rfl⟩

/-- Without success it may be that nothing arrives of some bytes, if there are any. -/
lemma nothing (before : Bytes) (hdata : data ≠ []) (h : ¬success) :
    Arrives data before before success :=
  ⟨[], List.nil_prefix, (List.append_nil before).symm, iff_of_false h (Ne.symm hdata)⟩

/-- With success everything has arrived. -/
lemma eq_of_success (h : Arrives data before after success) (hsuccess : success) :
    after = before ++ data := by
  obtain ⟨taken, -, hafter, hall⟩ := h
  rw [hafter, hall.mp hsuccess]

/-- Without success for the first of some bytes nothing arrives of the rest. -/
lemma of_failure (h : Arrives first before after success) (hfailure : ¬success)
    (hfurther : ¬further) (rest : Bytes) : Arrives (first ++ rest) before after further := by
  obtain ⟨taken, hpart, hafter, hall⟩ := h
  refine ⟨taken, hpart.trans (List.prefix_append first rest), hafter, iff_of_false hfurther ?_⟩
  intro heq
  have hfirst : first <+: taken := heq ▸ List.prefix_append first rest
  exact hfailure (hall.mpr (hpart.eq_of_length_le hfirst.length_le))

/-- After success for the first of some bytes it depends on the rest. -/
lemma append (h : Arrives first before between success) (hsuccess : success)
    (hrest : Arrives rest between after further) : Arrives (first ++ rest) before after further := by
  obtain ⟨taken, hpart, hafter, hall⟩ := hrest
  refine ⟨first ++ taken, (List.prefix_append_right_inj first).mpr hpart, ?_, ?_⟩
  · rw [hafter, h.eq_of_success hsuccess, List.append_assoc]
  · rw [hall, List.append_right_inj]

end Arrives

namespace Device

variable {σ : Type} {device : Device σ}

/-! ### Giving all bytes to a device, attempt by attempt -/

/-- There is nothing to do for no bytes. -/
lemma writeAll_nil (device : Device σ) (s : σ) : device.writeAll [] s = (.ok (), s) := by
  rw [writeAll, if_pos rfl]

/-- A device that takes nothing ends the attempts. -/
lemma writeAll_of_zero {data : Bytes} {s s' : σ} (hdata : data ≠ [])
    (h : device.write data s = (.ok 0, s')) :
    device.writeAll data s = (.error nothingTaken, s') := by
  rw [writeAll, if_neg hdata, h]

/-- After the device took some bytes, it is offered the rest. -/
lemma writeAll_of_succ {data : Bytes} {s s' : σ} {n : Nat} (hdata : data ≠ [])
    (h : device.write data s = (.ok (n + 1), s')) :
    device.writeAll data s = device.writeAll (data.drop (n + 1)) s' := by
  rw [writeAll, if_neg hdata, h]

/-- After an interruption that will not last, the device is offered the same bytes again. -/
lemma writeAll_of_retries {data : Bytes} {s s' : σ} {failure : Failure} (hdata : data ≠ [])
    (h : device.write data s = (.error failure, s')) (hr : device.retries failure s s' = true) :
    device.writeAll data s = device.writeAll data s' := by
  rw [writeAll, if_neg hdata, h]
  exact dif_pos hr

/-- Any other failure ends the attempts. -/
lemma writeAll_of_error {data : Bytes} {s s' : σ} {failure : Failure} (hdata : data ≠ [])
    (h : device.write data s = (.error failure, s')) (hr : ¬device.retries failure s s' = true) :
    device.writeAll data s = (.error failure, s') := by
  rw [writeAll, if_neg hdata, h]
  exact dif_neg hr

/-! ### Operations one after the other -/

/-- A single operation on a device. -/
inductive Step (device : Device σ) : σ → σ → Prop where
  /-- Bytes are offered. -/
  | write (data : Bytes) (s : σ) : Step device s (device.write data s).2
  /-- The device is flushed. -/
  | flush (s : σ) : Step device s (device.flush s).2

/-- A write leads to the state it leaves. -/
lemma Step.of_write {data : Bytes} {s s' : σ} {result : Except Failure Nat}
    (h : device.write data s = (result, s')) : device.Step s s' := by
  have hs : (device.write data s).2 = s' := by rw [h]
  exact hs ▸ Step.write data s

/-- A flush leads to the state it leaves. -/
lemma Step.of_flush {s s' : σ} {result : Except Failure Unit}
    (h : device.flush s = (result, s')) : device.Step s s' := by
  have hs : (device.flush s).2 = s' := by rw [h]
  exact hs ▸ Step.flush s

/-- Any number of operations on a device. -/
def Reaches (device : Device σ) : σ → σ → Prop :=
  Relation.ReflTransGen device.Step

namespace Reaches

/-- A device that has done nothing is where it was. -/
lemma refl (device : Device σ) (s : σ) : device.Reaches s s :=
  Relation.ReflTransGen.refl

/-- Operations can go on where others ended. -/
lemma trans {s t u : σ} (hst : device.Reaches s t) (htu : device.Reaches t u) :
    device.Reaches s u :=
  Relation.ReflTransGen.trans hst htu

/-- A write is one operation. -/
lemma write {data : Bytes} {s s' : σ} {result : Except Failure Nat}
    (h : device.write data s = (result, s')) : device.Reaches s s' := by
  have hs : (device.write data s).2 = s' := by rw [h]
  exact Relation.ReflTransGen.single (hs ▸ Step.write data s)

/-- A flush is one operation. -/
lemma flush {s s' : σ} {result : Except Failure Unit} (h : device.flush s = (result, s')) :
    device.Reaches s s' :=
  Relation.ReflTransGen.single (.of_flush h)

/-- What every operation keeps, any number of operations keep. -/
lemma keeps {P : σ → Prop} (hP : ∀ {s s'}, device.Step s s' → P s → P s') {s s' : σ}
    (h : device.Reaches s s') (hs : P s) : P s' :=
  keeps_of_reflTransGen h (fun _ _ => hP) hs

/-- Giving all bytes to a device is nothing but operations on it. -/
lemma writeAll (device : Device σ) (data : Bytes) (s : σ) :
    device.Reaches s (device.writeAll data s).2 := by
  induction data, s using Device.writeAll.induct device with
  | case1 s => rw [writeAll_nil]; exact refl device s
  | case2 data s hdata s' hw => rw [writeAll_of_zero hdata hw]; exact write hw
  | case3 data s hdata n s' hw ih => rw [writeAll_of_succ hdata hw]; exact (write hw).trans ih
  | case4 data s hdata failure s' hw hr ih =>
    rw [writeAll_of_retries hdata hw hr]
    exact (write hw).trans ih
  | case5 data s hdata failure s' hw hr => rw [writeAll_of_error hdata hw hr]; exact write hw

end Reaches

/-! ### Delivery -/

/-- In the states `fit`, which no operation leads out of, what a device takes is appended to the view
`content`, and nothing else changes it. -/
structure DeliversWhile (device : Device σ) (fit : σ → Prop) (content : σ → Bytes) : Prop where
  /-- No operation leads out of the states `fit`. -/
  stays : ∀ {s s'}, device.Step s s' → fit s → fit s'
  /-- What is taken is appended. -/
  write_ok : ∀ {data s n s'}, fit s → device.write data s = (.ok n, s') →
    content s' = content s ++ data.take n
  /-- A write that fails takes nothing. -/
  write_error : ∀ {data s failure s'}, fit s → device.write data s = (.error failure, s') →
    content s' = content s
  /-- Flushing moves nothing. -/
  flush : ∀ {s}, fit s → content (device.flush s).2 = content s

/-- A device that delivers in every state delivers in the states of any kind it stays in. -/
lemma Delivers.deliversWhile {content : σ → Bytes} (h : device.Delivers content) {fit : σ → Prop}
    (hfit : ∀ {s s'}, device.Step s s' → fit s → fit s') : device.DeliversWhile fit content where
  stays := hfit
  write_ok _ hw := h.write_ok hw
  write_error _ hw := h.write_error hw
  flush _ := h.flush _

namespace DeliversWhile

variable {fit : σ → Prop} {content : σ → Bytes}

/-- Fit states lead to fit states. -/
lemma fit_of_reaches (h : device.DeliversWhile fit content) {s s' : σ} (hr : device.Reaches s s')
    (hs : fit s) : fit s' :=
  hr.keeps h.stays hs

/-- A device delivers in fewer states, if no operation leads out of them. -/
lemma restrict (h : device.DeliversWhile fit content) {fewer : σ → Prop}
    (hfewer : ∀ {s}, fewer s → fit s)
    (hstays : ∀ {s s'}, device.Step s s' → fewer s → fewer s') :
    device.DeliversWhile fewer content where
  stays := hstays
  write_ok hs hw := h.write_ok (hfewer hs) hw
  write_error hs hw := h.write_error (hfewer hs) hw
  flush hs := h.flush (hfewer hs)

/-- When a device is given all of some bytes, a first part of them arrives, once and in order; if
nothing fails, that part is all of them. -/
lemma content_writeAll (h : device.DeliversWhile fit content) (data : Bytes) {s : σ} (hs : fit s) :
    ∃ taken, taken <+: data ∧ content (device.writeAll data s).2 = content s ++ taken ∧
      ((device.writeAll data s).1 = .ok () → taken = data) := by
  induction data, s using Device.writeAll.induct device with
  | case1 s => exact ⟨[], List.prefix_rfl, by simp [writeAll_nil], fun _ => rfl⟩
  | case2 data s hdata s' hw =>
    refine ⟨[], List.nil_prefix, ?_, ?_⟩
    · rw [writeAll_of_zero hdata hw, h.write_ok hs hw, List.take_zero]
    · simp [writeAll_of_zero hdata hw]
  | case3 data s hdata n s' hw ih =>
    rw [writeAll_of_succ hdata hw]
    obtain ⟨taken, hpre, hcontent, hall⟩ := ih (h.fit_of_reaches (.write hw) hs)
    refine ⟨data.take (n + 1) ++ taken, ?_, ?_, ?_⟩
    · have hsplit := (List.prefix_append_right_inj (data.take (n + 1))).mpr hpre
      rwa [List.take_append_drop] at hsplit
    · rw [hcontent, h.write_ok hs hw, List.append_assoc]
    · intro hok
      rw [hall hok, List.take_append_drop]
  | case4 data s hdata failure s' hw hr ih =>
    rw [writeAll_of_retries hdata hw hr, ← h.write_error hs hw]
    exact ih (h.fit_of_reaches (.write hw) hs)
  | case5 data s hdata failure s' hw hr =>
    rw [writeAll_of_error hdata hw hr, h.write_error hs hw]
    exact ⟨[], List.nil_prefix, by simp, by simp⟩

/-- Giving all of some bytes to a device succeeds just if all of them arrive. -/
lemma writeAll_ok_iff (h : device.DeliversWhile fit content) (data : Bytes) {s : σ} (hs : fit s) :
    (device.writeAll data s).1 = .ok () ↔ content (device.writeAll data s).2 = content s ++ data := by
  induction data, s using Device.writeAll.induct device with
  | case1 s => simp [writeAll_nil]
  | case2 data s hdata s' hw =>
    rw [writeAll_of_zero hdata hw, h.write_ok hs hw, List.take_zero, List.append_right_inj]
    exact iff_of_false (fun hok => nomatch hok) (Ne.symm hdata)
  | case3 data s hdata n s' hw ih =>
    have hrest := ih (h.fit_of_reaches (.write hw) hs)
    rw [writeAll_of_succ hdata hw, hrest, h.write_ok hs hw, List.append_assoc, List.take_append_drop]
  | case4 data s hdata failure s' hw hr ih =>
    rw [writeAll_of_retries hdata hw hr, ← h.write_error hs hw]
    exact ih (h.fit_of_reaches (.write hw) hs)
  | case5 data s hdata failure s' hw hr =>
    rw [writeAll_of_error hdata hw hr, h.write_error hs hw, List.self_eq_append_right]
    exact iff_of_false (fun hok => nomatch hok) hdata

/-- When a device is given all of some bytes, a first part of them arrives. -/
lemma arrives (h : device.DeliversWhile fit content) (data : Bytes) {s : σ}
    (hs : fit s) :
    Arrives data (content s) (content (device.writeAll data s).2)
      ((device.writeAll data s).1 = .ok ()) := by
  obtain ⟨taken, hpart, hcontent, -⟩ := h.content_writeAll data hs
  refine ⟨taken, hpart, hcontent, ?_⟩
  rw [h.writeAll_ok_iff data hs, hcontent, List.append_right_inj]

/-- Bytes that were all given with success have all arrived. -/
lemma content_writeAll_ok (h : device.DeliversWhile fit content) {data : Bytes} {s s' : σ}
    (hs : fit s) (hok : device.writeAll data s = (.ok (), s')) :
    content s' = content s ++ data := by
  have harrived := (h.writeAll_ok_iff data hs).mp (by rw [hok])
  rwa [hok] at harrived

end DeliversWhile

/-! ### Willing devices -/

/-- In the states `fit`, which no operation leads out of, a device takes something of every offer
that is not empty, unless it is interrupted for a while. -/
structure Willing (device : Device σ) (fit : σ → Prop) : Prop where
  /-- No operation leads out of the states `fit`. -/
  stays : ∀ {s s'}, device.Step s s' → fit s → fit s'
  /-- A write that does not fail takes something. -/
  pos_of_ok : ∀ {data s n s'}, fit s → data ≠ [] → device.write data s = (.ok n, s') → 0 < n
  /-- A write that fails is worth another attempt. -/
  retries_of_error : ∀ {data s failure s'}, fit s → data ≠ [] →
    device.write data s = (.error failure, s') → device.retries failure s s' = true

namespace Willing

variable {fit : σ → Prop}

/-- Fit states lead to fit states. -/
lemma fit_of_reaches (h : device.Willing fit) {s s' : σ} (hr : device.Reaches s s') (hs : fit s) :
    fit s' :=
  hr.keeps h.stays hs

/-- A device is willing in fewer states, if no operation leads out of them. -/
lemma restrict (h : device.Willing fit) {fewer : σ → Prop} (hfewer : ∀ {s}, fewer s → fit s)
    (hstays : ∀ {s s'}, device.Step s s' → fewer s → fewer s') : device.Willing fewer where
  stays := hstays
  pos_of_ok hs hdata hw := h.pos_of_ok (hfewer hs) hdata hw
  retries_of_error hs hdata hw := h.retries_of_error (hfewer hs) hdata hw

/-- A willing device takes all it is given. -/
lemma writeAll_ok (h : device.Willing fit) (data : Bytes) {s : σ} (hs : fit s) :
    (device.writeAll data s).1 = .ok () := by
  induction data, s using Device.writeAll.induct device with
  | case1 s => rw [writeAll_nil]
  | case2 data s hdata s' hw => exact absurd (h.pos_of_ok hs hdata hw) (Nat.lt_irrefl 0)
  | case3 data s hdata n s' hw ih =>
    rw [writeAll_of_succ hdata hw]
    exact ih (h.fit_of_reaches (.write hw) hs)
  | case4 data s hdata failure s' hw hr ih =>
    rw [writeAll_of_retries hdata hw hr]
    exact ih (h.fit_of_reaches (.write hw) hs)
  | case5 data s hdata failure s' hw hr => exact absurd (h.retries_of_error hs hdata hw) hr

end Willing

/-! ### Devices on a part of a state -/

section Part

variable {τ : Type} {part : Part τ σ} {fit : σ → Prop} {content : σ → Bytes}

/-- An operation on a part is one on the whole, and replaces nothing but the part. -/
lemma step_within {t t' : τ} (h : (device.within part).Step t t') :
    device.Step (part.get t) (part.get t') ∧ t' = part.set (part.get t') t := by
  cases h with
  | write data =>
    simp only [Device.within, part.get_set, and_true]
    exact .write data _
  | flush =>
    simp only [Device.within, part.get_set, and_true]
    exact .flush _

/-- A device that delivers to a view of a part delivers to that view of the whole. -/
lemma DeliversWhile.within (h : device.DeliversWhile fit content) :
    (device.within part).DeliversWhile (fun t => fit (part.get t))
      (fun t => content (part.get t)) where
  stays hstep hs := h.stays (step_within hstep).1 hs
  write_ok {data t n t'} hs hw := by
    obtain ⟨hr, rfl⟩ := Prod.mk.inj hw
    rw [part.get_set]
    exact h.write_ok hs (Prod.ext hr rfl)
  write_error {data t failure t'} hs hw := by
    obtain ⟨hr, rfl⟩ := Prod.mk.inj hw
    rw [part.get_set]
    exact h.write_error hs (Prod.ext hr rfl)
  flush {t} hs := by
    change content (part.get (part.set _ t)) = _
    rw [part.get_set]
    exact h.flush hs

/-- A device that is willing on a part is willing on the whole. -/
lemma Willing.within (h : device.Willing fit) :
    (device.within part).Willing (fun t => fit (part.get t)) where
  stays hstep hs := h.stays (step_within hstep).1 hs
  pos_of_ok {data t n t'} hs hdata hw :=
    h.pos_of_ok hs hdata (Prod.ext (Prod.mk.inj hw).1 rfl)
  retries_of_error {data t failure t'} hs hdata hw := by
    obtain ⟨hr, rfl⟩ := Prod.mk.inj hw
    have hretries := h.retries_of_error hs hdata (Prod.ext hr rfl)
    simpa only [retries, Device.within, part.get_set] using hretries

end Part

end Device

end PrefetchInfo
