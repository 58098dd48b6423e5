import PrefetchInfo.Proofs.Device.Offers
import PrefetchInfo.Proofs.Output.Conservation

/-!
# When unbuffered output repeats bytes

An unbuffered write is a write to the sink and a flush behind one answer. If the sink accepts bytes and
its flush fails, the write answers with the failure of the flush, although the bytes are in the sink: it
spills them. An interruption is followed by another attempt with the same bytes, so that what was
spilled arrives again.

That is the only way in which unbuffered output repeats bytes. `arrived_writeAll` says so for bytes
that are given with success, by induction on the attempts, and `repeats_iff_spills` for any number of
pieces one after the other.
-/

namespace PrefetchInfo

variable {σ : Type}

namespace Output

variable {device : Device σ} {fit : σ → Prop} {content : σ → Bytes} {data : Bytes}
  {b b' : Buffered σ}

/-! ### Spilling -/

/-- A sink spills when it accepts some of what it is offered and the flush that follows fails. -/
def Spills (device : Device σ) (data : Bytes) (s : σ) : Prop :=
  ∃ count s' failure s'', device.write data s = (.ok count, s') ∧ data.take count ≠ [] ∧
    device.flush s' = (.error failure, s'')

/-- One operation on unbuffered output is nothing but operations on the sink. -/
lemma reaches_of_step_unbuffered (h : (Output.device .unbuffered device).Step b b') :
    device.Reaches b.inner b'.inner := by
  cases h with
  | write data => exact reaches_of_step_through (.write data b.inner)
  | flush => exact reaches_of_step_through (.flush b.inner)

/-- Giving all of some bytes to unbuffered output is nothing but operations on the sink. -/
lemma reaches_writeAll_unbuffered (device : Device σ) (data : Bytes) (b : Buffered σ) :
    device.Reaches b.inner ((Output.device .unbuffered device).writeAll data b).2.inner := by
  have hsteps := Device.Reaches.writeAll (Output.device .unbuffered device) data b
  exact hsteps.keeps (P := fun c => device.Reaches b.inner c.inner)
    (fun hstep hreach => hreach.trans (reaches_of_step_unbuffered hstep)) (.refl device _)

/-- An unbuffered write that is done has not spilled: its bytes have arrived. -/
lemma arrived_write_ok (h : device.DeliversWhile fit content) (hb : fit b.inner) {n : Nat}
    (hw : (Output.device .unbuffered device).write data b = (.ok n, b')) :
    content b'.inner = content b.inner ++ data.take n ∧ ¬Spills device data b.inner := by
  obtain ⟨hr, rfl⟩ := Prod.mk.inj hw
  change (writeThrough device data b.inner).1 = .ok n at hr
  change content (writeThrough device data b.inner).2 = _ ∧ _
  rcases writeThrough_cases device data b.inner with
    ⟨_, t, _, ht⟩ | ⟨_, t, _, u, _, _, ht⟩ | ⟨count, t, u, hi, hf, ht⟩ <;> rw [ht] at hr <;> rw [ht]
  · cases hr
  · cases hr
  · obtain rfl := Except.ok.inj hr
    have hsame := h.flush (h.fit_of_reaches (.write hi) hb)
    rw [hf] at hsame
    refine ⟨hsame.trans (h.write_ok hb hi), ?_⟩
    rintro ⟨_, t', _, _, hi', _, hf'⟩
    obtain rfl := (Prod.mk.inj (hi.symm.trans hi')).2
    simp [hf] at hf'

/-- An unbuffered write that fails leaves bytes in the sink just if it spilled them. -/
lemma arrived_write_error (h : device.DeliversWhile fit content) (hb : fit b.inner)
    {failure : Failure}
    (hw : (Output.device .unbuffered device).write data b = (.error failure, b')) :
    ∃ extra, content b'.inner = content b.inner ++ extra ∧
      (extra = [] ↔ ¬Spills device data b.inner) := by
  obtain ⟨hr, rfl⟩ := Prod.mk.inj hw
  change (writeThrough device data b.inner).1 = .error failure at hr
  change ∃ extra, content (writeThrough device data b.inner).2 = _ ∧ _
  rcases writeThrough_cases device data b.inner with
    ⟨_, t, hi, ht⟩ | ⟨count, t, _, u, hi, hf, ht⟩ | ⟨_, t, u, _, _, ht⟩ <;> rw [ht] at hr <;> rw [ht]
  · refine ⟨[], by rw [h.write_error hb hi, List.append_nil], iff_of_true rfl ?_⟩
    rintro ⟨_, _, _, _, hi', _, _⟩
    simp [hi] at hi'
  · have hsame := h.flush (h.fit_of_reaches (.write hi) hb)
    rw [hf] at hsame
    refine ⟨data.take count, hsame.trans (h.write_ok hb hi), fun hnil => ?_, fun hnot => ?_⟩
    · rintro ⟨count', t', _, _, hi', hne, _⟩
      obtain ⟨hcount, _⟩ := Prod.mk.inj (hi.symm.trans hi')
      exact hne (Except.ok.inj hcount ▸ hnil)
    · exact Classical.byContradiction fun hne => hnot ⟨count, t, _, u, hi, hne, hf⟩
  · cases hr

/-! ### Repeating -/

/-- If nothing of two lists of bytes is missing in two others, then the one pair is together what the
other is together just if they are the same one by one. -/
lemma append_eq_append_iff_of_sublist {next arrived arrived' : Bytes} (hdata : data.Sublist arrived)
    (hnext : next.Sublist arrived') :
    arrived ++ arrived' = data ++ next ↔ arrived = data ∧ arrived' = next := by
  constructor
  · intro h
    have hlength := congrArg List.length h
    rw [List.length_append, List.length_append] at hlength
    have hle := hdata.length_le
    have hle' := hnext.length_le
    exact ⟨(hdata.eq_of_length (by omega)).symm, (hnext.eq_of_length (by omega)).symm⟩
  · rintro ⟨rfl, rfl⟩
    rfl

/-- A first part of some bytes and others behind it are those bytes just if the others are the rest. -/
lemma take_append_eq_iff {n : Nat} {arrived : Bytes} :
    data.take n ++ arrived = data ↔ arrived = data.drop n := by
  constructor
  · intro h
    exact List.append_cancel_left (h.trans (List.take_append_drop n data).symm)
  · rintro rfl
    exact List.take_append_drop n data

/-- Of bytes that unbuffered output was given with success none is missing in the sink, and none is
there twice just if no offer on the way was spilled. -/
lemma arrived_writeAll (h : device.DeliversWhile fit content) (hb : fit b.inner)
    (hok : (Output.device .unbuffered device).writeAll data b = (.ok (), b')) :
    ∃ arrived, content b'.inner = content b.inner ++ arrived ∧ data.Sublist arrived ∧
      (arrived = data ↔ ∀ rest t, (Output.device .unbuffered device).Offers data b rest t →
        ¬Spills device rest t.inner) := by
  induction data, b using Device.writeAll.induct (Output.device .unbuffered device) with
  | case1 b =>
    obtain rfl := (Prod.mk.inj (Device.writeAll_nil _ b ▸ hok)).2
    refine ⟨[], by rw [List.append_nil], .refl [], iff_of_true rfl ?_⟩
    intro rest t hoffer
    cases hoffer <;> contradiction
  | case2 data b hdata c hw =>
    rw [Device.writeAll_of_zero hdata hw] at hok
    cases (Prod.mk.inj hok).1
  | case3 data b hdata n c hw ih =>
    rw [Device.writeAll_of_succ hdata hw] at hok
    obtain ⟨hhere, hnot⟩ := arrived_write_ok h hb hw
    have hc := h.fit_of_reaches (reaches_of_step_unbuffered (.of_write hw)) hb
    obtain ⟨arrived, hlater, hsub, hiff⟩ := ih hc hok
    refine ⟨data.take (n + 1) ++ arrived, ?_, ?_, ?_⟩
    · rw [hlater, hhere, List.append_assoc]
    · have hboth := (List.Sublist.refl (data.take (n + 1))).append hsub
      rwa [List.take_append_drop] at hboth
    · rw [Device.forall_offers_of_succ hdata hw, ← hiff, and_iff_right hnot]
      exact take_append_eq_iff
  | case4 data b hdata failure c hw hr ih =>
    rw [Device.writeAll_of_retries hdata hw hr] at hok
    -- The whole of the data is offered again, so that what arrived of it on this attempt is extra.
    obtain ⟨extra, hhere, hspill⟩ := arrived_write_error h hb hw
    have hc := h.fit_of_reaches (reaches_of_step_unbuffered (.of_write hw)) hb
    obtain ⟨arrived, hlater, hsub, hiff⟩ := ih hc hok
    refine ⟨extra ++ arrived, ?_, hsub.trans (List.sublist_append_right _ _), ?_⟩
    · rw [hlater, hhere, List.append_assoc]
    · rw [Device.forall_offers_of_retries hdata hw hr, ← hiff, ← hspill]
      exact append_eq_append_iff_of_sublist (List.nil_sublist extra) hsub
  | case5 data b hdata failure c hw hr =>
    rw [Device.writeAll_of_error hdata hw hr] at hok
    cases (Prod.mk.inj hok).1

/-- The same for several pieces that were all given with success. -/
lemma arrived_run (h : device.DeliversWhile fit content) {pieces : List Bytes} {counts : List Nat}
    (hb : fit b.inner)
    (hok : ((Output.device .unbuffered device).run (pieces.map .writeAll) b).1 = counts.map .ok) :
    ∃ arrived, content ((Output.device .unbuffered device).run (pieces.map .writeAll) b).2.inner =
        content b.inner ++ arrived ∧ pieces.flatten.Sublist arrived ∧
      (arrived = pieces.flatten ↔
        ∀ rest t, (Output.device .unbuffered device).OffersAmong pieces b rest t →
          ¬Spills device rest t.inner) := by
  induction pieces generalizing b counts with
  | nil =>
    refine ⟨[], (List.append_nil _).symm, .refl [], iff_of_true rfl ?_⟩
    intro rest t hoffer
    cases hoffer
  | cons data pieces ih =>
    rcases hw : (Output.device .unbuffered device).writeAll data b with ⟨result, c⟩
    cases counts with
    | nil => cases hok
    | cons count counts =>
      simp only [List.map_cons, Device.run, Device.perform, hw, List.cons.injEq] at hok ⊢
      obtain ⟨hfirst, hrest⟩ := hok
      obtain rfl : result = .ok () := by
        cases result with
        | error failure => cases hfirst
        | ok _ => rfl
      have hc := h.fit_of_reaches (reaches_writeAll_unbuffered device data b) hb
      rw [hw] at hc
      obtain ⟨arrived, hhere, hsub, hiff⟩ := arrived_writeAll h hb hw
      obtain ⟨arrived', hlater, hsub', hiff'⟩ := ih hc hrest
      refine ⟨arrived ++ arrived', ?_, hsub.append hsub', ?_⟩
      · rw [hlater, hhere, List.append_assoc]
      · rw [Device.forall_offersAmong_cons, hw, ← hiff, ← hiff']
        exact append_eq_append_iff_of_sublist hsub hsub'

/-- **Unbuffered output repeats what is spilled, and nothing else.**  A write that fails leaves bytes of
its own in the sink just if it spilled them. Of pieces that were all given with success no byte is
missing in the sink, and each is there once just if no offer on the way was spilled. -/
theorem repeats_iff_spills (h : device.DeliversWhile fit content) :
    (∀ data failure b b', fit b.inner →
      (Output.device .unbuffered device).write data b = (.error failure, b') →
      (content b'.inner = content b.inner ↔ ¬Spills device data b.inner)) ∧
    (∀ (pieces : List Bytes) (counts : List Nat) (s : σ), fit s →
      (run .unbuffered device (pieces.map .writeAll) s).1 = counts.map .ok →
      (content s ++ pieces.flatten).Sublist
        (content (run .unbuffered device (pieces.map .writeAll) s).2.inner) ∧
      (content (run .unbuffered device (pieces.map .writeAll) s).2.inner =
          content s ++ pieces.flatten ↔
        ∀ rest t, (Output.device .unbuffered device).OffersAmong pieces (ofSink s) rest t →
          ¬Spills device rest t.inner)) := by
  refine ⟨?_, ?_⟩
  · intro data failure b b' hb hw
    obtain ⟨extra, hhere, hspill⟩ := arrived_write_error h hb hw
    rw [hhere, List.append_right_eq_self, hspill]
  · intro pieces counts s hs hok
    obtain ⟨arrived, hview, hsub, hiff⟩ := arrived_run h (b := ofSink s) hs hok
    change content (run .unbuffered device (pieces.map .writeAll) s).2.inner =
      content s ++ arrived at hview
    rw [hview, List.append_cancel_left_eq, hiff]
    exact ⟨(List.Sublist.refl _).append hsub, Iff.rfl⟩

/-- A sink whose first flush is interrupted is offered two bytes that it spills. -/
theorem spills_of_interrupted_flush :
    ¬∀ rest t, (Output.device .unbuffered Sink.device).OffersAmong [utf8 "ab"]
        (ofSink { flushInterrupts := 1 }) rest t → ¬Spills Sink.device rest t.inner := by
  intro hnone
  have hdelivers : Sink.device.DeliversWhile (fun _ => True) Sink.accepted :=
    Sink.delivers.deliversWhile fun _ => id
  have hexact := (repeats_iff_spills hdelivers).2 [utf8 "ab"] [2] { flushInterrupts := 1 } trivial
    (by cbv)
  have honce := hexact.2.mpr hnone
  have htwice : (run .unbuffered Sink.device [.writeAll (utf8 "ab")]
      { flushInterrupts := 1 }).2.inner.accepted = utf8 "abab" := by cbv
  exact absurd (htwice.symm.trans honce) (by decide)

/-- Not all that unbuffered output is given with success arrives just once: behind a flush that is
interrupted, it arrives twice. -/
theorem not_once_if_flush_interrupted :
    ¬∀ (sink : Sink) (pieces : List Bytes),
      (run .unbuffered Sink.device (pieces.map .writeAll) sink).1 =
        pieces.map (fun piece => .ok piece.length) →
      (run .unbuffered Sink.device (pieces.map .writeAll) sink).2.inner.accepted =
        sink.accepted ++ pieces.flatten := by
  intro hclaim
  have honce := hclaim { flushInterrupts := 1 } [utf8 "ab"] (by cbv)
  have htwice : (run .unbuffered Sink.device [.writeAll (utf8 "ab")]
      { flushInterrupts := 1 }).2.inner.accepted = utf8 "abab" := by cbv
  exact absurd (htwice.symm.trans honce) (by decide)

end Output

end PrefetchInfo
