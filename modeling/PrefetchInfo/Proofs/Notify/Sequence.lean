import PrefetchInfo.Proofs.Notify.Balance

/-!
# Texts that are delivered one after the other

A sequence of texts is delivered until one of them fails. Of a single text a first part is added to what
its destination holds, and this is all of it just if delivering it succeeds; by induction the same holds
of a sequence.
-/

namespace PrefetchInfo.NotifyStream

open Notify

variable {σ φ ω : Type} {outlets : Outlets σ φ ω} {stream stream' : NotifyStream φ ω} {s s' : σ}

/-! ### Delivering a sequence -/

/-- Delivers texts one after the other, until one of them fails. -/
def deliverEach (outlets : Outlets σ φ ω) (stream : NotifyStream φ ω) (texts : List Bytes) (s : σ) :
    Except Failure Unit × NotifyStream φ ω × σ :=
  match texts with
  | [] => (.ok (), stream, s)
  | text :: texts =>
    match stream.deliver outlets text s with
    | (.error failure, stream, s) => (.error failure, stream, s)
    | (.ok (), stream, s) => stream.deliverEach outlets texts s

/-- A sequence stops at a text that fails. -/
lemma deliverEach_of_error {failure : Failure} {text : Bytes} {texts : List Bytes}
    (h : stream.deliver outlets text s = (.error failure, stream', s')) :
    stream.deliverEach outlets (text :: texts) s = (.error failure, stream', s') := by
  simp only [deliverEach, h]

/-- A sequence goes on after a text that does not. -/
lemma deliverEach_of_ok {text : Bytes} {texts : List Bytes}
    (h : stream.deliver outlets text s = (.ok (), stream', s')) :
    stream.deliverEach outlets (text :: texts) s = stream'.deliverEach outlets texts s' := by
  simp only [deliverEach, h]

/-- A text that a verbose stream delivers is written. -/
lemma emit_of_deliver_ok {text : String} (hverbose : stream.verbose = true)
    (h : stream.deliver outlets (utf8 text) s = (.ok (), stream', s')) :
    stream.emit outlets text s = (.ok (utf8 text).length, stream', s') := by
  rw [emit, if_pos hverbose, h]
  rfl

/-- A text that a verbose stream does not deliver is not. -/
lemma emit_of_deliver_error {text : String} {failure : Failure} (hverbose : stream.verbose = true)
    (h : stream.deliver outlets (utf8 text) s = (.error failure, stream', s')) :
    stream.emit outlets text s =
      (context (.error failure) (.inOut .writeFailed) "unable to write to notify stream",
        stream', s') := by
  rw [emit, if_pos hverbose, h]
  rfl

/-! ### What arrives -/

section Holds

variable [DecidableEq φ] [DecidableEq ω] (account : outlets.Account)

/-- Of a text that is delivered a first part is added to what the destination holds. -/
lemma arrives_deliver (hsound : Sound account stream s)
    (hkeeps : account.keeps stream.destination.place s) {data : Bytes} (hdata : data ≠ []) :
    Arrives data (holds account stream.destination.place stream s)
      (holds account stream.destination.place (stream.deliver outlets data s).2.1
        (stream.deliver outlets data s).2.2)
      ((stream.deliver outlets data s).1 = .ok ()) := by
  have hfit : account.Fit stream.destination.place s := ⟨hkeeps, hsound⟩
  -- A file is reached through its buffer, other places directly; a lent writer may be out of use.
  rcases deliver_cases outlets stream data s with
    ⟨path, file, pending, result, b, hd, hb, hf⟩ | ⟨result, t, hnil, hw, hf⟩ | ⟨_, _, _, _, hf⟩ <;>
    rw [hf]
  · rw [hd] at hfit ⊢
    have harrives := BlockBuffer.arrives (b := ⟨pending, s⟩) (account.delivers_file file)
      bufferCapacity hdata hfit
    rw [hb] at harrives
    have hafter : holds account (.file file) ⟨stream.verbose, .owned path file b.pending⟩ b.inner =
        account.received (.file file) b.inner ++ b.pending := holds_of_eq account rfl
    rw [holds_of_eq account (by rw [hd]), hd]
    change Arrives data _ (holds account (.file file) _ b.inner) _
    rw [hafter]
    exact harrives
  · have harrives := (account.delivers stream.destination.place).arrives data hfit
    rw [hw] at harrives
    rwa [holds_of_nil account hnil, holds_of_nil account hnil]
  · exact .nothing _ hdata fun hok => nomatch hok

/-- **Of a sequence a first part arrives.**  It is added to what the destination holds, and it is the
whole sequence just if no text of it fails. -/
theorem arrives_deliverEach (hsound : Sound account stream s)
    (hkeeps : account.keeps stream.destination.place s) {texts : List Bytes}
    (htexts : ∀ text ∈ texts, text ≠ []) :
    Arrives texts.flatten (holds account stream.destination.place stream s)
      (holds account stream.destination.place (stream.deliverEach outlets texts s).2.1
        (stream.deliverEach outlets texts s).2.2)
      ((stream.deliverEach outlets texts s).1 = .ok ()) := by
  induction texts generalizing stream s with
  | nil => exact .nil _ rfl
  | cons text texts ih =>
    obtain ⟨htext, hrest⟩ := List.forall_mem_cons.mp htexts
    have harrives := arrives_deliver account hsound hkeeps htext
    rw [List.flatten_cons]
    rcases hd : stream.deliver outlets text s with ⟨failure | _, between, t⟩ <;> rw [hd] at harrives
    · rw [deliverEach_of_error hd]
      exact harrives.of_failure (fun hok => nomatch hok) (fun hok => nomatch hok) texts.flatten
    · rw [deliverEach_of_ok hd]
      have hput := deliver_staysPut hd
      have hreaches := Outlets.Reaches.of_device _ hput.reaches
      have hlater := ih (hsound.of_place_eq hput.place hreaches)
        (hput.place ▸ account.keeps_of_reaches hreaches hkeeps) hrest
      rw [hput.place] at hlater
      exact harrives.append rfl hlater

end Holds

end PrefetchInfo.NotifyStream
