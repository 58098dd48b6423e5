import PrefetchInfo.Proofs.Notify.Reachable

/-!
# What a place holds

What a place has received and what a stream keeps pending for it are together what the place holds.
Flushing and replacing the destination, with success or without, change nothing in what any place holds;
a text that is delivered is added to what the destination in force holds, and to nothing else.
-/

namespace PrefetchInfo.NotifyStream

open Notify

variable {σ φ ω : Type} {outlets : Outlets σ φ ω} {stream stream' : NotifyStream φ ω} {s s' : σ}
  (account : outlets.Account)

/-! ### What a stream does to its destination -/

/-- Flushing an owned file moves a first part of its pending bytes, all of them if it succeeds, and
neither loses nor repeats one. -/
lemma received_flushOwned {path pending : Bytes} {file : φ}
    (hd : stream.destination = .owned path file pending) (hfit : account.Fit (.file file) s)
    {result : Except Failure Unit} (h : stream.flushOwned outlets s = (result, stream', s')) :
    ∃ pending', stream'.destination = .owned path file pending' ∧
      account.received (.file file) s' ++ pending' = account.received (.file file) s ++ pending ∧
      (result = .ok () → pending' = []) := by
  have hgiven := BlockBuffer.given_flush (b := ⟨pending, s⟩) (account.delivers_file file) hfit
  rcases flushOwned_cases outlets stream s with
    ⟨path', file', pending', result', b, hd', hb, hf⟩ | ⟨_, _, hplace, _⟩
  · obtain ⟨rfl, rfl, rfl⟩ := Destination.owned.inj (hd.symm.trans hd')
    rw [hf, Prod.mk.injEq, Prod.mk.injEq] at h
    obtain ⟨rfl, rfl, rfl⟩ := h
    rw [hb] at hgiven
    refine ⟨b.pending, rfl, hgiven, fun hok => ?_⟩
    rw [hok] at hb
    exact BlockBuffer.pending_of_flush_ok hb
  · exact absurd (by rw [hd]; rfl) (hplace file)

/-- If writing to the destination in force succeeds, so does flushing. -/
lemma flushOwned_ok (htakes : account.takes stream.destination.place s) :
    (stream.flushOwned outlets s).1 = .ok () := by
  rcases flushOwned_cases outlets stream s with
    ⟨path, file, pending, result, b, hd, hb, hf⟩ | ⟨_, _, _, hf⟩ <;> rw [hf]
  rw [hd] at htakes
  have hok := BlockBuffer.flush_ok (b := ⟨pending, s⟩) (account.willing_file file)
    (fun _ h => account.flush_ok h) htakes
  rwa [hb] at hok

/-- If writing to the destination in force succeeds, so does delivering. -/
lemma deliver_ok (htakes : account.takes stream.destination.place s) (data : Bytes) :
    (stream.deliver outlets data s).1 = .ok () := by
  rcases deliver_cases outlets stream data s with
    ⟨path, file, pending, result, b, hd, hb, hf⟩ | ⟨result, t, _, hw, hf⟩ |
    ⟨writer, failure, hd, hready, hf⟩ <;> rw [hf]
  · rw [hd] at htakes
    have hok := BlockBuffer.writeAll_ok (b := ⟨pending, s⟩) (account.willing_file file)
      bufferCapacity data htakes
    rwa [hb] at hok
  · have hok := (account.willing _).writeAll_ok data htakes
    rwa [hw] at hok
  · rw [hd] at htakes
    rw [account.ready_ok htakes] at hready
    cases hready

/-! ### What a place holds -/

variable [DecidableEq φ] [DecidableEq ω] {place : Place φ ω}

/-- What a place has received and what is pending for it. -/
def holds (place : Place φ ω) (stream : NotifyStream φ ω) (s : σ) : Bytes :=
  account.received place s ++
    if stream.destination.place = place then stream.destination.pending else []

/-- The destination in force holds what is pending as well. -/
lemma holds_of_eq (h : stream.destination.place = place) :
    holds account place stream s = account.received place s ++ stream.destination.pending := by
  rw [holds, if_pos h]

/-- All other places hold what they have received. -/
lemma holds_of_ne (h : stream.destination.place ≠ place) :
    holds account place stream s = account.received place s := by
  rw [holds, if_neg h, List.append_nil]

/-- If nothing is pending, all places hold what they have received. -/
lemma holds_of_nil (h : stream.destination.pending = []) :
    holds account place stream s = account.received place s := by
  rw [holds, h, ite_self, List.append_nil]

/-- What is done at the destination in force changes nothing in what another place holds. -/
lemma holds_eq_of_ne (hne : stream.destination.place ≠ place)
    (h : StaysPut outlets stream s stream' s') :
    holds account place stream' s' = holds account place stream s := by
  rw [holds_of_ne account hne, holds_of_ne account (h.place ▸ hne)]
  exact account.received_of_reaches (Ne.symm hne) h.reaches

/-! ### Flushing and replacing -/

/-- Flushing changes nothing in what any place holds, however it ends. -/
lemma holds_flushOwned (hsound : Sound account stream s) (hkeeps : account.keeps place s)
    {result : Except Failure Unit} (h : stream.flushOwned outlets s = (result, stream', s')) :
    holds account place stream' s' = holds account place stream s := by
  by_cases hplace : stream.destination.place = place
  · rcases hd : stream.destination with _ | writer | ⟨path, file, pending⟩
    · simp only [flushOwned, hd, Prod.mk.injEq] at h
      rw [h.2.1, h.2.2]
    · simp only [flushOwned, hd, Prod.mk.injEq] at h
      rw [h.2.1, h.2.2]
    · obtain rfl : .file file = place := by rw [← hplace, hd]; rfl
      have hfit : account.Fit (.file file) s :=
        ⟨hkeeps, fun other hother => hsound other (hplace.trans hother)⟩
      obtain ⟨pending', hd', hreceived, _⟩ := received_flushOwned account hd hfit h
      rw [holds_of_eq account hplace, holds_of_eq account (by rw [hd']; rfl), hd, hd']
      exact hreceived
  · exact holds_eq_of_ne account hplace (flushOwned_staysPut h)

/-- Replacing the destination by one for which nothing is pending changes nothing in what any place
holds, whether it fails or not. -/
lemma holds_replace (hsound : Sound account stream s) (hkeeps : account.keeps place s)
    {destination : Destination φ ω} (hnil : destination.pending = []) (event : Event) :
    holds account place (stream.replace outlets destination event s).2.1
      (stream.replace outlets destination event s).2.2 = holds account place stream s := by
  rcases replace_cases outlets stream destination event s with
    ⟨failure, flushed, t, hf, hr⟩ | ⟨flushed, t, hf, hr⟩ <;> rw [hr]
  · exact holds_flushOwned account hsound hkeeps hf
  · rw [← holds_flushOwned account hsound hkeeps hf,
      holds_of_nil account (pending_of_flushOwned_ok hf), holds_of_nil account hnil]
    exact account.received_record place event t

/-- Opening a file changes nothing in what any place holds, whether it fails or not. -/
lemma holds_openFile (hsound : Sound account stream s) (hkeeps : account.keeps place s)
    (path : Bytes) :
    holds account place (stream.openFile outlets path s).2.1 (stream.openFile outlets path s).2.2 =
      holds account place stream s := by
  have hopened : ∀ {result t}, outlets.openFile path s = (result, t) →
      holds account place stream t = holds account place stream s := by
    intro result t ho
    have hreceived := account.received_openFile place path s
    rw [ho] at hreceived
    rw [holds, hreceived, ← holds]
  rcases openFile_cases outlets stream path s with
    ⟨_, h⟩ | ⟨failure, t, _, ho, h⟩ | ⟨file, t, _, ho, h⟩ <;> rw [h]
  · exact hopened ho
  · have hreaches := Outlets.Reaches.openFile ho
    rw [← hopened ho]
    exact holds_replace account (hsound.of_place_eq rfl hreaches)
      (account.keeps_of_reaches hreaches hkeeps) rfl _

/-! ### Writing -/

/-- Bytes that are delivered with success are added to what the destination in force holds, and to
nothing else. -/
lemma holds_deliver (hsound : Sound account stream s) (hkeeps : account.keeps place s)
    {data : Bytes} (h : stream.deliver outlets data s = (.ok (), stream', s')) :
    holds account place stream' s' = holds account place stream s ++
      if stream.destination.place = place then data else [] := by
  have hput := deliver_staysPut h
  by_cases hplace : stream.destination.place = place
  · have hfit : account.Fit place s :=
      ⟨hkeeps, fun file hfile => hsound file (hplace.trans hfile)⟩
    rw [if_pos hplace]
    rcases deliver_cases outlets stream data s with
      ⟨path, file, pending, result, b, hd, hb, hf⟩ | ⟨result, t, hnil, hw, hf⟩ | ⟨_, _, _, _, hf⟩ <;>
      rw [hf, Prod.mk.injEq, Prod.mk.injEq] at h <;> obtain ⟨hr, rfl, rfl⟩ := h
    · obtain rfl : .file file = place := by rw [← hplace, hd]; rfl
      obtain ⟨taken, _, hgiven, hall⟩ := BlockBuffer.given_writeAll (b := ⟨pending, s⟩)
        (account.delivers_file file) bufferCapacity data hfit
      rw [hb] at hgiven hall
      rw [holds_of_eq account hplace, hd, ← hall hr]
      refine (holds_of_eq account (by rfl)).trans ?_
      exact hgiven
    · rw [holds_of_nil account hnil, holds_of_nil account hnil]
      rw [hplace, hr] at hw
      exact (account.delivers place).content_writeAll_ok hfit hw
    · cases hr
  · rw [if_neg hplace, List.append_nil]
    exact holds_eq_of_ne account hplace hput

/-- A text that is written with success is added to what the destination in force holds, if the stream
is verbose, and to nothing else. -/
lemma holds_emit (hsound : Sound account stream s) (hkeeps : account.keeps place s) (text : String)
    (hok : stream.verbose = true → (stream.deliver outlets (utf8 text) s).1 = .ok ()) :
    holds account place (stream.emit outlets text s).2.1 (stream.emit outlets text s).2.2 =
      holds account place stream s ++
        if stream.verbose = true ∧ stream.destination.place = place then utf8 text else [] := by
  by_cases hverbose : stream.verbose = true
  · have hdelivered := hok hverbose
    rcases hd : stream.deliver outlets (utf8 text) s with ⟨result, stream', s'⟩
    rw [hd] at hdelivered
    simp only [emit, hd, hverbose, true_and, if_true]
    exact holds_deliver account hsound hkeeps (hdelivered ▸ hd)
  · rw [emit, if_neg hverbose, if_neg fun h => hverbose h.1, List.append_nil]

/-- If a text can be written by a verbose stream, its length is reported, and it has been added to what the
destination in force holds, and to nothing else. -/
lemma holds_of_emit_ok (hsound : Sound account stream s) {text : String} {count : Nat}
    (hverbose : stream.verbose = true) (hok : (stream.emit outlets text s).1 = .ok count) :
    count = (utf8 text).length ∧ ∀ place, account.keeps place s →
      holds account place (stream.emit outlets text s).2.1 (stream.emit outlets text s).2.2 =
        holds account place stream s ++
          if stream.destination.place = place then utf8 text else [] := by
  obtain ⟨hdelivered, hcount⟩ := (emit_ok_iff hverbose).mp hok
  refine ⟨hcount, fun place hkeeps => ?_⟩
  simpa only [hverbose, true_and] using holds_emit account hsound hkeeps text fun _ => hdelivered

/-- Giving up a file that is flushed with success changes nothing in what any place holds. -/
lemma holds_close (hsound : Sound account stream s) (hkeeps : account.keeps place s)
    (hok : (stream.flushOwned outlets s).1 = .ok ()) :
    holds account place (stream.close outlets s).2.1 (stream.close outlets s).2.2 =
      holds account place stream s := by
  rcases close_cases outlets stream s with
    ⟨path, file, result, flushed, t, u, _, hf, _, hu, h⟩ | ⟨_, h⟩ <;> rw [h]
  · rw [hf] at hok
    obtain rfl : result = .ok () := hok
    have hnil := pending_of_flushOwned_ok hf
    rw [← holds_flushOwned account hsound hkeeps hf, holds_of_nil account hnil,
      BlockBuffer.release_of_nil hnil, hu rfl, holds_of_nil account rfl]
    exact account.received_record place (.closed path) t
  · simp only [holds, account.received_record]

/-- Once a file that is flushed with success is given up, every place has received what it held. -/
lemma received_close (hsound : Sound account stream s) (hkeeps : account.keeps place s)
    (hok : (stream.flushOwned outlets s).1 = .ok ()) :
    account.received place (stream.close outlets s).2.2 = holds account place stream s := by
  rw [← holds_close account hsound hkeeps hok]
  refine (holds_of_nil account ?_).symm
  rcases close_cases outlets stream s with ⟨_, _, _, _, _, _, _, _, _, _, h⟩ | ⟨hplace, h⟩ <;> rw [h]
  · rfl
  · rcases hd : stream.destination with _ | writer | ⟨path, file, pending⟩
    · rfl
    · rfl
    · exact absurd (by rw [hd]; rfl) (hplace file)

/-- At the end of a stream that is flushed with success every place has received what it held. -/
lemma received_giveUp (hsound : Sound account stream s) (hkeeps : account.keeps place s)
    (hok : (stream.flushOwned outlets s).1 = .ok ()) :
    account.received place (stream.giveUp outlets s) = holds account place stream s := by
  rcases hf : stream.flushOwned outlets s with ⟨result, flushed, t⟩
  rw [hf] at hok
  obtain rfl : result = .ok () := hok
  rw [giveUp_of_flushOwned_ok hf, ← holds_flushOwned account hsound hkeeps hf,
    holds_of_nil account (pending_of_flushOwned_ok hf)]

end PrefetchInfo.NotifyStream
