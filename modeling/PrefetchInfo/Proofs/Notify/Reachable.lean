import PrefetchInfo.Proofs.Notify.Calls

/-!
# Reachable streams

Every call does nothing to the world but moves that an account knows of, and a file that a stream owns
goes on existing. So in every state that calls on a new stream can lead to, the file that is owned
exists.
-/

namespace PrefetchInfo.NotifyStream

open Notify

variable {σ φ ω : Type} {outlets : Outlets σ φ ω} {stream stream' : NotifyStream φ ω} {s s' : σ}

/-! ### Calls are moves of the world -/

/-- Replacing the destination is moves of the world. -/
lemma reaches_replace (outlets : Outlets σ φ ω) (stream : NotifyStream φ ω)
    (destination : Destination φ ω) (event : Event) (s : σ) :
    outlets.Reaches s (stream.replace outlets destination event s).2.2 := by
  rcases replace_cases outlets stream destination event s with
    ⟨failure, flushed, t, hf, hr⟩ | ⟨flushed, t, hf, hr⟩ <;> rw [hr]
  · exact .of_device _ (flushOwned_staysPut hf).reaches
  · exact (Outlets.Reaches.of_device _ (flushOwned_staysPut hf).reaches).trans (.record outlets event t)

/-- Opening a file is moves of the world. -/
lemma reaches_openFile (outlets : Outlets σ φ ω) (stream : NotifyStream φ ω) (path : Bytes) (s : σ) :
    outlets.Reaches s (stream.openFile outlets path s).2.2 := by
  rcases openFile_cases outlets stream path s with
    ⟨_, h⟩ | ⟨failure, t, _, ho, h⟩ | ⟨file, t, _, ho, h⟩ <;> rw [h]
  · exact .refl outlets s
  · exact .openFile ho
  · exact (Outlets.Reaches.openFile ho).trans (reaches_replace outlets stream _ _ t)

/-- Giving up a file is moves of the world. -/
lemma reaches_close (outlets : Outlets σ φ ω) (stream : NotifyStream φ ω) (s : σ) :
    outlets.Reaches s (stream.close outlets s).2.2 := by
  rcases close_cases outlets stream s with
    ⟨path, file, result, flushed, t, u, _, hf, htu, _, h⟩ | ⟨_, h⟩ <;> rw [h]
  · have hdrain := BlockBuffer.reaches_drain (outlets.file file) ⟨flushed.destination.pending, u⟩
    exact (Outlets.Reaches.of_device _ (flushOwned_staysPut hf).reaches).trans
      (htu.trans (.of_device (.file file) hdrain))
  · exact .record outlets _ s

/-- Every call is moves of the world. -/
lemma reaches_perform (outlets : Outlets σ φ ω) (stream : NotifyStream φ ω) (call : Call ω) (s : σ) :
    outlets.Reaches s (stream.perform outlets call s).2.2 := by
  refine perform_cases (P := fun _ result => outlets.Reaches s result.2.2) ?_ ?_ ?_ ?_ ?_ call
  · exact fun _ => .refl outlets s
  · exact fun writer event => reaches_replace outlets stream (.ofWriter writer) event s
  · exact fun path => reaches_openFile outlets stream path s
  · exact reaches_close outlets stream s
  · exact fun _ _ _ => .of_device _ (emit_staysPut rfl).reaches

/-! ### Reachable streams -/

/-- A stream and the world around it as calls on a new stream can leave them. -/
inductive Reachable (outlets : Outlets σ φ ω) : NotifyStream φ ω → σ → Prop where
  /-- A new stream, in whatever world. -/
  | new (s : σ) : Reachable outlets silent s
  /-- One more call, whatever it answers. -/
  | call {stream : NotifyStream φ ω} {s : σ} (h : Reachable outlets stream s) (call : Call ω) :
      Reachable outlets (stream.perform outlets call s).2.1 (stream.perform outlets call s).2.2

/-- Calls one after the other lead from reachable streams to reachable ones. -/
lemma Reachable.run (h : Reachable outlets stream s) (calls : List (Call ω)) :
    Reachable outlets (stream.run outlets calls s).1 (stream.run outlets calls s).2 := by
  induction calls generalizing stream s with
  | nil => exact h
  | cons call calls ih => exact ih (h.call call)

/-- The file that a stream owns, if it owns one, exists. -/
def Sound (account : outlets.Account) (stream : NotifyStream φ ω) (s : σ) : Prop :=
  ∀ file, stream.destination.place = .file file → account.present file s

variable (account : outlets.Account)

/-- The file that a stream owns goes on existing while its destination is the same. -/
lemma Sound.of_place_eq {account : outlets.Account} (h : Sound account stream s)
    (hplace : stream'.destination.place = stream.destination.place) (hs : outlets.Reaches s s') :
    Sound account stream' s' := by
  intro file hfile
  exact account.present_of_reaches hs (h file (hplace ▸ hfile))

/-- Replacing the destination by one that exists leaves a stream sound, whether it fails or not. -/
lemma sound_replace (h : Sound account stream s) {destination : Destination φ ω} {event : Event}
    (hd : ∀ file, destination.place = .file file → account.present file s) :
    Sound account (stream.replace outlets destination event s).2.1
      (stream.replace outlets destination event s).2.2 := by
  have hreaches := reaches_replace outlets stream destination event s
  rcases replace_cases outlets stream destination event s with
    ⟨failure, flushed, t, hf, hr⟩ | ⟨flushed, t, hf, hr⟩ <;> rw [hr] at hreaches ⊢
  · exact h.of_place_eq (flushOwned_staysPut hf).place hreaches
  · intro file hfile
    exact account.present_of_reaches hreaches (hd file hfile)

/-- Opening a file leaves a stream sound, whether it fails or not. -/
lemma sound_openFile (h : Sound account stream s) (path : Bytes) :
    Sound account (stream.openFile outlets path s).2.1 (stream.openFile outlets path s).2.2 := by
  rcases openFile_cases outlets stream path s with
    ⟨_, ho⟩ | ⟨failure, t, _, hopen, ho⟩ | ⟨file, t, _, hopen, ho⟩ <;> rw [ho]
  · exact h
  · exact h.of_place_eq rfl (.openFile hopen)
  · refine sound_replace account (h.of_place_eq rfl (.openFile hopen)) fun other hother => ?_
    cases hother
    exact account.present_openFile hopen

/-- Giving up a file leaves a stream sound. -/
lemma sound_close (h : Sound account stream s) :
    Sound account (stream.close outlets s).2.1 (stream.close outlets s).2.2 := by
  have hreaches := reaches_close outlets stream s
  rcases close_cases outlets stream s with
    ⟨_, _, _, _, _, _, _, _, _, _, hc⟩ | ⟨_, hc⟩ <;> rw [hc] at hreaches ⊢
  · intro file hfile
    cases hfile
  · exact h.of_place_eq rfl hreaches

/-- Every call leaves a sound stream sound. -/
lemma sound_perform (h : Sound account stream s) (call : Call ω) :
    Sound account (stream.perform outlets call s).2.1 (stream.perform outlets call s).2.2 := by
  refine perform_cases (P := fun _ result => Sound account result.2.1 result.2.2)
    ?_ ?_ ?_ ?_ ?_ call
  · exact fun _ => h
  · intro writer event
    refine sound_replace account h fun file hfile => ?_
    cases writer <;> cases hfile
  · exact sound_openFile account h
  · exact sound_close account h
  · intro _ text _
    have hput := emit_staysPut (Prod.eta (stream.emit outlets text s)).symm
    exact h.of_place_eq hput.place (.of_device _ hput.reaches)

/-- The file that a reachable stream owns exists. -/
theorem sound_of_reachable (h : Reachable outlets stream s) : Sound account stream s := by
  induction h with
  | new s => exact fun _ hfile => by cases hfile
  | call _ call ih => exact sound_perform account ih call

end PrefetchInfo.NotifyStream
