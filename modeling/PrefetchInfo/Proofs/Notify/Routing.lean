import PrefetchInfo.Proofs.Notify.Failure

/-!
# Every text goes to one place

Where a text goes can be told from the calls made so far and from which files could be opened, without
looking at what a stream keeps: a `Routing` is whether texts are written and where, and `emissions` are
the texts of a history of calls, each with the one place it goes to. A notify stream whose writes succeed
delivers just that: in the end, each place has received the texts that go to it, each once and in the
order of the calls.
-/

namespace PrefetchInfo

namespace Notify

variable {σ φ ω : Type}

/-! ### Where texts go -/

/-- Whether texts are written, and where. -/
structure Routing (φ ω : Type) where
  /-- Whether texts are written at all. -/
  verbose : Bool
  /-- Where they are written. -/
  place : Place φ ω
  deriving DecidableEq, Repr

namespace Routing

/-- At first nothing is written; if it were, it would go to standard error. -/
def start : Routing φ ω :=
  ⟨false, .standardError⟩

/-- Where texts go after a call, which opened the given file if it opened one. -/
def after (routing : Routing φ ω) : Call ω × Option φ → Routing φ ω
  | (.setVerbose verbose, _) => { routing with verbose }
  | (.redirect (some writer), _) => { routing with place := .writer writer }
  | (.redirect none, _) => { routing with place := .standardError }
  | (.openFile _, some file) => { routing with place := .file file }
  | (.openFile _, none) => routing
  | (.close, _) =>
    match routing.place with
    | .file _ => { routing with place := .standardError }
    | _ => routing
  | (_, _) => routing

/-- The text of a call, if it is to be written, and where it goes. -/
def emission (routing : Routing φ ω) (call : Call ω) : List (Place φ ω × Bytes) :=
  match call.text? with
  | some text => if routing.verbose then [(routing.place, utf8 text)] else []
  | none => []

/-- The texts of calls in their order, each with the place it goes to. -/
def emissions : Routing φ ω → List (Call ω × Option φ) → List (Place φ ω × Bytes)
  | _, [] => []
  | routing, step :: steps => routing.emission step.1 ++ (routing.after step).emissions steps

/-- The places where texts go before each call and after the last one. -/
def places : Routing φ ω → List (Call ω × Option φ) → List (Place φ ω)
  | routing, [] => [routing.place]
  | routing, step :: steps => routing.place :: (routing.after step).places steps

end Routing

/-- All that goes to one place. -/
def textsFor [DecidableEq φ] [DecidableEq ω] (place : Place φ ω)
    (emissions : List (Place φ ω × Bytes)) : Bytes :=
  (emissions.filter (·.1 = place)).flatMap (·.2)

/-- Texts one after the other go to a place one after the other. -/
lemma textsFor_append [DecidableEq φ] [DecidableEq ω] (place : Place φ ω)
    (emissions later : List (Place φ ω × Bytes)) :
    textsFor place (emissions ++ later) = textsFor place emissions ++ textsFor place later := by
  simp only [textsFor, List.filter_append, List.flatMap_append]

/-- The file that a call opens in a state of the world, if it opens one. -/
def Outlets.opened (outlets : Outlets σ φ ω) (call : Call ω) (s : σ) : Option φ :=
  match call with
  | .openFile path => if path = [] then none else (outlets.openFile path s).1.toOption
  | _ => none

end Notify

namespace NotifyStream

open Notify

variable {σ φ ω : Type} {outlets : Outlets σ φ ω} {stream stream' : NotifyStream φ ω} {s s' : σ}
  {routing : Routing φ ω}

/-- The calls made on a stream, each with the file it opened. -/
def history (outlets : Outlets σ φ ω) (stream : NotifyStream φ ω) (calls : List (Call ω)) (s : σ) :
    List (Call ω × Option φ) :=
  match calls with
  | [] => []
  | call :: calls =>
    let (_, stream', s') := stream.perform outlets call s
    (call, outlets.opened call s) :: stream'.history outlets calls s'

/-- A stream follows a routing if it writes when and where the routing says. -/
def Follows (stream : NotifyStream φ ω) (routing : Routing φ ω) : Prop :=
  stream.verbose = routing.verbose ∧ stream.destination.place = routing.place

/-! ### Calls during which no write fails -/

/-- An answer does not tell of a write that failed: if it is a failure, then no file could be opened. -/
def NoWriteFailed {α : Type} (answer : Except ErrorChain α) : Prop :=
  ∀ chain, answer = .error chain →
    chain.kind = .argument .invalidValue ∨ chain.kind = .inOut .openFailed

/-- What an answer tells beyond its failure does not matter. -/
lemma noWriteFailed_map {α β : Type} {answer : Except ErrorChain α} {f : α → β} :
    NoWriteFailed (answer.map f) ↔ NoWriteFailed answer := by
  cases answer with
  | ok value => exact ⟨fun _ _ h => (by cases h), fun _ _ h => (by cases h)⟩
  | error chain => exact ⟨fun h other hother => h other (by cases hother; rfl),
      fun h other hother => h other (by cases hother; rfl)⟩

/-- No write fails during a call: its answer tells of none, and a file that is given up is flushed with
success. -/
def Unhindered (outlets : Outlets σ φ ω) (stream : NotifyStream φ ω) (call : Call ω) (s : σ) : Prop :=
  NoWriteFailed (stream.perform outlets call s).1 ∧
  (call = .close → (stream.flushOwned outlets s).1 = .ok ())

/-- No write fails during calls and at the end of the stream after them. -/
def RunsUnhindered (outlets : Outlets σ φ ω) (stream : NotifyStream φ ω) (calls : List (Call ω))
    (s : σ) : Prop :=
  match calls with
  | [] => (stream.flushOwned outlets s).1 = .ok ()
  | call :: calls =>
    stream.Unhindered outlets call s ∧
      (stream.perform outlets call s).2.1.RunsUnhindered outlets calls
        (stream.perform outlets call s).2.2

/-- If replacing the destination fails at no write, the flush before it succeeds. -/
lemma flushOwned_ok_of_replace {destination : Destination φ ω} {event : Event}
    (h : NoWriteFailed (stream.replace outlets destination event s).1) :
    (stream.flushOwned outlets s).1 = .ok () := by
  rcases hr : stream.replace outlets destination event s with ⟨chain | _, stream', s'⟩
  · obtain ⟨hkind, _⟩ := flushOwned_of_replace_error hr
    rw [hr] at h
    rcases h chain rfl with h | h <;> exact absurd (hkind.symm.trans h) (by decide)
  · rcases replace_cases outlets stream destination event s with
      ⟨_, _, _, _, hf⟩ | ⟨flushed, t, hf, _⟩
    · rw [hr] at hf
      cases hf
    · rw [hf]

/-- If a text that is to be written fails at no write, it is delivered with success. -/
lemma deliver_ok_of_emit {text : String} (hverbose : stream.verbose = true)
    (h : NoWriteFailed (stream.emit outlets text s).1) :
    (stream.deliver outlets (utf8 text) s).1 = .ok () := by
  rcases he : stream.emit outlets text s with ⟨chain | count, stream', s'⟩
  · obtain ⟨hkind, _⟩ := deliver_of_emit_error he
    rw [he] at h
    rcases h chain rfl with h | h <;> exact absurd (hkind.symm.trans h) (by decide)
  · exact deliver_of_emit_ok hverbose he

/-- After a flush that succeeds the destination is replaced. -/
lemma replace_of_flushOwned_ok (hok : (stream.flushOwned outlets s).1 = .ok ())
    (destination : Destination φ ω) (event : Event) :
    (stream.replace outlets destination event s).2.1 = ⟨stream.verbose, destination⟩ := by
  rcases replace_cases outlets stream destination event s with
    ⟨failure, flushed, t, hf, hr⟩ | ⟨flushed, t, hf, hr⟩ <;> rw [hf] at hok <;> rw [hr]
  · cases hok
  · rw [← (flushOwned_staysPut hf).verbose]

/-- Where writing succeeds, no write fails during a call. -/
lemma unhindered_of_takes (account : outlets.Account)
    (htakes : account.takes stream.destination.place s) (call : Call ω) :
    stream.Unhindered outlets call s := by
  refine ⟨fun chain hchain => ?_, fun _ => flushOwned_ok account htakes⟩
  rcases perform_error_cases (Prod.ext hchain rfl) with
    ⟨hkind, _, _⟩ | ⟨hkind, _, _⟩ | ⟨_, failure, t, ht, hf⟩ | ⟨_, failure, data, hd⟩
  · exact .inl hkind
  · exact .inr hkind
  · obtain ⟨hreaches, _⟩ := received_before_flush account ht
    have hok := flushOwned_ok account (account.takes_of_reaches hreaches htakes)
    rw [hf] at hok
    cases hok
  · have hok := deliver_ok account htakes data
    rw [hd] at hok
    cases hok

/-! ### A single call -/

/-- A text does not change where texts go. -/
lemma after_of_text {call : Call ω} {text : String} (h : call.text? = some text) (file : Option φ) :
    routing.after (call, file) = routing := by
  cases call <;> cases h <;> rfl

/-- Giving up a file that is not there does not change where texts go. -/
lemma after_close (h : ∀ file, routing.place ≠ .file file) :
    routing.after (.close, none) = routing := by
  rcases routing with ⟨verbose, _ | writer | file⟩
  · rfl
  · rfl
  · exact absurd rfl (h file)

/-- A stream that writes where the routing says does so after every call. -/
lemma follows_perform (hfollows : Follows stream routing) {call : Call ω}
    (hfree : stream.Unhindered outlets call s) :
    Follows (stream.perform outlets call s).2.1 (routing.after (call, outlets.opened call s)) := by
  obtain ⟨hverbose, hplace⟩ := hfollows
  obtain ⟨hanswer, _⟩ := hfree
  revert hanswer
  refine perform_cases (P := fun call result => NoWriteFailed result.1 →
    Follows result.2.1 (routing.after (call, outlets.opened call s))) ?_ ?_ ?_ ?_ ?_ call
  · exact fun _ _ => ⟨rfl, hplace⟩
  · intro writer event hanswer
    rw [replace_of_flushOwned_ok (flushOwned_ok_of_replace hanswer)]
    cases writer <;> exact ⟨hverbose, rfl⟩
  · intro path hanswer
    replace hanswer := noWriteFailed_map.mp hanswer
    rcases openFile_cases outlets stream path s with
      ⟨hpath, h⟩ | ⟨failure, t, hpath, ho, h⟩ | ⟨file, t, hpath, ho, h⟩ <;> rw [h] at hanswer ⊢
    · simp only [Outlets.opened, if_pos hpath]
      exact ⟨hverbose, hplace⟩
    · simp only [Outlets.opened, if_neg hpath, ho]
      exact ⟨hverbose, hplace⟩
    · simp only [Outlets.opened, if_neg hpath, ho]
      rw [replace_of_flushOwned_ok (flushOwned_ok_of_replace (noWriteFailed_map.mp hanswer))]
      exact ⟨hverbose, rfl⟩
  · intro _
    rcases close_cases outlets stream s with
      ⟨path, file, _, _, _, _, hfile, _, _, _, h⟩ | ⟨hfile, h⟩ <;> rw [h]
    · simp only [Routing.after, ← hplace, hfile]
      exact ⟨hverbose, rfl⟩
    · simp only [Outlets.opened]
      rw [after_close (hplace ▸ hfile)]
      exact ⟨hverbose, hplace⟩
  · intro call text htext _
    have hput := emit_staysPut (Prod.eta (stream.emit outlets text s)).symm
    rw [after_of_text htext]
    exact ⟨hput.verbose.trans hverbose, hput.place.trans hplace⟩

variable [DecidableEq φ] [DecidableEq ω] {place : Place φ ω} (account : outlets.Account)

/-- What is to be written at a place goes there, and nothing else does. -/
lemma textsFor_emission {call : Call ω} {text : String} (h : call.text? = some text) :
    textsFor place (routing.emission call) =
      if routing.verbose = true ∧ routing.place = place then utf8 text else [] := by
  simp only [Routing.emission, h]
  by_cases hverbose : routing.verbose = true <;> by_cases hplace : routing.place = place <;>
    simp [textsFor, hverbose, hplace]

/-- A call during which no write fails adds to what a place holds what the routing sends there. -/
lemma holds_perform (hfollows : Follows stream routing) (hsound : Sound account stream s)
    (hkeeps : account.keeps place s) {call : Call ω} (hfree : stream.Unhindered outlets call s) :
    holds account place (stream.perform outlets call s).2.1 (stream.perform outlets call s).2.2 =
      holds account place stream s ++ textsFor place (routing.emission call) := by
  obtain ⟨hverbose, hplace⟩ := hfollows
  obtain ⟨hanswer, hclose⟩ := hfree
  have hnone : ∀ {call}, call.text? = none → ∀ bytes : Bytes,
      bytes = bytes ++ textsFor place (routing.emission call) := by
    intro call htext bytes
    simp only [Routing.emission, htext, textsFor, List.filter_nil, List.flatMap_nil,
      List.append_nil]
  revert hanswer hclose
  refine perform_cases (P := fun call result => NoWriteFailed result.1 →
    (call = .close → (stream.flushOwned outlets s).1 = .ok ()) →
    holds account place result.2.1 result.2.2 =
      holds account place stream s ++ textsFor place (routing.emission call)) ?_ ?_ ?_ ?_ ?_ call
  · exact fun _ _ _ => hnone rfl _
  · intro writer event _ _
    rw [holds_replace account hsound hkeeps (by cases writer <;> rfl) event]
    exact hnone rfl _
  · intro path _ _
    rw [holds_openFile account hsound hkeeps path]
    exact hnone rfl _
  · intro _ hclose
    rw [holds_close account hsound hkeeps (hclose rfl)]
    exact hnone rfl _
  · intro call text htext hanswer _
    rw [textsFor_emission htext, ← hverbose, ← hplace]
    exact holds_emit account hsound hkeeps text fun h =>
      deliver_ok_of_emit h (noWriteFailed_map.mp hanswer)

/-! ### A whole run -/

/-- From a stream that follows a routing, calls during which no write fails and the end of the stream
add to what a place holds all that the routing sends there. -/
lemma received_run (hfollows : Follows stream routing) {calls : List (Call ω)}
    (hfree : stream.RunsUnhindered outlets calls s) (hsound : Sound account stream s)
    (hkeeps : account.keeps place s) :
    account.received place
        ((stream.run outlets calls s).1.giveUp outlets (stream.run outlets calls s).2) =
      holds account place stream s ++
        textsFor place (routing.emissions (stream.history outlets calls s)) := by
  -- The stream follows its routing and its file exists before each call; both hold again after it.
  induction calls generalizing stream routing s with
  | nil => exact (received_giveUp account hsound hkeeps hfree).trans (List.append_nil _).symm
  | cons call calls ih =>
    have hlater := ih (follows_perform hfollows hfree.1) hfree.2 (sound_perform account hsound call)
      (account.keeps_of_reaches (reaches_perform outlets stream call s) hkeeps)
    rw [holds_perform account hfollows hsound hkeeps hfree.1, List.append_assoc,
      ← textsFor_append] at hlater
    exact hlater

omit [DecidableEq φ] [DecidableEq ω] in
/-- Where writing succeeds at each destination, no write fails during calls. -/
lemma runsUnhindered_of_takes (hfollows : Follows stream routing) {calls : List (Call ω)}
    (htakes : ∀ place ∈ routing.places (stream.history outlets calls s), account.takes place s) :
    stream.RunsUnhindered outlets calls s := by
  induction calls generalizing stream routing s with
  | nil =>
    have hlast := htakes routing.place (List.mem_singleton.mpr rfl)
    exact flushOwned_ok account (hfollows.2 ▸ hlast)
  | cons call calls ih =>
    have hhere := htakes routing.place (List.mem_cons_self ..)
    have hfirst := unhindered_of_takes account (hfollows.2 ▸ hhere) call
    refine ⟨hfirst, ih (follows_perform hfollows hfirst) fun later hmem => ?_⟩
    exact account.takes_of_reaches (reaches_perform outlets stream call s)
      (htakes later (List.mem_cons_of_mem _ hmem))

/-- **Every text goes to one place.**  When a new stream was used and given up and no write failed, a
place that keeps what it takes has received what it had received before and then the texts that were
written while it was the destination, each once and in the order of the calls. No write fails if writing
to each of the destinations succeeds. -/
theorem routes_each_text_once (calls : List (Call ω)) (s : σ) :
    (silent.RunsUnhindered outlets calls s → ∀ place : Place φ ω, account.keeps place s →
      account.received place
          ((silent.run outlets calls s).1.giveUp outlets (silent.run outlets calls s).2) =
        account.received place s ++
          textsFor place (Routing.start.emissions (silent.history outlets calls s))) ∧
    ((∀ place ∈ Routing.start.places (silent.history outlets calls s), account.takes place s) →
      silent.RunsUnhindered outlets calls s) := by
  have hstart : Follows (silent : NotifyStream φ ω) .start := ⟨rfl, rfl⟩
  refine ⟨fun hfree place hkeeps => ?_, fun htakes => ?_⟩
  · have hnew : Sound account silent s := fun _ hfile => by cases hfile
    have hrun := received_run account hstart hfree hnew hkeeps
    rwa [holds_of_nil account rfl] at hrun
  · exact runsUnhindered_of_takes account hstart htakes

/-- A file that is opened again, under another path, while a text for it is pending receives each text
once, behind what was in it, and nothing of what goes to the writer that follows. -/
theorem reopened_file_gets_each_text_once :
    ∃ (calls : List (Call String)) (world : World),
      calls = [.setVerbose true, .openFile (utf8 "log"), .print "a", .openFile (utf8 "./log"),
        .print "b", .redirect (some "w"), .print "c"] ∧
      World.received (.file [utf8 "log"]) world = utf8 "x" ∧
      World.received (.file [utf8 "log"])
        ((silent.run World.outlets calls world).1.giveUp World.outlets
          (silent.run World.outlets calls world).2) = utf8 "xab" := by
  let calls : List (Call String) := [.setVerbose true, .openFile (utf8 "log"), .print "a",
    .openFile (utf8 "./log"), .print "b", .redirect (some "w"), .print "c"]
  let world : World := .ofFiles ⟨[], [([utf8 "log"], .file (utf8 "x"))]⟩
  have hhistory : (silent.history World.outlets calls world : List (Call String × Option Route)) =
      [(.setVerbose true, none), (.openFile (utf8 "log"), some [utf8 "log"]), (.print "a", none),
        (.openFile (utf8 "./log"), some [utf8 "log"]), (.print "b", none),
        (.redirect (some "w"), none), (.print "c", none)] := by cbv
  have htakes : ∀ place ∈ Routing.start.places (silent.history World.outlets calls world),
      World.account.takes place world := by
    have hplaces : ∀ place ∈ Routing.start.places (silent.history World.outlets calls world),
        place = .standardError ∨ place = .file [utf8 "log"] ∨ place = .writer "w" := by
      rw [hhistory]
      decide
    intro place hmem
    rcases hplaces place hmem with rfl | rfl | rfl
    · exact trivial
    · exact fun hfull => by cases hfull
    · exact ⟨rfl, rfl, fun h => by cases h⟩
  have hkeeps : World.account.keeps (.file [utf8 "log"]) world := by
    intro entry hentry
    exact .inl ⟨utf8 "x", (Option.some.inj hentry).symm⟩
  refine ⟨calls, world, rfl, rfl, ?_⟩
  obtain ⟨hreceived, hfree⟩ := routes_each_text_once World.account calls world
  have hrun := hreceived (hfree htakes) (.file [utf8 "log"]) hkeeps
  rw [hhistory] at hrun
  exact hrun.trans (by cbv)

end NotifyStream

end PrefetchInfo
