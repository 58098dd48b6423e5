import Mathlib.Data.List.Basic
import Mathlib.Data.Prod.Basic
import Mathlib.Data.Option.Basic
import PrefetchInfo.Proofs.Interrupt.Trapping

/-!
# No trapped interruption is swallowed

A process attaches and detaches handlers, one call after the other, and interruptions arrive whenever
they like, also between any two steps of a call. An interruption that is not trapped ends the process,
as the platform has it. One that is trapped is passed to one handler: that of the latest call to attach
which has begun, since such a call begins with publishing its handler. And a call that has ended leaves
either all interruptions trapped, with a handler, or none of them and without one.
-/

namespace PrefetchInfo.Trap

variable {η : Type}

/-! ### Processes -/

/-- A call on the trap, on a platform that may refuse to trap interruptions and always takes them
back. -/
inductive Call (η : Type) where
  /-- A handler is attached; the platform refuses to trap interruptions as given. -/
  | attach (refuses : Signal → Option Failure) (handler : η)
  /-- The handler is detached. -/
  | detach

/-- What a call comes to, and what developers are told. -/
abbrev Outcome := Except ErrorChain Unit × List Event

/-- The steps of a call. -/
def Call.routine [DecidableEq η] : Call η → Routine (Trap η) Outcome
  | attach refuses handler => Trap.attach (.releasing refuses) handler
  | detach => do
    let events ← Trap.detach .willing
    pure (.ok (), events)

/-- Something that happens in a process. -/
inductive Move (η : Type) where
  /-- A call begins, with its first step. -/
  | begin (call : Call η)
  /-- The call in progress takes its next step. -/
  | advance
  /-- An interruption arrives. -/
  | interrupt (signal : Signal)

/-- The handler published last, given the one that was published last before something happened. -/
def Move.publishes (latest : Option η) : Move η → Option η
  | begin (.attach _ handler) => some handler
  | _ => latest

/-- The handler published last in a run: that of the latest call to attach that has begun. -/
def latest (moves : List (Move η)) : Option η :=
  moves.foldl Move.publishes none

/-- The interruptions that arrive in a run, each with the handler published last when it arrives. -/
def arrivals (latest : Option η) : List (Move η) → List (Signal × Option η)
  | [] => []
  | .interrupt signal :: moves => (signal, latest) :: arrivals latest moves
  | move :: moves => arrivals (move.publishes latest) moves

/-- A process that attaches and detaches handlers. -/
structure Process (η : Type) where
  /-- The state of the trap. -/
  trap : Trap η
  /-- What is left of the latest call. -/
  rest : Routine (Trap η) Outcome
  /-- The invocations of handlers so far, in order. -/
  invocations : List (Signal × η)

namespace Process

/-- A process that has just started. -/
def start : Process η :=
  ⟨.unset, pure (.ok (), []), []⟩

variable [DecidableEq η]

/-- The process after something has happened; none if it cannot happen, or if it ends the process. A call
begins only after the one before has ended. -/
def move (process : Process η) : Move η → Option (Process η)
  | .begin call =>
    match process.rest with
    | .finished _ =>
      let (rest, trap) := call.routine.advance process.trap
      some { process with rest, trap }
    | .step _ _ => none
  | .advance =>
    let (rest, trap) := process.rest.advance process.trap
    some { process with rest, trap }
  | .interrupt signal =>
    match process.trap.arrive signal.raw with
    | (.ends, _) => none
    | (.handled signal handler, trap) =>
      some { process with trap, invocations := process.invocations ++ handler.toList.map (signal, ·) }
    | (_, trap) => some { process with trap }

/-- The process after a run, unless it was ended. -/
def run (process : Process η) (moves : List (Move η)) : Option (Process η) :=
  moves.foldlM move process

end Process

/-! ### One move -/

/-- An interruption of a trapped kind is passed to the handler in its place, if it is trapped at the
moment, and ends the process otherwise. The trap stays as it is. -/
lemma arrive_raw (trap : Trap η) (signal : Signal) :
    trap.arrive signal.raw =
      (if trap.trapped signal then .handled signal trap.handler else .ends, trap) := by
  have hraw : Signal.ofRaw? signal.raw = some signal := by
    cases signal <;> decide
  simp only [arrive, dispatch, hraw, Option.map_some]

/-- How a call has ended: the trap is settled, and its handler, if it has one, is the one published last;
if the call has failed, all is as it was before. -/
def Ended (latest : Option η) (before : Trap η) (outcome : Outcome) (trap : Trap η) : Prop :=
  trap.Settled ∧ (∀ handler, trap.handler = some handler → latest = some handler) ∧
    ∀ chain, outcome.1 = .error chain → trap = before

/-- A process whose latest call began when the trap was as in `before`: whatever is trapped finds the
handler published last as long as the call lasts, and it ends as it should. -/
def Process.Sound (latest : Option η) (before : Trap η) (process : Process η) : Prop :=
  process.rest.Throughout (Finds latest) (Ended latest before) process.trap

/-- A process that has just started is sound. -/
lemma Process.sound_start : Process.Sound none .unset (start : Process η) := by
  have hreleased : ∀ signal, (unset : Trap η).trapped signal = false := fun _ => rfl
  refine ⟨finds_of_released hreleased, ⟨rfl, hreleased⟩, ?_, fun _ _ => rfl⟩
  intro handler hhandler
  cases hhandler

variable [DecidableEq η]

namespace Process

variable {process after : Process η} {published : Option η} {before : Trap η}

/-- A call that begins when the trap is settled is sound. -/
lemma sound_begin {call : Call η} (hsettled : process.trap.Settled)
    (hpublished : ∀ handler, process.trap.handler = some handler → published = some handler)
    (h : process.move (.begin call) = some after) :
    Sound ((Move.begin call).publishes published) process.trap after := by
  rcases hrest : process.rest with outcome | ⟨effect, next⟩
  · simp only [move, hrest, Option.some.injEq] at h
    subst h
    cases call with
    | attach refuses handler =>
      have hreleases : ∀ signal, (Platform.releasing refuses).refusesRelease signal = none :=
        fun _ => rfl
      have hattach := throughout_attach hreleases handler hsettled
      refine hattach.mono (fun _ hs => hs) ?_
      rintro outcome s - (⟨hok, hs, hhandler⟩ | ⟨-, rfl, hnone⟩)
      · refine ⟨hs, fun other hother => hhandler.symm.trans hother, fun chain hchain => ?_⟩
        rw [hok] at hchain
        cases hchain
      · refine ⟨hsettled, fun other hother => ?_, fun _ _ => rfl⟩
        rw [hnone] at hother
        cases hother
    | detach =>
      have hreleases : ∀ signal, Platform.willing.refusesRelease signal = none := fun _ => rfl
      have hdetach := throughout_detach hreleases hsettled hpublished
      change Routine.Throughout _ _ (((Trap.detach .willing).advance process.trap).1 >>= _) _
      rw [Routine.throughout_bind]
      refine hdetach.mono (fun _ hs => hs) ?_
      rintro events s hs ⟨hs', hnone⟩
      refine ⟨hs, hs', fun other hother => ?_, fun chain hchain => nomatch hchain⟩
      rw [hnone] at hother
      cases hother
  · simp only [move, hrest] at h
    cases h

/-- An interruption that is trapped while a process is sound is passed to the handler published last, and
changes nothing else. -/
lemma Sound.move_interrupt (hsound : Sound published before process) {signal : Signal}
    (htrapped : process.trap.trapped signal = true) :
    ∃ handler, published = some handler ∧ process.trap.handler = some handler ∧
      process.move (.interrupt signal) =
        some { process with invocations := process.invocations ++ [(signal, handler)] } := by
  obtain ⟨handler, hlatest, hhandler⟩ := Routine.Throughout.now hsound signal htrapped
  refine ⟨handler, hlatest, hhandler, ?_⟩
  simp only [move, arrive_raw, htrapped, if_true, hhandler]
  rfl

/-- An interruption that is not trapped ends a process. -/
lemma move_interrupt_of_released {signal : Signal} (h : process.trap.trapped signal = false) :
    process.move (.interrupt signal) = none := by
  simp only [move, arrive_raw, h]
  rfl

/-- A sound process stays sound while a call goes on. -/
lemma Sound.move (hsound : Sound published before process) {move : Move η}
    (hmove : ∀ call, move ≠ .begin call) (h : process.move move = some after) :
    Sound published before after := by
  cases move with
  | begin call => exact absurd rfl (hmove call)
  | advance =>
    obtain rfl := Option.some.inj h
    exact Routine.Throughout.advance hsound
  | interrupt signal =>
    rcases htrapped : process.trap.trapped signal with _ | _
    · rw [move_interrupt_of_released htrapped] at h
      cases h
    · obtain ⟨handler, -, -, hinvoked⟩ := hsound.move_interrupt htrapped
      rw [hinvoked] at h
      obtain rfl := Option.some.inj h
      exact hsound

/-! ### A whole run -/

/-- After one thing a run goes on with the others. -/
lemma run_cons (process : Process η) (move : Move η) (moves : List (Move η)) :
    process.run (move :: moves) = (process.move move).bind fun after => after.run moves :=
  rfl

/-- A sound process stays sound during a run in which no call begins. -/
lemma Sound.run (hsound : Sound published before process) {moves : List (Move η)}
    (hmoves : ∀ call, .begin call ∉ moves) (h : process.run moves = some after) :
    Sound published before after := by
  induction moves generalizing process with
  | nil => exact Option.some.inj h ▸ hsound
  | cons first moves ih =>
    rw [run_cons] at h
    obtain ⟨next, hnext, hrun⟩ := Option.bind_eq_some_iff.mp h
    have hfirst : ∀ call, first ≠ .begin call := by
      intro call hcall
      exact hmoves call (hcall ▸ List.mem_cons_self)
    have hsound' := hsound.move hfirst hnext
    exact ih hsound' (fun call hmem => hmoves call (List.mem_cons_of_mem _ hmem)) hrun

omit [DecidableEq η] in
/-- If a call has ended in a sound process, it has ended as it should. -/
lemma Sound.ended (hsound : Sound published before process) {outcome : Outcome}
    (hrest : process.rest = .finished outcome) : Ended published before outcome process.trap := by
  rw [Sound, hrest] at hsound
  exact hsound.2

/-- A call begins in a sound process only after the one before has ended as it should, and then the
process is sound again. -/
lemma Sound.begin (hsound : Sound published before process) {call : Call η}
    (h : process.move (.begin call) = some after) :
    Sound ((Move.begin call).publishes published) process.trap after ∧
      after.invocations = process.invocations := by
  rcases hrest : process.rest with outcome | ⟨effect, next⟩
  · obtain ⟨hsettled, hpublished, -⟩ := hsound.ended hrest
    refine ⟨sound_begin hsettled hpublished h, ?_⟩
    simp only [Process.move, hrest, Option.some.injEq] at h
    rw [← h]
  · simp only [Process.move, hrest] at h
    cases h

/-- A sound process in which something happens is sound again. Only interruptions lead to invocations,
each to that of the handler published last. -/
lemma Sound.step (hsound : Sound published before process) {move : Move η}
    (h : process.move move = some after) :
    (∃ before, Sound (move.publishes published) before after) ∧
    after.invocations.map (Prod.map id some) =
      process.invocations.map (Prod.map id some) ++ arrivals published [move] := by
  cases move with
  | begin call =>
    obtain ⟨hsound', hinvocations⟩ := hsound.begin h
    refine ⟨⟨process.trap, hsound'⟩, ?_⟩
    rw [hinvocations]
    exact (List.append_nil _).symm
  | advance =>
    refine ⟨⟨before, hsound.move (fun _ hcall => by cases hcall) h⟩, ?_⟩
    obtain rfl := Option.some.inj h
    exact (List.append_nil _).symm
  | interrupt signal =>
    refine ⟨⟨before, hsound.move (fun _ hcall => by cases hcall) h⟩, ?_⟩
    rcases htrapped : process.trap.trapped signal with _ | _
    · rw [move_interrupt_of_released htrapped] at h
      cases h
    · obtain ⟨handler, rfl, -, hinvoked⟩ := hsound.move_interrupt htrapped
      rw [hinvoked] at h
      obtain rfl := Option.some.inj h
      rw [List.map_append]
      rfl

omit [DecidableEq η] in
/-- Interruptions arrive one move after the other. -/
lemma arrivals_cons (move : Move η) (moves : List (Move η)) :
    arrivals published (move :: moves) =
      arrivals published [move] ++ arrivals (move.publishes published) moves := by
  cases move <;> rfl

/-- In a run a sound process stays sound, and each interruption that arrives leads to one invocation,
that of the handler published last. -/
lemma Sound.run_arrivals (hsound : Sound published before process) {moves : List (Move η)}
    (h : process.run moves = some after) :
    (∃ before, Sound (moves.foldl Move.publishes published) before after) ∧
    after.invocations.map (Prod.map id some) =
      process.invocations.map (Prod.map id some) ++ arrivals published moves := by
  induction moves generalizing process published before with
  | nil =>
    obtain rfl := Option.some.inj h
    exact ⟨⟨before, hsound⟩, (List.append_nil _).symm⟩
  | cons move moves ih =>
    rw [run_cons] at h
    obtain ⟨next, hnext, hrun⟩ := Option.bind_eq_some_iff.mp h
    obtain ⟨⟨before', hsound'⟩, hinvocations⟩ := hsound.step hnext
    obtain ⟨hsound'', hall⟩ := ih hsound' hrun
    refine ⟨hsound'', ?_⟩
    rw [hall, hinvocations, arrivals_cons move moves, List.append_assoc]

/-- Runs one after the other are one run. -/
lemma run_append (process : Process η) (moves later : List (Move η)) :
    process.run (moves ++ later) = (process.run moves).bind fun between => between.run later :=
  List.foldlM_append

end Process

/-- **No trapped interruption is swallowed.**  Whatever calls are made, and whenever interruptions
arrive, also between two steps of a call: an interruption that is trapped at the moment finds a handler
in its place and is passed to it, and it is the one published last; one that is not trapped ends the
process. So the handlers have been invoked once for each interruption that arrived so far, in order.
Whenever a call has ended, a handler is attached just if the trap is armed, just if all interruptions are
trapped; and a call to attach that has failed has left the trap as it was. -/
theorem trapped_interruption_finds_handler {moves : List (Move η)} {process : Process η}
    (h : Process.start.run moves = some process) :
    (∀ signal, process.trap.trapped signal = true →
      ∃ handler, latest moves = some handler ∧ process.trap.handler = some handler ∧
        process.move (.interrupt signal) =
          some { process with invocations := process.invocations ++ [(signal, handler)] }) ∧
    (∀ signal, process.trap.trapped signal = false →
      (process.trap.arrive signal.raw).1 = .ends ∧ process.move (.interrupt signal) = none) ∧
    process.invocations.map (Prod.map id some) = arrivals none moves ∧
    (∀ outcome, process.rest = .finished outcome →
      (process.trap.handler.isSome = true ↔ process.trap.armed = true) ∧
      (process.trap.armed = true ↔ ∀ signal, process.trap.trapped signal = true) ∧
      ((∃ signal, process.trap.trapped signal = true) → process.trap.armed = true)) ∧
    (∀ before during refuses handler earlier chain events,
      moves = before ++ .begin (.attach refuses handler) :: during →
      (∀ call, .begin call ∉ during) → Process.start.run before = some earlier →
      process.rest = .finished (.error chain, events) → process.trap = earlier.trap) := by
  obtain ⟨⟨before, hsound⟩, hinvocations⟩ := Process.sound_start.run_arrivals h
  refine ⟨fun signal htrapped => hsound.move_interrupt htrapped, fun signal hreleased => ⟨?_, ?_⟩,
    hinvocations, fun outcome hrest => ?_, ?_⟩
  · rw [arrive_raw, hreleased]
    rfl
  · exact Process.move_interrupt_of_released hreleased
  · obtain ⟨⟨harmed, htrapped⟩, -⟩ := hsound.ended hrest
    refine ⟨by rw [harmed], ⟨fun h signal => (htrapped signal).trans h, fun h => ?_⟩, ?_⟩
    · exact (htrapped .interrupt).symm.trans (h .interrupt)
    · rintro ⟨signal, hsignal⟩
      exact (htrapped signal).symm.trans hsignal
  · intro begun during refuses handler earlier chain events hmoves hduring hearlier hrest
    rw [hmoves, Process.run_append, hearlier, Option.bind_some, Process.run_cons] at h
    obtain ⟨next, hnext, hrun⟩ := Option.bind_eq_some_iff.mp h
    obtain ⟨⟨_, hsound₀⟩, -⟩ := Process.sound_start.run_arrivals hearlier
    obtain ⟨hsound₁, -⟩ := hsound₀.begin hnext
    obtain ⟨-, -, hfailed⟩ := (hsound₁.run hduring hrun).ended hrest
    exact hfailed chain rfl

/-- The platform traps the first interruption for the handler 1 and refuses the second, so that the call
fails; the handler 2 is attached after that, and is being detached when the last interruption arrives.
Each interruption has been passed to the handler that was published last. -/
theorem failed_attach_passes_its_interruption :
    ∃ process : Process Nat,
      Process.start.run ([.begin (.attach
          (fun signal => if signal = .hangup then some .notFound else none) 1)] ++
        [.advance, .advance, .interrupt .interrupt] ++ List.replicate 5 .advance ++
        [.begin (.attach (fun _ => none) 2)] ++ List.replicate 5 .advance ++
        [.interrupt .terminate, .begin .detach, .advance, .interrupt .hangup]) = some process ∧
      process.invocations = [(.interrupt, 1), (.terminate, 2), (.hangup, 2)] := by
  let moves : List (Move Nat) := [.begin (.attach
      (fun signal => if signal = .hangup then some .notFound else none) 1)] ++
    [.advance, .advance, .interrupt .interrupt] ++ List.replicate 5 .advance ++
    [.begin (.attach (fun _ => none) 2)] ++ List.replicate 5 .advance ++
    [.interrupt .terminate, .begin .detach, .advance, .interrupt .hangup]
  have hsome : (Process.start.run moves).isSome = true := by decide
  obtain ⟨process, hrun⟩ := Option.isSome_iff_exists.mp hsome
  obtain ⟨-, -, hinvocations, -, -⟩ := trapped_interruption_finds_handler hrun
  refine ⟨process, hrun, ?_⟩
  have harrivals : arrivals none moves =
      [(.interrupt, 1), (.terminate, 2), (.hangup, 2)].map (Prod.map id some) := by decide
  have hinjective : Function.Injective (Prod.map (id : Signal → Signal) (some : Nat → Option Nat)) :=
    Function.injective_id.prodMap (Option.some_injective _)
  exact List.map_injective_iff.mpr hinjective (hinvocations.trans harrivals)

end PrefetchInfo.Trap
