import PrefetchInfo.Interrupt.Trap
import PrefetchInfo.Proofs.Interrupt.Throughout

/-!
# Attaching and detaching, step by step

The interruptions are handed over one after the other, and the platform may refuse any of them. While
that goes on nothing else about the trap changes, so that the handler which was published before stays
in its place until all interruptions have been given back. As long as the platform always takes
interruptions back, attaching either traps all of them or leaves the trap as it was.
-/

namespace PrefetchInfo

/-- The platform that refuses to trap as given, and never refuses to stop doing so. -/
def Platform.releasing (refusesTrap : Signal → Option Failure) : Platform :=
  ⟨refusesTrap, fun _ => none⟩

/-- Every interruption is among those that are trapped. -/
lemma Signal.mem_all (signal : Signal) : signal ∈ all := by
  cases signal <;> decide

namespace Trap

open Routine

variable {η : Type} {trap s : Trap η} {latest : Option η}

/-- The trap between two calls: interruptions are trapped just if a handler is attached, and then all of
them are. -/
structure Settled (trap : Trap η) : Prop where
  /-- A handler is attached just if the interruptions are known to be trapped. -/
  armed_eq : trap.armed = trap.handler.isSome
  /-- Either all interruptions are trapped or none is. -/
  trapped_eq : ∀ signal, trap.trapped signal = trap.armed

/-- An interruption that is trapped finds a handler in its place, namely the given one. -/
def Finds (latest : Option η) (trap : Trap η) : Prop :=
  ∀ signal, trap.trapped signal = true → ∃ handler, latest = some handler ∧ trap.handler = some handler

/-- If the given handler is in its place, whatever is trapped finds it. -/
lemma finds_of_handler {handler : η} (hlatest : latest = some handler)
    (h : s.handler = some handler) : Finds latest s := by
  intro signal _
  exact ⟨handler, hlatest, h⟩

/-- If nothing is trapped, nothing has to find a handler. -/
lemma finds_of_released (h : ∀ signal, s.trapped signal = false) : Finds latest s := by
  intro signal hsignal
  rw [h signal] at hsignal
  cases hsignal

/-- Nothing but the dispositions of interruptions has changed. -/
structure Redisposed (trap s : Trap η) : Prop where
  /-- The handler is the same. -/
  handler_eq : s.handler = trap.handler
  /-- Whether the interruptions are known to be trapped is the same. -/
  armed_eq : s.armed = trap.armed
  /-- The faults reported before are the same. -/
  faults_eq : s.faults = trap.faults

/-- A change of one disposition is a change of dispositions. -/
lemma Redisposed.dispose (h : Redisposed trap s) (signal : Signal) (trapped : Bool) :
    Redisposed trap (s.dispose signal trapped) :=
  ⟨h.handler_eq, h.armed_eq, h.faults_eq⟩

/-- If nothing but dispositions has changed, and they are again as they were, nothing has changed. -/
lemma Redisposed.eq (h : Redisposed trap s)
    (htrapped : ∀ signal, s.trapped signal = trap.trapped signal) :
    s = trap := by
  obtain ⟨handler, armed, trapped, faults⟩ := s
  obtain ⟨rfl, rfl, rfl⟩ := h
  obtain rfl : trapped = trap.trapped := funext htrapped
  rfl

/-! ### Asking the platform -/

/-- While dispositions are changed one after the other, nothing else changes. If the platform refuses
none of the changes, they are all made. -/
lemma throughout_disposeAll (refuses : Signal → Option Failure) (trapped : Bool)
    (signals : List Signal) (h : Redisposed trap s) :
    (disposeAll refuses trapped signals).Throughout (Redisposed trap) (fun result s' =>
      (result = .ok () → ∀ signal, signal ∈ signals ∨ s.trapped signal = trapped →
        s'.trapped signal = trapped) ∧
      ((∀ signal, refuses signal = none) → result = .ok ())) s := by
  induction signals generalizing s with
  | nil =>
    refine ⟨h, ?_, fun _ => rfl⟩
    intro _ signal hsignal
    exact hsignal.resolve_left List.not_mem_nil
  | cons signal signals ih =>
    rcases hrefuses : refuses signal with _ | failure
    · have hchange := h.dispose signal trapped
      simp only [disposeAll, hrefuses, throughout_bind, throughout_atomically]
      refine ⟨h, hchange, (ih hchange).mono (fun _ hs => hs) ?_⟩
      rintro result s' - ⟨hall, hok⟩
      refine ⟨fun hresult other hother => hall hresult other ?_, hok⟩
      by_cases hsame : other = signal
      · exact .inr (by simp only [dispose, if_pos hsame])
      · have hbefore := hother.imp_left fun hmem => (List.mem_cons.mp hmem).resolve_left hsame
        simpa only [dispose, if_neg hsame] using hbefore
    · simp only [disposeAll, hrefuses, throughout_atomically]
      refine ⟨h, h, (fun hresult => nomatch hresult), fun hnone => ?_⟩
      rw [hnone] at hrefuses
      cases hrefuses

/-- A platform that does not refuse to stop trapping takes all interruptions back. -/
lemma throughout_uninstall {platform : Platform}
    (hrelease : ∀ signal, platform.refusesRelease signal = none) (h : Redisposed trap s) :
    (uninstall platform).Throughout (Redisposed trap) (fun result s' =>
      result = .ok () ∧ ∀ signal, s'.trapped signal = false) s := by
  have hdispose := throughout_disposeAll platform.refusesRelease false Signal.all h
  refine hdispose.mono (fun _ hs => hs) ?_
  rintro result s' - ⟨hall, hok⟩
  have hresult : result = .ok () := hok hrelease
  exact ⟨hresult, fun signal => hall hresult signal (.inl signal.mem_all)⟩

/-- Such a platform traps all interruptions or, if it refuses one of them, none. -/
lemma throughout_install {platform : Platform}
    (hrelease : ∀ signal, platform.refusesRelease signal = none) (h : Redisposed trap s) :
    (install platform).Throughout (Redisposed trap) (fun result s' =>
      (result = .ok () → ∀ signal, s'.trapped signal = true) ∧
      (result ≠ .ok () → ∀ signal, s'.trapped signal = false)) s := by
  rw [install, throughout_bind]
  refine (throughout_disposeAll platform.refusesTrap true Signal.all h).mono (fun _ hs => hs) ?_
  rintro (failure | _) s' hs' ⟨hall, -⟩
  · have huninstall := throughout_uninstall hrelease hs'
    simp only [throughout_bind, throughout_pure]
    refine huninstall.mono (fun _ hs => hs) ?_
    rintro _ s'' hs'' ⟨-, hnone⟩
    exact ⟨hs'', (fun hok => nomatch hok), fun _ => hnone⟩
  · refine ⟨hs', fun _ signal => hall rfl signal (.inl signal.mem_all), fun hne => absurd rfl hne⟩

/-! ### Attaching and detaching -/

/-- From the moment on when its handler is published, whatever is trapped finds that handler while it is
being attached. If that succeeds, all interruptions are trapped in the end; if it fails, all is as it was
before. -/
lemma throughout_attach [DecidableEq η] {platform : Platform}
    (hrelease : ∀ signal, platform.refusesRelease signal = none) (handler : η) (h : trap.Settled) :
    ((attach platform handler).advance trap).1.Throughout (Finds (some handler))
      (fun outcome s => (outcome.1 = .ok () ∧ s.Settled ∧ s.handler = some handler) ∨
        ((∃ chain, outcome.1 = .error chain) ∧ s = trap ∧ trap.handler = none))
      { trap with handler := some handler } := by
  obtain ⟨previous, armed, trapped, faults⟩ := trap
  obtain ⟨harmed, htrapped⟩ := h
  let published : Trap η := ⟨some handler, armed, trapped, faults⟩
  have hfinds : ∀ s, Redisposed published s → Finds (some handler) s :=
    fun s hs => finds_of_handler rfl hs.handler_eq
  have hstart : Redisposed published published := ⟨rfl, rfl, rfl⟩
  refine ⟨hfinds _ hstart, ?_⟩
  change Throughout _ _ (if armed then _ else _) published
  cases armed with
  | true =>
    exact ⟨hfinds _ hstart, .inl ⟨rfl, ⟨rfl, htrapped⟩, rfl⟩⟩
  | false =>
    change Throughout _ _ (install platform >>= _) published
    rw [throughout_bind]
    refine (throughout_install hrelease hstart).mono hfinds ?_
    rintro (failure | _) s hs ⟨hok, hfailed⟩
    · have hreleased := hfailed (by simp)
      have hback : Redisposed ⟨previous, false, trapped, faults⟩ { s with handler := previous } :=
        ⟨rfl, hs.armed_eq, hs.faults_eq⟩
      have hsame := hback.eq fun signal => (hreleased signal).trans (htrapped signal).symm
      have hnone : previous = none :=
        Option.isNone_iff_eq_none.mp (Option.isSome_eq_false_iff.mp harmed.symm)
      exact ⟨hfinds s hs, finds_of_released hreleased, .inr ⟨⟨_, rfl⟩, hsame, hnone⟩⟩
    · have hsettled : Settled { s with armed := true } :=
        ⟨(congrArg Option.isSome hs.handler_eq).symm, hok rfl⟩
      exact ⟨hfinds s hs, finds_of_handler rfl hs.handler_eq, .inl ⟨rfl, hsettled, hs.handler_eq⟩⟩

/-- While the handler is being detached, whatever is still trapped finds it. In the end there is no
handler, and nothing is trapped. -/
lemma throughout_detach {platform : Platform}
    (hrelease : ∀ signal, platform.refusesRelease signal = none) (h : trap.Settled)
    (hlatest : ∀ handler, trap.handler = some handler → latest = some handler) :
    ((detach platform).advance trap).1.Throughout (Finds latest)
      (fun _ s => s.Settled ∧ s.handler = none) { trap with armed := false } := by
  obtain ⟨previous, armed, trapped, faults⟩ := trap
  obtain ⟨harmed, htrapped⟩ := h
  change Throughout _ _ (if armed then _ else _) _
  cases armed with
  | true =>
    obtain ⟨handler, rfl⟩ := Option.isSome_iff_exists.mp harmed.symm
    let released : Trap η := ⟨some handler, false, trapped, faults⟩
    have hfinds : ∀ s, Redisposed released s → Finds latest s :=
      fun s hs => finds_of_handler (hlatest handler rfl) hs.handler_eq
    have hstart : Redisposed released released := ⟨rfl, rfl, rfl⟩
    change Throughout _ _ (uninstall platform >>= _) released
    rw [throughout_bind]
    refine (throughout_uninstall hrelease hstart).mono hfinds ?_
    rintro result s hs ⟨rfl, hnone⟩
    refine ⟨hfinds s hs, finds_of_released hnone, ⟨hs.armed_eq, ?_⟩, rfl⟩
    intro signal
    exact (hnone signal).trans hs.armed_eq.symm
  | false =>
    exact ⟨finds_of_released htrapped, finds_of_released htrapped, ⟨rfl, htrapped⟩, rfl⟩

/-! ### A platform that does what it is asked -/

/-- On a platform that does what it is asked, attaching a handler succeeds, whatever the trap is like. -/
lemma run_attach_willing [DecidableEq η] (handler : η) (trap : Trap η) :
    ((attach .willing handler).run trap).1.1 = .ok () ∧
      ((attach .willing handler).run trap).2.handler = some handler := by
  obtain ⟨previous, armed, trapped, faults⟩ := trap
  cases armed with
  | true => exact ⟨rfl, rfl⟩
  | false => exact ⟨rfl, rfl⟩

/-- After detaching there is no handler. -/
lemma run_detach_willing (trap : Trap η) : ((detach .willing).run trap).2.handler = none := by
  obtain ⟨previous, armed, trapped, faults⟩ := trap
  cases armed with
  | true => rfl
  | false => rfl

end Trap

end PrefetchInfo
