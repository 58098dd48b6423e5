import Mathlib.Logic.Basic
import PrefetchInfo.Proofs.CommandLine.Printing

/-!
# How a run ends

A run succeeds, fails or is killed. It succeeds only after a last flush of its output, and it is killed
only by an interruption that arrives while the input file is being opened.
-/

namespace PrefetchInfo.CommandLine

variable {τ α β : Type} {invocation : Invocation}

/-! ### Success -/

/-- If two steps succeed one after the other, then each of them does. -/
lemma ok_of_run_bind {m : Act τ α} {f : α → Act τ β} {session session' : Session τ} {b : β}
    (h : (m >>= f).run session = (.ok b, session')) :
    ∃ a between, m.run session = (.ok a, between) ∧ (f a).run between = (.ok b, session') := by
  rw [run_bind] at h
  rcases hm : m.run session with ⟨stop | a, between⟩ <;> rw [hm] at h
  · cases (Prod.mk.inj h).1
  · exact ⟨a, between, rfl, h⟩

/-- A run succeeds only after a flush that does. -/
lemma flushed_of_act_ok {setting : Setting τ} {session session' : Session τ}
    (h : (act setting invocation).run session = (.ok (), session')) :
    ∃ b, (Output.device invocation.mode setting.stdout).flush b = (.ok (), session'.out) := by
  have hflush : ∀ {session : Session τ},
      (flush (Output.device invocation.mode setting.stdout)).run session = (.ok (), session') →
      ∃ b, (Output.device invocation.mode setting.stdout).flush b = (.ok (), session'.out) := by
    intro session hok
    rw [run_flush, Prod.mk.injEq] at hok
    obtain ⟨hr, rfl⟩ := hok
    refine ⟨session.out, Prod.ext ?_ rfl⟩
    rcases hf : ((Output.device invocation.mode setting.stdout).flush session.out).1 with failure | _
    · rw [hf] at hr
      cases hr
    · rfl
  rw [act] at h
  obtain ⟨_, ready, _, h⟩ := ok_of_run_bind h
  by_cases hversion : invocation.version = true
  · rw [if_pos hversion] at h
    obtain ⟨_, _, _, h⟩ := ok_of_run_bind h
    obtain ⟨_, _, _, h⟩ := ok_of_run_bind h
    exact hflush h
  · rw [if_neg hversion] at h
    obtain ⟨_, _, _, h⟩ := ok_of_run_bind h
    rcases hsource : invocation.source with _ | source <;> rw [hsource] at h
    · cases (Prod.mk.inj h).1
    · change (inspect setting invocation source).run _ = _ at h
      rw [inspect_eq] at h
      obtain ⟨_, _, _, h⟩ := ok_of_run_bind h
      obtain ⟨_, _, _, h⟩ := ok_of_run_bind h
      obtain ⟨_, _, _, h⟩ := ok_of_run_bind h
      exact hflush h

/-! ### Being killed -/

/-- A part of a run that interruptions do not kill. -/
def Unkilled (m : Act τ α) : Prop :=
  ∀ session raw, (m.run session).1 ≠ .error (.killed raw)

/-- Parts that are not killed are not killed one after the other. -/
lemma Unkilled.bind {m : Act τ α} {f : α → Act τ β} (hm : Unkilled m) (hf : ∀ a, Unkilled (f a)) :
    Unkilled (m >>= f) := by
  intro session raw
  rw [run_bind]
  have hfirst := hm session raw
  rcases hrun : m.run session with ⟨stop | a, between⟩ <;> rw [hrun] at hfirst
  · simpa using hfirst
  · exact hf a between raw

/-- If two parts are killed one after the other and the first is not, then the second is. -/
lemma Unkilled.killed_of_bind {m : Act τ α} {f : α → Act τ β} (hm : Unkilled m)
    {session session' : Session τ} {raw : Int32}
    (h : (m >>= f).run session = (.error (.killed raw), session')) :
    ∃ a between, m.run session = (.ok a, between) ∧
      (f a).run between = (.error (.killed raw), session') := by
  rw [run_bind] at h
  have hfirst := hm session raw
  rcases hrun : m.run session with ⟨stop | a, between⟩ <;> rw [hrun] at h hfirst
  · exact absurd (Prod.mk.inj h).1 (by simpa using hfirst)
  · exact ⟨a, between, rfl, h⟩

/-- The result of a step does not tell that the run was killed. -/
lemma ofStep_ne_killed {doing : String} {result : Except ErrorChain α} {raw : Int32} :
    ofStep doing result ≠ .error (.killed raw) := by
  cases result <;> simp [ofStep, Except.mapError]

/-- The result of output does not tell that the run was killed. -/
lemma ofOutput_ne_killed {result : Except Failure Unit} {raw : Int32} :
    ofOutput result ≠ .error (.killed raw) := by
  cases result <;> simp [ofOutput, Except.mapError]

lemma unkilled_setUp (setting : Setting τ) : Unkilled (setUp setting) := by
  intro session raw
  rw [run_setUp]
  exact ofStep_ne_killed

lemma unkilled_banner (out : Device (Buffered τ)) (kind : Banner.Kind) :
    Unkilled (banner out kind) := by
  intro session raw
  rw [run_banner]
  exact ofOutput_ne_killed

lemma unkilled_flush (out : Device (Buffered τ)) : Unkilled (flush out) := by
  intro session raw
  rw [run_flush]
  exact ofOutput_ne_killed

lemma unkilled_print (out : Device (Buffered τ)) (handle : Info.Handle) :
    Unkilled (print out handle) := by
  intro session raw
  rw [run_print]
  exact ofStep_ne_killed

lemma unkilled_closeInput (handle : Info.Handle) : Unkilled (closeInput handle : Act τ Unit) := by
  intro session raw
  rw [run_closeInput]
  exact ofStep_ne_killed

/-- A run is killed only before the input file is open, with the output as its banner has left it. -/
lemma killed_of_act {setting : Setting τ} {session session' : Session τ} {raw : Int32}
    (h : (act setting invocation).run session = (.error (.killed raw), session')) :
    ∃ ready begun, (setUp setting).run session = (.ok (), ready) ∧
      (banner (Output.device invocation.mode setting.stdout) .version).run ready =
        (.ok (), begun) ∧ session'.out = begun.out := by
  rw [act] at h
  obtain ⟨_, ready, hready, h⟩ := (unkilled_setUp setting).killed_of_bind h
  by_cases hversion : invocation.version = true
  · rw [if_pos hversion] at h
    have hnot : Unkilled (banner (Output.device invocation.mode setting.stdout) .detailed >>= fun _ =>
        banner (Output.device invocation.mode setting.stdout) .copyright >>= fun _ =>
          flush (Output.device invocation.mode setting.stdout)) :=
      (unkilled_banner _ _).bind fun _ => (unkilled_banner _ _).bind fun _ => unkilled_flush _
    exact absurd (congrArg Prod.fst h) (hnot ready raw)
  · rw [if_neg hversion] at h
    obtain ⟨_, begun, hbegun, h⟩ := (unkilled_banner _ _).killed_of_bind h
    refine ⟨ready, begun, hready, hbegun, ?_⟩
    rcases hsource : invocation.source with _ | source <;> rw [hsource] at h
    · cases (Prod.mk.inj h).1
    · change (inspect setting invocation source).run _ = _ at h
      have hout := prepare_out_eq setting invocation source begun
      rw [inspect_eq, run_bind] at h
      rcases hrun : (prepare setting invocation source).run begun with ⟨stop | handle, opened⟩ <;>
        rw [hrun] at h hout
      · exact (Prod.mk.inj h).2 ▸ hout
      · have hnot : Unkilled (print (Output.device invocation.mode setting.stdout) handle >>= fun _ =>
            closeInput handle >>= fun _ => flush (Output.device invocation.mode setting.stdout)) :=
          (unkilled_print _ _).bind fun _ => (unkilled_closeInput _).bind fun _ => unkilled_flush _
        exact absurd (congrArg Prod.fst h) (hnot opened raw)

/-! ### The end of a run -/

/-- How a run can end: it is killed, and what is pending is lost; it fails, or it succeeds, and what is
pending is passed on as far as possible. -/
lemma run_cases (setting : Setting τ) (invocation : Invocation) (stdout : τ) (files : FileTree) :
    (∃ raw session, (act setting invocation).run (Session.start invocation stdout files) =
        (.error (.killed raw), session) ∧
      (run setting invocation stdout files).stop = some (.killed raw) ∧
      (run setting invocation stdout files).stdout = session.out.inner) ∨
    (∃ fault session, (act setting invocation).run (Session.start invocation stdout files) =
        (.error (.failed fault), session) ∧
      (run setting invocation stdout files).stop = some (.failed fault) ∧
      (run setting invocation stdout files).stdout =
        BlockBuffer.release setting.stdout session.out) ∨
    (∃ session, (act setting invocation).run (Session.start invocation stdout files) =
        (.ok (), session) ∧
      (run setting invocation stdout files).stop = none ∧
      (run setting invocation stdout files).stdout =
        BlockBuffer.release setting.stdout session.out) := by
  rcases hrun : (act setting invocation).run (Session.start invocation stdout files) with
    ⟨(fault | raw) | _, session⟩
  · exact .inr (.inl ⟨fault, session, rfl, by simp only [run, hrun], by simp only [run, hrun]; rfl⟩)
  · exact .inl ⟨raw, session, rfl, by simp only [run, hrun], by simp only [run, hrun]⟩
  · exact .inr (.inr ⟨session, rfl, by simp only [run, hrun], by simp only [run, hrun]; rfl⟩)

end PrefetchInfo.CommandLine
