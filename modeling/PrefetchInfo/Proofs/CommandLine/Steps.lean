import Mathlib.Tactic.Lemma
import PrefetchInfo.CommandLine.Run

/-!
# The steps of a run

What each step of a run does to the session it acts on. Only the steps that write or flush look at the
output; the others do the same whatever the output works on, and leave it alone. All that comes before
the input file is described is of the second kind.
-/

namespace PrefetchInfo.CommandLine

variable {τ τ' α β : Type}

/-! ### One step after the other -/

/-- Steps one after the other: the second acts on what the first leaves, unless the first stops the
run. -/
lemma run_bind (m : Act τ α) (f : α → Act τ β) (session : Session τ) :
    (m >>= f).run session = match m.run session with
      | (.ok a, session) => (f a).run session
      | (.error stop, session) => (.error stop, session) := by
  unfold ExceptT.run
  simp only [bind, ExceptT.bind, ExceptT.mk, StateT.bind, ExceptT.bindCont]
  rcases m session with ⟨stop | a, session⟩ <;> rfl

/-- A step that succeeds is followed by the next. -/
lemma run_bind_ok {m : Act τ α} (f : α → Act τ β) {session session' : Session τ} {a : α}
    (h : m.run session = (.ok a, session')) : (m >>= f).run session = (f a).run session' := by
  rw [run_bind, h]

/-- A step that stops the run is followed by none. -/
lemma run_bind_error {m : Act τ α} (f : α → Act τ β) {session session' : Session τ} {stop : Stop}
    (h : m.run session = (.error stop, session')) :
    (m >>= f).run session = (.error stop, session') := by
  rw [run_bind, h]

/-- Looking at the session leaves it as it is. -/
@[simp] lemma run_get (session : Session τ) :
    (get : Act τ (Session τ)).run session = (.ok session, session) := rfl

/-- Putting a session in place of another succeeds. -/
@[simp] lemma run_set (session session' : Session τ) :
    (set session' : Act τ PUnit).run session = (.ok ⟨⟩, session') := rfl

/-- Changing the session succeeds. -/
@[simp] lemma run_modify (change : Session τ → Session τ) (session : Session τ) :
    (modify change : Act τ PUnit).run session = (.ok ⟨⟩, change session) := rfl

/-! ### Steps that write or flush -/

/-- The result of a step whose output ended like this. -/
def ofOutput : Except Failure Unit → Except Stop Unit :=
  Except.mapError fun failure => .failed (.output failure)

/-- The result of a step, named in the fault, that ended like this. -/
def ofStep (doing : String) : Except ErrorChain α → Except Stop α :=
  Except.mapError fun chain => .failed (.step doing chain)

/-- Writing a banner acts on the output. -/
lemma run_banner (out : Device (Buffered τ)) (kind : Banner.Kind) (session : Session τ) :
    (banner out kind).run session =
      (ofOutput (Banner.write out program kind session.out).1,
        { session with out := (Banner.write out program kind session.out).2 }) := by
  simp only [banner, run_bind, run_get, run_set]
  rcases (Banner.write out program kind session.out).1 with failure | _ <;> rfl

/-- Flushing acts on the output. -/
lemma run_flush (out : Device (Buffered τ)) (session : Session τ) :
    (flush out).run session =
      (ofOutput (out.flush session.out).1, { session with out := (out.flush session.out).2 }) := by
  simp only [flush, run_bind, run_get, run_set]
  rcases (out.flush session.out).1 with failure | _ <;> rfl

/-- Setting up standard output acts on the output. -/
lemma run_setUp (setting : Setting τ) (session : Session τ) :
    (setUp setting).run session =
      (ofStep "Unable to set up standard output" (Output.takeOver setting.stdout session.out.inner).1,
        { session with out := (Output.takeOver setting.stdout session.out.inner).2 }) := by
  simp only [setUp, run_bind, run_get, run_set]
  rcases (Output.takeOver setting.stdout session.out.inner).1 with chain | _ <;> rfl

/-- Printing acts on the output, and then on the notify stream and the world. -/
lemma run_print (out : Device (Buffered τ)) (handle : Info.Handle) (session : Session τ) :
    (print out handle).run session =
      let (result, buffer, stream, world) :=
        handle.print out World.outlets session.stream session.out session.world
      (ofStep "Unable to print file information" result,
        { session with out := buffer, stream, world }) := by
  simp only [print, run_bind, run_get, run_set]
  rcases (handle.print out World.outlets session.stream session.out session.world).1 with
    chain | _ <;> rfl

/-! ### Steps that leave the output alone -/

/-- Opening the log file acts on the notify stream and the world. -/
lemma run_openLog (path : Bytes) (session : Session τ) :
    (openLog path).run session =
      let (result, stream, world) := session.stream.openFile World.outlets path session.world
      match result with
      | .ok _ => (.ok (), { session with stream, world }.record [.diagnosticsTo path])
      | .error chain =>
        (.error (.failed (.step ("Unable to open log file: " ++ Utf8.lossy path) chain)),
          { session with stream, world }) := by
  simp only [openLog, run_bind, run_get, run_set]
  rcases (session.stream.openFile World.outlets path session.world).1 with chain | _ <;> rfl

/-- Attaching the interruption handler acts on the trap. -/
lemma run_attach (session : Session τ) :
    attach.run session =
      let ((result, events), trap) :=
        (Trap.attach .willing Handler.requestAbort).run session.trap
      (ofStep "Unable to attach signal handler" result, { session with trap }.record events) := by
  simp only [attach, run_bind, run_get, run_set]
  rcases ((Trap.attach .willing Handler.requestAbort).run session.trap).1.1 with chain | _ <;> rfl

/-- Opening the input file lets interruptions arrive, which may end the run; then it reads the file. -/
lemma run_openInput (setting : Setting τ) (handle : Info.Handle) (path : Bytes)
    (session : Session τ) :
    (openInput setting handle path).run session =
      let (killer, after) := session.interrupted
        ((session.world.files.locate path).toOption.elim [] setting.arrivals)
      match killer with
      | some raw => (.error (.killed raw), after)
      | none =>
        let (result, handle, events) := handle.openInput path
          (session.world.files.openForReading path) session.abort after.abort
        (ofStep ("Unable to open: " ++ Utf8.lossy path) (result.map fun _ => handle),
          after.record events) := by
  simp only [openInput, run_bind, run_get, run_set]
  rcases session.interrupted ((session.world.files.locate path).toOption.elim [] setting.arrivals)
    with ⟨_ | raw, after⟩
  · rcases (handle.openInput path (session.world.files.openForReading path) session.abort
      after.abort).1 with chain | _ <;> rfl
  · rfl

/-- Closing the input file tells developers. -/
lemma run_closeInput (handle : Info.Handle) (session : Session τ) :
    (closeInput handle).run session =
      (ofStep "Unable to close info handle" handle.closeInput.1,
        session.record handle.closeInput.2.2) := by
  simp only [closeInput, run_bind, run_modify]
  rcases handle.closeInput.1 with chain | _ <;> rfl

/-! ### What does not depend on the output -/

/-- A session with another output. -/
def Session.over (session : Session τ) (out : Buffered τ') : Session τ' :=
  { out, stream := session.stream, world := session.world, trap := session.trap,
    abort := session.abort }

/-- Two parts of runs whose outputs work on different states do the same, and leave the outputs
alone. -/
def Aside (m : Act τ α) (m' : Act τ' α) : Prop :=
  ∀ (session : Session τ) (out : Buffered τ'),
    m'.run (session.over out) = ((m.run session).1, (m.run session).2.over out)

/-- Parts that leave the output alone leave it alone one after the other. -/
lemma Aside.bind {m : Act τ α} {m' : Act τ' α} {f : α → Act τ β} {f' : α → Act τ' β}
    (hm : Aside m m') (hf : ∀ a, Aside (f a) (f' a)) : Aside (m >>= f) (m' >>= f') := by
  intro session out
  rw [run_bind, run_bind, hm session out]
  rcases m.run session with ⟨stop | a, session⟩
  · rfl
  · exact hf a session out

/-- Opening the log file leaves the output alone. -/
lemma aside_openLog (path : Bytes) : Aside (openLog path : Act τ Unit) (openLog path : Act τ' Unit) := by
  intro session out
  rw [run_openLog, run_openLog]
  simp only [Session.over]
  rcases session.stream.openFile World.outlets path session.world with ⟨chain | _, stream, world⟩ <;>
    rfl

/-- Attaching the handler leaves the output alone. -/
lemma aside_attach : Aside (attach : Act τ Unit) (attach : Act τ' Unit) := by
  intro session out
  rw [run_attach, run_attach]
  rfl

/-- What interruptions do to a run does not depend on its output. -/
lemma interrupted_over (session : Session τ) (out : Buffered τ') (arrivals : List Int32) :
    (session.over out).interrupted arrivals =
      ((session.interrupted arrivals).1, (session.interrupted arrivals).2.over out) := by
  induction arrivals generalizing session with
  | nil => rfl
  | cons raw later ih =>
    simp only [Session.interrupted, Session.over]
    rcases session.trap.arrive raw with ⟨_ | _ | _ | ⟨signal, _ | ⟨⟩⟩, trap⟩
    · exact ih { session with trap }
    · rfl
    · exact ih { session with trap }
    · exact ih { session with trap }
    · exact ih { session with trap, abort := ((AbortFlag.requestFrom signal).run session.abort).2 }

variable {setting : Setting τ} {setting' : Setting τ'}

/-- Opening the input file leaves the output alone. -/
lemma aside_openInput (harrivals : setting'.arrivals = setting.arrivals) (handle : Info.Handle)
    (path : Bytes) : Aside (openInput setting handle path) (openInput setting' handle path) := by
  intro session out
  rw [run_openInput, run_openInput, interrupted_over, harrivals]
  simp only [Session.over]
  rcases session.interrupted ((session.world.files.locate path).toOption.elim [] setting.arrivals)
    with ⟨_ | raw, after⟩ <;> rfl

/-- Closing the input file leaves the output alone. -/
lemma aside_closeInput (handle : Info.Handle) :
    Aside (closeInput handle : Act τ Unit) (closeInput handle : Act τ' Unit) := by
  intro session out
  rw [run_closeInput, run_closeInput]
  rfl

/-! ### Before the input file is described -/

/-- What a run does from its banner on until the input file is open. -/
def prepare (setting : Setting τ) (invocation : Invocation) (source : Bytes) :
    Act τ Info.Handle := do
  if let some path := invocation.logFile then openLog path
  attach
  openInput setting (.new invocation.codepage) source

/-- Looking at the input file is preparing, printing, closing and flushing. -/
lemma inspect_eq (setting : Setting τ) (invocation : Invocation) (source : Bytes) :
    inspect setting invocation source =
      prepare setting invocation source >>= fun handle =>
        print (Output.device invocation.mode setting.stdout) handle >>= fun _ =>
          closeInput handle >>= fun _ =>
            flush (Output.device invocation.mode setting.stdout) := by
  simp only [inspect, prepare]
  rcases invocation.logFile with _ | path <;> simp only [bind_assoc]

/-- Preparing leaves the output alone. -/
lemma aside_prepare (harrivals : setting'.arrivals = setting.arrivals) (invocation : Invocation)
    (source : Bytes) :
    Aside (prepare setting invocation source) (prepare setting' invocation source) := by
  have hopen := aside_attach.bind fun _ => aside_openInput harrivals (.new invocation.codepage) source
  simp only [prepare]
  rcases invocation.logFile with _ | path
  · exact hopen
  · exact (aside_openLog path).bind fun _ => hopen

end PrefetchInfo.CommandLine
