import PrefetchInfo.World
import PrefetchInfo.Proofs.Device.Sink
import PrefetchInfo.Proofs.Files.Tree
import PrefetchInfo.Proofs.Notify.Account

/-!
# What places in the world have received

The account of the world around a tool: standard error has received its text, a lent writer what its
sink accepted, and a file what can be read from it. Files keep what is appended to them, and they take it
unless they are the device that is full; a lent writer takes what it is given if its sink is generous and
nobody left it in an unknown state.
-/

namespace PrefetchInfo.World

open Notify

variable {world world' : World}

/-! ### Parts of the world -/

/-- Text that is uttered is added to the text on standard error. -/
lemma errorText_utter_text (world : World) (bytes : Bytes) :
    (world.utter (.text bytes)).errorText = world.errorText ++ bytes := by
  simp only [errorText, utter, List.flatMap_append, List.flatMap_singleton]

/-- The developer log is no text. -/
lemma errorText_utter_event (world : World) (event : Event) :
    (world.utter (.event event)).errorText = world.errorText := by
  simp only [errorText, utter, List.flatMap_append, List.flatMap_singleton, List.append_nil]

/-- A writer that is put under a name leaves the others. -/
lemma writer_putWriter_of_ne {name other : String} (hne : other ≠ name) (world : World)
    (lent : LentWriter) : (world.putWriter name lent).writer other = world.writer other := by
  simp only [writer, putWriter, List.lookup_cons, beq_eq_false_iff_ne.mpr hne,
    lookup_filter_ne hne world.writers]

/-! ### Moves of the world -/

/-- An operation on a file changes nothing but the files, and those as operations on it do. -/
lemma files_of_step {route : Route} (h : (outlets.file route).Step world world') :
    (FileTree.appender route).Step world.files world'.files ∧
      world'.writers = world.writers ∧ world'.utterances = world.utterances := by
  obtain ⟨hstep, heq⟩ := Device.step_within h
  refine ⟨hstep, ?_, ?_⟩ <;> rw [heq] <;> rfl

/-- An operation on a lent writer changes nothing but that writer's sink, and that as operations on it
do. -/
lemma writers_of_step {name : String} (h : (outlets.writer name).Step world world') :
    Sink.device.Step (world.writer name).sink (world'.writer name).sink ∧
      (world'.writer name).poisoned = (world.writer name).poisoned ∧
      (∀ other, other ≠ name → world'.writer other = world.writer other) ∧
      world'.files = world.files ∧ world'.utterances = world.utterances := by
  obtain ⟨hstep, heq⟩ := Device.step_within h
  refine ⟨hstep, ?_, ?_, ?_, ?_⟩
  · rw [heq]
    simp only [sinkPart, writer_putWriter]
  · intro other hne
    rw [heq]
    exact writer_putWriter_of_ne hne world _
  · rw [heq]
    rfl
  · rw [heq]
    rfl

/-- An operation on standard error changes nothing else. -/
lemma utterances_of_step (h : standardError.Step world world') :
    world'.files = world.files ∧ world'.writers = world.writers := by
  cases h with
  | write data => exact ⟨rfl, rfl⟩
  | flush => exact ⟨rfl, rfl⟩

/-- Whatever a stream does, entries of the file tree at most grow. -/
lemma grows_of_move (h : outlets.Move world world') (route : Route) :
    FileTree.Grows world.files world'.files route := by
  cases h with
  | operate place h =>
    cases place with
    | standardError => exact .same (by rw [(utterances_of_step h).1])
    | writer name => exact .same (by rw [(writers_of_step h).2.2.2.1])
    | file file => exact FileTree.grows_of_step (files_of_step h).1 route
  | openFile path => exact FileTree.grows_openForAppending world.files path route
  | record event => exact .same rfl

/-- Whatever a stream does, a lent writer stays as generous as it was and nobody leaves it in an unknown
state. -/
lemma writer_of_move (h : outlets.Move world world') (name : String) :
    (world'.writer name).poisoned = (world.writer name).poisoned ∧
      ((world.writer name).sink.Generous → (world'.writer name).sink.Generous) := by
  have hsame : world'.writers = world.writers → world'.writer name = world.writer name := by
    intro h
    rw [writer, writer, h]
  cases h with
  | operate place h =>
    cases place with
    | standardError => rw [hsame (utterances_of_step h).2]; exact ⟨rfl, id⟩
    | file file => rw [hsame (files_of_step h).2.1]; exact ⟨rfl, id⟩
    | writer other =>
      by_cases heq : name = other
      · subst heq
        exact ⟨(writers_of_step h).2.1, Sink.willing.stays (writers_of_step h).1⟩
      · rw [(writers_of_step h).2.2.1 name heq]
        exact ⟨rfl, id⟩
  | openFile path => rw [hsame rfl]; exact ⟨rfl, id⟩
  | record event => rw [hsame rfl]; exact ⟨rfl, id⟩

/-! ### The account -/

/-- What a place has received. -/
def received : Place Route String → World → Bytes
  | .standardError, world => world.errorText
  | .writer name, world => (world.writer name).sink.accepted
  | .file route, world => world.files.contentAt route

/-- Whether a place keeps what it takes: all do but files that are none. -/
def Keeps : Place Route String → World → Prop
  | .standardError, _ => True
  | .writer _, _ => True
  | .file route, world => world.files.Keeps route

/-- Whether writing to a place succeeds. -/
def Takes : Place Route String → World → Prop
  | .standardError, _ => True
  | .writer name, world => (world.writer name).poisoned = false ∧ (world.writer name).sink.Generous
  | .file route, world => world.files.entry? route ≠ some (.device .full)

/-- Standard error delivers. -/
lemma delivers_standardError : standardError.Delivers errorText where
  write_ok {data world n world'} h := by
    obtain ⟨hr, rfl⟩ := Prod.mk.inj h
    rw [errorText_utter_text, ← Except.ok.inj hr, List.take_length]
  write_error h := by cases (Prod.mk.inj h).1
  flush _ := rfl

/-- Standard error is willing. -/
lemma willing_standardError : standardError.Willing (fun _ => True) where
  stays _ _ := trivial
  pos_of_ok {data world n world'} _ hdata h := by
    rw [← Except.ok.inj (Prod.mk.inj h).1]
    exact List.length_pos_iff.mpr hdata
  retries_of_error _ _ h := by cases (Prod.mk.inj h).1

/-- No operation on one place changes what another has received. -/
lemma received_apart {place other : Place Route String} (hne : place ≠ other)
    (h : (outlets.device other).Step world world') : received place world' = received place world := by
  cases other with
  | standardError =>
    obtain ⟨hfiles, hwriters⟩ := utterances_of_step h
    cases place with
    | standardError => exact absurd rfl hne
    | writer name => simp only [received, writer, hwriters]
    | file route => simp only [received, hfiles]
  | writer name =>
    obtain ⟨_, _, hothers, hfiles, hutterances⟩ := writers_of_step h
    cases place with
    | standardError => simp only [received, errorText, hutterances]
    | writer other =>
      have hother : other ≠ name := fun heq => hne (by rw [heq])
      simp only [received, hothers other hother]
    | file route => simp only [received, hfiles]
  | file route =>
    obtain ⟨hstep, hwriters, hutterances⟩ := files_of_step h
    cases place with
    | standardError => simp only [received, errorText, hutterances]
    | writer name => simp only [received, writer, hwriters]
    | file other =>
      have hother : other ≠ route := fun heq => hne (by rw [heq])
      exact FileTree.contentAt_of_step hother hstep

/-- Opening changes nothing that a place has received. -/
lemma received_openFile (place : Place Route String) (path : Bytes) (world : World) :
    received place (outlets.openFile path world).2 = received place world := by
  cases place with
  | standardError => rfl
  | writer name => rfl
  | file route => exact FileTree.contentAt_openForAppending world.files path route

/-- Telling developers of an event changes nothing that a place has received. -/
lemma received_record (place : Place Route String) (event : Event) (world : World) :
    received place (outlets.record event world) = received place world := by
  cases place with
  | standardError => exact errorText_utter_event world event
  | writer name => rfl
  | file route => rfl

/-- What was opened is there. -/
lemma isSome_of_openFile {path : Bytes} {route : Route}
    (h : outlets.openFile path world = (.ok route, world')) :
    (world'.files.entry? route).isSome := by
  obtain ⟨hr, rfl⟩ := Prod.mk.inj h
  change (world.files.openForAppending path).1 = .ok route at hr
  change (FileTree.entry? (world.files.openForAppending path).2 route).isSome
  rcases world.files.openForAppending_cases path with
    ⟨_, ho⟩ | ⟨_, entry, hentry, ho⟩ | ⟨_, hroute, _, ho⟩ <;> rw [ho] at hr <;> rw [ho]
  · cases hr
  · rw [← Except.ok.inj hr, hentry]
    rfl
  · rw [← Except.ok.inj hr, FileTree.entry?_put _ _ _ hroute, if_pos rfl]
    rfl

/-- **The account of the world.**  The world keeps the laws that a notify stream relies on. -/
def account : outlets.Account where
  received := received
  keeps := Keeps
  present route world := (world.files.entry? route).isSome
  takes := Takes
  keeps_of_move {place world world'} hmove h := by
    cases place with
    | standardError => trivial
    | writer name => trivial
    | file route => exact (grows_of_move hmove route).keeps h
  present_of_move {route world world'} hmove h := (grows_of_move hmove route).isSome h
  takes_of_move {place world world'} hmove h := by
    cases place with
    | standardError => trivial
    | writer name =>
      obtain ⟨hpoisoned, hgenerous⟩ := writer_of_move hmove name
      exact ⟨hpoisoned.trans h.1, hgenerous h.2⟩
    | file route => exact (grows_of_move hmove route).ne_full h
  delivers place := by
    cases place with
    | standardError =>
      exact delivers_standardError.deliversWhile fun _ _ => ⟨trivial, fun _ h => by cases h⟩
    | writer name =>
      have hsink : Sink.device.DeliversWhile (fun _ => True) Sink.accepted :=
        Sink.delivers.deliversWhile fun _ => id
      have hwriter : (outlets.writer name).DeliversWhile (fun _ => True) (received (.writer name)) :=
        hsink.within
      exact hwriter.restrict (fun _ => trivial) fun _ _ => ⟨trivial, fun _ h => by cases h⟩
    | file route =>
      have hfile : (outlets.file route).DeliversWhile
          (fun world => world.files.Keeps route ∧ (world.files.entry? route).isSome)
          (received (.file route)) := (FileTree.deliversWhile_appender route).within
      refine hfile.restrict (fun h => ⟨h.1, h.2 route rfl⟩) fun hstep h => ?_
      have hboth := hfile.stays hstep ⟨h.1, h.2 route rfl⟩
      exact ⟨hboth.1, fun _ hroute => Place.file.inj hroute ▸ hboth.2⟩
  apart := received_apart
  received_openFile := received_openFile
  present_openFile := isSome_of_openFile
  received_record := received_record
  willing place := by
    cases place with
    | standardError => exact willing_standardError
    | writer name =>
      have hsink : (outlets.writer name).Willing (fun world => (world.writer name).sink.Generous) :=
        Sink.willing.within
      refine hsink.restrict (fun h => h.2) fun hstep h => ?_
      have hsame := writer_of_move (.operate (.writer name) hstep) name
      exact ⟨hsame.1.trans h.1, hsame.2 h.2⟩
    | file route =>
      have hfile : (outlets.file route).Willing
          (fun world => world.files.entry? route ≠ some (.device .full)) :=
        (FileTree.willing_appender route).within
      exact hfile
  flush_ok _ := rfl
  ready_ok {name world} h := by
    change (if (world.writer name).poisoned then _ else _) = _
    rw [h.1]
    rfl

end PrefetchInfo.World
