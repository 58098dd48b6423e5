import PrefetchInfo.Proofs.Info.Printed
import PrefetchInfo.Proofs.World.Account

/-!
# What a log holds

A log is a file that diagnostics go to. What it has received and what is still pending for it are
together what it holds. A text is added to that if diagnostics are wanted, and once the log is given up,
all that it holds is the content of the file. What else happens in the world makes no difference to it.
-/

namespace PrefetchInfo

namespace FileTree

variable {tree tree' : FileTree} {route : Route} {content : Bytes}

/-- Content is read where there is a file. -/
lemma content?_eq_some_iff :
    tree.content? route = some content ↔ tree.entry? route = some (.file content) := by
  unfold content?
  rcases tree.entry? route with _ | entry
  · simp
  · cases entry <;> simp

/-- What is read from a file is its content. -/
lemma contentAt_eq (h : tree.content? route = some content) : tree.contentAt route = content := by
  rw [contentAt, h, Option.getD_some]

/-- A file stays a file. -/
lemma Grows.isSome_content? (h : Grows tree tree' route) (hfile : (tree.content? route).isSome) :
    (tree'.content? route).isSome := by
  cases h with
  | same h =>
    have hsame : tree'.content? route = tree.content? route := by rw [content?, content?, h]
    rwa [hsame]
  | file h _ =>
    rw [content?_eq_some_iff.mpr h]
    rfl

end FileTree

namespace NotifyStream

open Notify

/-- Diagnostics go to a log, which holds a text. -/
structure Logs (stream : NotifyStream Route String) (world : World) (verbose : Bool) (route : Route)
    (text : Bytes) : Prop where
  /-- Whether diagnostics are wanted. -/
  verbose_eq : stream.verbose = verbose
  /-- The log is their destination. -/
  place_eq : stream.destination.place = .file route
  /-- The log is a file. -/
  isFile : (world.files.content? route).isSome
  /-- The text is what the log holds. -/
  holds_eq : holds World.account (.file route) stream world = text

namespace Logs

variable {stream stream' : NotifyStream Route String} {world world' : World} {verbose : Bool}
  {route : Route} {text : Bytes}

/-! ### What the world has of a log -/

/-- There is an entry for the log. -/
lemma exists_entry (h : stream.Logs world verbose route text) :
    ∃ content, world.files.entry? route = some (.file content) := by
  obtain ⟨content, hcontent⟩ := Option.isSome_iff_exists.mp h.isFile
  exact ⟨content, FileTree.content?_eq_some_iff.mp hcontent⟩

/-- The log exists. -/
lemma sound (h : stream.Logs world verbose route text) : Sound World.account stream world := by
  intro file hfile
  obtain ⟨content, hentry⟩ := h.exists_entry
  obtain rfl : route = file := Place.file.inj (h.place_eq.symm.trans hfile)
  change (world.files.entry? route).isSome
  rw [hentry]
  rfl

/-- The log keeps what it takes. -/
lemma keeps (h : stream.Logs world verbose route text) : World.account.keeps (.file route) world := by
  intro entry hentry
  obtain ⟨content, hfile⟩ := h.exists_entry
  have hsame : entry = .file content := Option.some.inj (hentry.symm.trans hfile)
  exact .inl ⟨content, hsame⟩

/-- Writing to the log succeeds. -/
lemma takes (h : stream.Logs world verbose route text) :
    World.account.takes stream.destination.place world := by
  obtain ⟨content, hentry⟩ := h.exists_entry
  rw [h.place_eq]
  change world.files.entry? route ≠ some (.device .full)
  rw [hentry]
  simp

/-! ### What happens to a log -/

/-- Whatever leaves the files alone leaves the log alone. -/
lemma of_files_eq (h : stream.Logs world verbose route text) (hfiles : world'.files = world.files) :
    stream.Logs world' verbose route text := by
  refine ⟨h.verbose_eq, h.place_eq, hfiles ▸ h.isFile, ?_⟩
  have hreceived : World.account.received (.file route) world' =
      World.account.received (.file route) world := by
    change world'.files.contentAt route = world.files.contentAt route
    rw [hfiles]
  rw [← h.holds_eq, holds, holds, hreceived]

/-- A stream that stays put keeps its log. -/
lemma of_staysPut (h : stream.Logs world verbose route text)
    (hput : StaysPut World.outlets stream world stream' world') :
    stream'.Logs world' verbose route (holds World.account (.file route) stream' world') := by
  refine ⟨hput.verbose.trans h.verbose_eq, hput.place.trans h.place_eq, ?_, rfl⟩
  have hreaches := Outlets.Reaches.of_device _ hput.reaches
  exact hreaches.keeps (P := fun world => (world.files.content? route).isSome)
    (fun hmove hfile => (World.grows_of_move hmove route).isSome_content? hfile) h.isFile

/-- A text is added to the log, if diagnostics are wanted. -/
lemma emit (h : stream.Logs world verbose route text) (message : String) :
    (stream.emit World.outlets message world).2.1.Logs (stream.emit World.outlets message world).2.2
      verbose route (text ++ if verbose = true then utf8 message else []) := by
  have hdelivered := deliver_ok World.account h.takes (utf8 message)
  have hholds := holds_emit World.account h.sound h.keeps message (fun _ => hdelivered)
  rw [h.verbose_eq, h.place_eq, h.holds_eq] at hholds
  simp only [and_true] at hholds
  rw [← hholds]
  exact h.of_staysPut (emit_staysPut rfl)

/-- The header of an input file that is printed is added to the log, if diagnostics are wanted. -/
lemma print {τ : Type} {out : Device τ} {t : τ} {codepage : Codepage} {input : Info.InputFile}
    (h : stream.Logs world verbose route text)
    (hok : (Info.Handle.print ⟨codepage, some input⟩ out World.outlets stream t world).1 = .ok ()) :
    (Info.Handle.print ⟨codepage, some input⟩ out World.outlets stream t world).2.2.1.Logs
      (Info.Handle.print ⟨codepage, some input⟩ out World.outlets stream t world).2.2.2 verbose route
      (text ++ if verbose = true then Info.Handle.dump input.signature.header else []) := by
  have hholds := Info.Handle.holds_print World.account h.sound h.keeps hok
  rw [h.verbose_eq, h.place_eq, h.holds_eq] at hholds
  simp only [and_true] at hholds
  rw [← hholds]
  exact h.of_staysPut (Info.Handle.print_staysPut out World.outlets input stream t world)

/-- Once the log is given up, what it held is its content. -/
lemma close (h : stream.Logs world verbose route text) :
    (stream.close World.outlets world).2.2.files.content? route = some text := by
  have hreceived := received_close World.account h.sound h.keeps (flushOwned_ok World.account h.takes)
  rw [h.holds_eq] at hreceived
  have hfile : ((stream.close World.outlets world).2.2.files.content? route).isSome :=
    (reaches_close World.outlets stream world).keeps
      (P := fun world => (world.files.content? route).isSome)
      (fun hmove hfile => (World.grows_of_move hmove route).isSome_content? hfile) h.isFile
  obtain ⟨content, hcontent⟩ := Option.isSome_iff_exists.mp hfile
  rw [hcontent, ← FileTree.contentAt_eq hcontent]
  exact congrArg some hreceived

end Logs

end NotifyStream

end PrefetchInfo
