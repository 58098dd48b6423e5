import Mathlib
import PrefetchInfo.Proofs.Notify.Balance
import PrefetchInfo.Proofs.World.Account

/-!
# Failing calls on a notify stream

A call that fails leaves the stream as it was, whichever of its steps failed. If no file could be
opened, no byte has moved. If the file owned before could not be flushed, some of its pending bytes may
have reached it, but what it has received and what is still pending are together what they were, so that
a later flush completes what this one began.

Everything is read from `perform_error_cases`, the list of the steps at which a call can fail.
-/

namespace PrefetchInfo.NotifyStream

open Notify

variable {σ φ ω : Type} {outlets : Outlets σ φ ω} {stream stream' : NotifyStream φ ω} {s s' : σ}
  {chain : ErrorChain}

/-! ### What failing calls leave -/

/-- Only a file that is owned can fail to be flushed, and it stays the destination. -/
lemma owned_of_flushOwned_error {failure : Failure}
    (h : stream.flushOwned outlets s = (.error failure, stream', s')) :
    ∃ path file pending pending', stream.destination = .owned path file pending ∧
      stream'.destination = .owned path file pending' := by
  rcases flushOwned_cases outlets stream s with
    ⟨path, file, pending, result, b, hd, _, hf⟩ | ⟨_, _, _, hf⟩ <;>
    rw [hf, Prod.mk.injEq, Prod.mk.injEq] at h <;> obtain ⟨hr, rfl, _⟩ := h
  · exact ⟨path, file, pending, b.pending, hd, rfl⟩
  · cases hr

/-- Up to the flush of the file owned before, at most a new file was opened, which changes nothing in
what places have received. -/
lemma received_before_flush (account : outlets.Account) {t : σ}
    (h : t = s ∨ ∃ path file, outlets.openFile path s = (.ok file, t)) :
    outlets.Reaches s t ∧ ∀ place, account.received place t = account.received place s := by
  rcases h with rfl | ⟨path, file, hopen⟩
  · exact ⟨.refl outlets t, fun _ => rfl⟩
  · refine ⟨.openFile hopen, fun place => ?_⟩
    have hsame := account.received_openFile place path s
    rwa [hopen] at hsame

/-- A flush that succeeds delivers each pending byte once. -/
lemma flush_delivers_pending (account : outlets.Account) {path pending : Bytes} {file : φ}
    (hd : stream.destination = .owned path file pending) (hfit : account.Fit (.file file) s)
    (h : stream.flushOwned outlets s = (.ok (), stream', s')) :
    stream'.destination = .owned path file [] ∧
      account.received (.file file) s' = account.received (.file file) s ++ pending := by
  obtain ⟨pending', hd', hsum, hnil⟩ := received_flushOwned account hd hfit h
  rw [hnil rfl] at hd' hsum
  exact ⟨hd', by rwa [List.append_nil] at hsum⟩

/-- **A call that fails leaves the stream as it was.**  Its verbosity and its destination are the same,
but for the bytes that are pending. If no file was opened, these are the same as well and no place has
received a byte. If the file owned before could not be flushed, what it has received and what is pending
are together what they were, so that a flush that succeeds later delivers each pending byte once. -/
theorem failure_keeps_stream (account : outlets.Account) (hreach : Reachable outlets stream s)
    {call : Call ω} (h : stream.perform outlets call s = (.error chain, stream', s')) :
    stream'.verbose = stream.verbose ∧ stream'.destination.bare = stream.destination.bare ∧
    (chain.kind = .argument .invalidValue ∨ chain.kind = .inOut .openFailed →
      stream' = stream ∧ ∀ place, account.received place s' = account.received place s) ∧
    (chain.kind = .inOut .closeFailed → ∃ path file pending pending',
      stream.destination = .owned path file pending ∧
      stream'.destination = .owned path file pending' ∧
      (account.keeps (.file file) s →
        account.received (.file file) s' ++ pending' = account.received (.file file) s ++ pending ∧
        ∀ t flushed t', account.Fit (.file file) t →
          stream'.flushOwned outlets t = (.ok (), flushed, t') →
          flushed.destination = .owned path file [] ∧
          account.received (.file file) t' = account.received (.file file) t ++ pending')) := by
  rcases perform_error_cases h with
    ⟨hkind, rfl, rfl⟩ | ⟨hkind, rfl, path, failure, hopen⟩ | ⟨hkind, failure, t, ht, hf⟩ |
    ⟨hkind, failure, data, hd⟩
  · exact ⟨rfl, rfl, fun _ => ⟨rfl, fun _ => rfl⟩, fun h => absurd (hkind.symm.trans h) (by decide)⟩
  · refine ⟨rfl, rfl, fun _ => ⟨rfl, fun place => ?_⟩,
      fun h => absurd (hkind.symm.trans h) (by decide)⟩
    have hsame := account.received_openFile place path s
    rwa [hopen] at hsame
  · have hput := flushOwned_staysPut hf
    refine ⟨hput.verbose, hput.bare, ?_, fun _ => ?_⟩
    · rintro (h | h) <;> exact absurd (hkind.symm.trans h) (by decide)
    · obtain ⟨path, file, pending, pending', hd, hd'⟩ := owned_of_flushOwned_error hf
      obtain ⟨hreaches, hreceived⟩ := received_before_flush account ht
      refine ⟨path, file, pending, pending', hd, hd', fun hkeeps => ⟨?_, ?_⟩⟩
      -- A new file may have been opened before the flush, which kept the old one and what is in it.
      · have hpresent := sound_of_reachable account hreach file (by rw [hd]; rfl)
        have hfit : account.Fit (.file file) t := by
          refine ⟨account.keeps_of_reaches hreaches hkeeps, fun other hother => ?_⟩
          exact Place.file.inj hother ▸ account.present_of_reaches hreaches hpresent
        obtain ⟨left, hleft, hsum, _⟩ := received_flushOwned account hd hfit hf
        obtain rfl : pending' = left := (Destination.owned.inj (hd'.symm.trans hleft)).2.2
        rw [hsum, hreceived]
      · intro u flushed u' hfit hok
        exact flush_delivers_pending account hd' hfit hok
  · have hput := deliver_staysPut hd
    refine ⟨hput.verbose, hput.bare, ?_, fun h => absurd (hkind.symm.trans h) (by decide)⟩
    rintro (h | h) <;> exact absurd (hkind.symm.trans h) (by decide)

/-- The device that is full stays the destination when it cannot be flushed for a new file, and what is
pending stays so. -/
theorem full_device_stays_pending :
    ∃ (before after : NotifyStream Route String × World) (chain : ErrorChain) (pending' : Bytes),
      Reachable World.outlets before.1 before.2 ∧
      before.1.perform World.outlets (.openFile (utf8 "b")) before.2 = (.error chain, after) ∧
      after.1.destination = .owned (utf8 "full") [utf8 "full"] pending' ∧
      World.received (.file [utf8 "full"]) after.2 ++ pending' = utf8 "abc" := by
  let tree : FileTree := ⟨[], [([utf8 "full"], .device .full)]⟩
  let stream : NotifyStream Route String :=
    ⟨true, .owned (utf8 "full") [utf8 "full"] (utf8 "abc")⟩
  let world : World := ⟨tree, [], [.event (.opened (utf8 "full"))]⟩
  have hrun : (silent : NotifyStream Route String).run World.outlets
      [.setVerbose true, .openFile (utf8 "full"), .print "abc"] (World.ofFiles tree) =
      (stream, world) := by cbv
  have hnew : Reachable World.outlets silent (World.ofFiles tree) := .new _
  have hreach := hnew.run [.setVerbose true, .openFile (utf8 "full"), .print "abc"]
  rw [hrun] at hreach
  have herror : stream.perform World.outlets (.openFile (utf8 "b")) world =
      (.error ⟨⟨.inOut .closeFailed, "unable to close notify stream"⟩,
        [⟨.inOut .generic, "No space left on device (os error 28)"⟩]⟩,
        (stream.perform World.outlets (.openFile (utf8 "b")) world).2) :=
    Prod.ext (by cbv) rfl
  have hkeeps : World.account.keeps (.file [utf8 "full"]) world := by
    intro entry hentry
    exact .inr (Option.some.inj hentry).symm
  obtain ⟨_, _, _, hclose⟩ := failure_keeps_stream World.account hreach herror
  obtain ⟨path, file, pending, pending', hbefore, hafter, hsum⟩ := hclose rfl
  obtain ⟨rfl, rfl, rfl⟩ := Destination.owned.inj hbefore
  exact ⟨(stream, world), _, _, pending', hreach, herror, hafter, (hsum hkeeps).1⟩

end PrefetchInfo.NotifyStream
