import PrefetchInfo.Proofs.Device.Delivery

/-!
# Calls on a device, one after the other

A user of a device offers bytes, gives it all of some bytes, or flushes it, and reads from each answer
what the call took. For a device that delivers, those answers are true: after any number of calls, the
view has grown by what the calls took, in their order.
-/

namespace PrefetchInfo.Device

variable {σ : Type} {device : Device σ}

/-! ### Calls and their answers -/

/-- A call on a device. -/
inductive Call where
  /-- Offers bytes. -/
  | write (data : Bytes)
  /-- Gives all of some bytes. -/
  | writeAll (data : Bytes)
  /-- Asks the device to pass on what it holds. -/
  | flush
  deriving DecidableEq, Repr

/-- The bytes that a call took, if it answers that it succeeded and with this count. -/
def Call.taken : Call → Nat → Bytes
  | .write data, count => data.take count
  | .writeAll data, _ => data
  | .flush, _ => []

/-- Makes a call. Its answer is a number of bytes: those that were taken of an offer, all that were
given, none for a flush. -/
def perform (device : Device σ) (call : Call) (s : σ) : Except Failure Nat × σ :=
  match call with
  | .write data => device.write data s
  | .writeAll data =>
    let (result, s) := device.writeAll data s
    (result.map fun _ => data.length, s)
  | .flush =>
    let (result, s) := device.flush s
    (result.map fun _ => 0, s)

/-- Makes calls one after the other, whatever they answer. -/
def run (device : Device σ) : List Call → σ → List (Except Failure Nat) × σ
  | [], s => ([], s)
  | call :: calls, s =>
    let (answer, s) := device.perform call s
    let (answers, s) := device.run calls s
    (answer :: answers, s)

/-- What a call took, going by its answer: the first `n` bytes of an offer for the answer `n`, all
that was given if that succeeded and a first part of it if it failed, nothing in all other cases. -/
def Took : Call → Except Failure Nat → Bytes → Prop
  | .write data, .ok n, taken => n ≤ data.length ∧ taken = data.take n
  | .write _, .error _, taken => taken = []
  | .writeAll data, .ok _, taken => taken = data
  | .writeAll data, .error _, taken => taken <+: data
  | .flush, _, taken => taken = []

/-- What calls took, one after the other. -/
inductive AllTook : List Call → List (Except Failure Nat) → List Bytes → Prop where
  /-- No calls took nothing. -/
  | nil : AllTook [] [] []
  /-- The first call took this, the others that. -/
  | cons {call answer taken calls answers rest} (first : Took call answer taken)
      (others : AllTook calls answers rest) :
      AllTook (call :: calls) (answer :: answers) (taken :: rest)

/-- What was written by calls that all succeeded with these counts. -/
def written (calls : List Call) (counts : List Nat) : Bytes :=
  (List.zipWith Call.taken calls counts).flatten

/-! ### What the answers say -/

/-- A call that succeeds took what its count says. -/
lemma eq_taken_of_took {call : Call} {count : Nat} {taken : Bytes}
    (h : Took call (.ok count) taken) : taken = call.taken count := by
  cases call with
  | write data => exact h.2
  | writeAll data => exact h
  | flush => exact h

/-- Calls that all succeed took what was written. -/
lemma flatten_eq_written {calls : List Call} {counts : List Nat} {taken : List Bytes}
    (h : AllTook calls (counts.map .ok) taken) : taken.flatten = written calls counts := by
  induction calls generalizing counts taken with
  | nil =>
    cases counts with
    | nil => cases h; rfl
    | cons count counts => cases h
  | cons call calls ih =>
    cases counts with
    | nil => cases h
    | cons count counts =>
      cases h with
      | cons first others =>
        rw [List.flatten_cons, eq_taken_of_took first, ih others]
        rfl

/-! ### Calls on a device that delivers -/

/-- A call is nothing but operations on the device. -/
lemma reaches_perform (device : Device σ) (call : Call) (s : σ) :
    device.Reaches s (device.perform call s).2 := by
  cases call with
  | write data => exact .write rfl
  | writeAll data => exact .writeAll device data s
  | flush => exact .flush rfl

/-- Calls are nothing but operations on the device. -/
lemma reaches_run (device : Device σ) (calls : List Call) (s : σ) :
    device.Reaches s (device.run calls s).2 := by
  induction calls generalizing s with
  | nil => exact .refl device s
  | cons call calls ih => exact (reaches_perform device call s).trans (ih _)

namespace DeliversWhile

variable {fit : σ → Prop} {content : σ → Bytes}

/-- A call tells truly what it took: that, and nothing else, is appended to the view. -/
lemma took_perform (h : device.DeliversWhile fit content) (call : Call) {s : σ} (hs : fit s) :
    ∃ taken, Took call (device.perform call s).1 taken ∧
      content (device.perform call s).2 = content s ++ taken := by
  cases call with
  | write data =>
    rcases hw : device.write data s with ⟨failure | n, s'⟩
    · refine ⟨[], ?_, ?_⟩
      · simp only [perform, hw, Took]
      · simp only [perform, hw, h.write_error hs hw, List.append_nil]
    · refine ⟨data.take n, ?_, ?_⟩
      · simpa only [perform, hw, Took, and_true] using device.taken_le hw
      · simp only [perform, hw, h.write_ok hs hw]
  | writeAll data =>
    obtain ⟨taken, hpre, hcontent, hall⟩ := h.content_writeAll data hs
    refine ⟨taken, ?_, hcontent⟩
    rcases hw : device.writeAll data s with ⟨failure | _, s'⟩
    · simpa only [perform, hw, Except.map, Took] using hpre
    · simpa only [perform, hw, Except.map, Took, hw] using hall (by rw [hw])
  | flush =>
    refine ⟨[], ?_, ?_⟩
    · simp only [Took]
    · rw [List.append_nil]
      exact h.flush hs

/-- **Calls tell truly what they took.**  After each of them, the view is what it was at first and
what the calls so far took, in their order. -/
theorem exists_took (h : device.DeliversWhile fit content) (calls : List Call) {s : σ} (hs : fit s) :
    ∃ taken, AllTook calls (device.run calls s).1 taken ∧
      ∀ k, content (device.run (calls.take k) s).2 = content s ++ (taken.take k).flatten := by
  induction calls generalizing s with
  | nil => exact ⟨[], .nil, fun k => by simp [run]⟩
  | cons call calls ih =>
    obtain ⟨first, hfirst, hcontent⟩ := h.took_perform call hs
    obtain ⟨rest, hrest, hview⟩ := ih (h.fit_of_reaches (reaches_perform device call s) hs)
    refine ⟨first :: rest, .cons hfirst hrest, fun k => ?_⟩
    cases k with
    | zero => simp [run]
    | succ k =>
      have hlater := hview k
      rw [hcontent, List.append_assoc] at hlater
      rw [List.take_succ_cons, List.take_succ_cons, List.flatten_cons]
      exact hlater

/-- After calls that all succeeded, the view has grown by what was written. -/
lemma content_run_ok (h : device.DeliversWhile fit content) {calls : List Call} {s : σ} (hs : fit s)
    {counts : List Nat} (hok : (device.run calls s).1 = counts.map .ok) :
    content (device.run calls s).2 = content s ++ written calls counts := by
  obtain ⟨taken, htook, hview⟩ := h.exists_took calls hs
  -- Far enough to reach the end of both lists, whose lengths need not be compared.
  have hlast := hview (calls.length + taken.length)
  rw [List.take_of_length_le (Nat.le_add_right _ _),
    List.take_of_length_le (Nat.le_add_left _ _)] at hlast
  rw [hlast, flatten_eq_written (hok ▸ htook)]

end DeliversWhile

end PrefetchInfo.Device
