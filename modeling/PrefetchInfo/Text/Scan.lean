/-!
# Reading from the start of a text

A scan takes a value from the start of a text and leaves an end of the text, or it fails. What it
leaves is an end of the text by its type, so nothing that is read in this way gets longer.
-/

namespace PrefetchInfo.Text

/-- A reading of a value from the start of a text, together with what it leaves of the text. -/
def Scan (α : Type) : Type :=
  (text : List Char) → Option (α × { rest : List Char // rest <:+ text })

namespace Scan

instance : Monad Scan where
  pure value := fun text => some (value, ⟨text, List.suffix_rfl⟩)
  bind scan next := fun text =>
    match scan text with
    | none => none
    | some (value, middle) =>
      match next value middle.val with
      | none => none
      | some (result, rest) => some (result, ⟨rest.val, rest.property.trans middle.property⟩)

/-- The scan that fails. -/
def fail {α : Type} : Scan α :=
  fun _ => none

/-- The scan that takes nothing and has a value if there is one. -/
def ofOption {α : Type} (value : Option α) : Scan α :=
  value.elim fail pure

/-- Takes the next character. -/
def next : Scan Char
  | [] => none
  | c :: rest => some (c, ⟨rest, List.suffix_cons c rest⟩)

/-- Looks at the text and takes nothing. -/
def ahead : Scan (List Char) :=
  fun text => some (text, ⟨text, List.suffix_rfl⟩)

/-- Goes on with an end of the text. -/
def leave (stop : List Char → List Char) (isEnd : ∀ text, stop text <:+ text) : Scan Unit :=
  fun text => some ((), ⟨stop text, isEnd text⟩)

/-- Takes the characters up to the first that is not of a kind. -/
def takeWhile (kind : Char → Bool) : Scan (List Char) :=
  fun text => some (text.takeWhile kind, ⟨text.dropWhile kind, List.dropWhile_suffix kind⟩)

/-- Takes the given characters if they come next, and tells whether they did. -/
def accept (expected : List Char) : Scan Bool :=
  fun text =>
    if expected.isPrefixOf text then
      some (true, ⟨text.drop expected.length, List.drop_suffix expected.length text⟩)
    else some (false, ⟨text, List.suffix_rfl⟩)

/-- Takes what a scan takes, and nothing if it fails. -/
def optional {α : Type} (scan : Scan α) : Scan (Option α) :=
  fun text =>
    match scan text with
    | some (value, rest) => some (some value, rest)
    | none => some (none, ⟨text, List.suffix_rfl⟩)

end Scan

end PrefetchInfo.Text
