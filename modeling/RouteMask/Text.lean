/-! # Text

Masks, templates, regular expressions and URLs are handled as lists of characters.  This module
holds what all of them share: the part of a text that a reader has consumed (`Text.upTo`), splitting
at a separator (`Text.splitOn`) and cutting in two (`Text.cut?`).

No character is a surrogate, so a text holds none.  Where the URL of a request comes in, it is a sequence
of code points first (`RawText`); masks and bases are texts from the start.

* `Text.upTo_append`: what stands before the rest is what was consumed.
* `Text.intercalate_splitOn`: joining the pieces with the separator gives the text back. -/

namespace RouteMask

/-- A text, character by character. -/
abbrev Text := List Char

namespace Text

/-- What all characters of a text satisfy is decided along the text, never over all characters. -/
instance (priority := 2000) decidableForall (P : Char → Prop) [DecidablePred P] (s : Text) :
    Decidable (∀ c ∈ s, P c) :=
  List.decidableBAll P s

/-- The part of `start` that stands before its tail `rest`. -/
def upTo (start rest : Text) : Text :=
  start.take (start.length - rest.length)

@[simp] theorem upTo_append (consumed rest : Text) : upTo (consumed ++ rest) rest = consumed := by
  simp [upTo]

/-! ### Splitting -/

/-- Put a character in front of the first piece. -/
def consFirst (c : Char) : List Text → List Text
  | [] => [[c]]
  | w :: ws => (c :: w) :: ws

/-- The pieces between the occurrences of `sep`, found from the left without overlap; the first
`skip` characters belong to an occurrence already found. -/
def splitFrom (sep : Text) : Nat → Text → List Text
  | _, [] => [[]]
  | skip + 1, _ :: rest => splitFrom sep skip rest
  | 0, c :: rest =>
    if sep.isPrefixOf (c :: rest) then [] :: splitFrom sep (sep.length - 1) rest
    else consFirst c (splitFrom sep 0 rest)

/-- The pieces of a text between the occurrences of a non-empty separator. -/
def splitOn (sep s : Text) : List Text :=
  splitFrom sep 0 s

theorem splitFrom_ne_nil (sep : Text) (skip : Nat) (s : Text) : splitFrom sep skip s ≠ [] := by
  fun_induction splitFrom sep skip s with
  | case1 => simp
  | case2 _ _ _ ih => exact ih
  | case3 => simp
  | case4 c rest _ ih =>
    cases h : splitFrom sep 0 rest with
    | nil => exact absurd h ih
    | cons => simp [consFirst]

theorem intercalate_consFirst (sep : Text) (c : Char) (ws : List Text) :
    sep.intercalate (consFirst c ws) = c :: sep.intercalate ws := by
  cases ws with
  | nil => simp [consFirst, List.intercalate]
  | cons w ws => cases ws <;> simp [consFirst, List.intercalate, List.intersperse]

theorem intercalate_nil_cons (sep : Text) {ws : List Text} (h : ws ≠ []) :
    sep.intercalate ([] :: ws) = sep ++ sep.intercalate ws := by
  cases ws with
  | nil => exact absurd rfl h
  | cons => simp [List.intercalate]

theorem intercalate_splitFrom {sep : Text} (hsep : sep ≠ []) (skip : Nat) (s : Text) :
    sep.intercalate (splitFrom sep skip s) = s.drop skip := by
  fun_induction splitFrom sep skip s with
  | case1 => simp [List.intercalate]
  | case2 _ _ _ ih => simpa using ih
  | case3 c rest h ih =>
    obtain ⟨t, ht⟩ := List.isPrefixOf_iff_prefix.mp h
    obtain ⟨a, sep', rfl⟩ := List.exists_cons_of_ne_nil hsep
    simp only [List.cons_append, List.cons.injEq] at ht
    rw [intercalate_nil_cons _ (splitFrom_ne_nil _ _ _), ih, ← ht.1, ← ht.2]
    simp
  | case4 c rest _ ih => simp [intercalate_consFirst, ih]

/-- Joining the pieces with the separator gives the text back. -/
theorem intercalate_splitOn {sep : Text} (hsep : sep ≠ []) (s : Text) :
    sep.intercalate (splitOn sep s) = s := by
  simpa [splitOn] using intercalate_splitFrom hsep 0 s

/-- The text before and after the first character that satisfies `p`, if there is one. -/
def cut? (p : Char → Bool) : Text → Option (Text × Text)
  | [] => none
  | c :: rest => if p c then some ([], rest) else (cut? p rest).map fun (a, b) => (c :: a, b)

end Text

end RouteMask
