import RouteMask.Text.Quoted

/-! # Code points

What comes in from outside as a text is a sequence of code points, and some of them may be surrogates that
belong to no pair.  No character stands for those, and nothing that holds one can be encoded.  So a
`RawText` is turned into a text before anything is looked for in it; `RawText.toText` does this, or says
which surrogates stand in the way.

* `RawText.toText_eq_ok_iff`: that succeeds for texts only.
* `RawText.spell` writes surrogates as pairs of private-use characters, for functions on texts that treat
  both alike; `RawText.unspell_spell`: `RawText.unspell` reads them back. -/

namespace RouteMask

/-- A code point: a character, or a surrogate by its place among the surrogates. -/
inductive CodePoint where
  | char (c : Char)
  | surrogate (place : Fin 2048)
deriving DecidableEq

/-- A text as it comes in, code point by code point. -/
abbrev RawText := List CodePoint

/-- Surrogates that cannot be encoded: the first run of them in a text. -/
structure EncodingError where
  /-- The number of code points before the run. -/
  position : Nat
  /-- The first surrogate of the run. -/
  surrogate : Fin 2048
  /-- The number of surrogates behind that one. -/
  more : Nat
deriving DecidableEq

namespace CodePoint

/-- Whether it is a surrogate. -/
def isSurrogate : CodePoint → Bool
  | char _ => false
  | surrogate _ => true

/-- The character, if it is one. -/
def char? : CodePoint → Option Char
  | char c => some c
  | surrogate _ => none

/-- A surrogate as messages show it. -/
def quotedSurrogate (place : Fin 2048) : Text :=
  '\\' :: 'u' :: Text.hexDigits 4 (0xD800 + place)

/-- A code point as it is shown between the marks `mark`. -/
def quoted (mark : Char) : CodePoint → Text
  | char c => Text.quotedChar mark c
  | surrogate place => quotedSurrogate place

end CodePoint

/-- The wording of an error. -/
def EncodingError.message (e : EncodingError) : Text :=
  "'utf-8' codec can't encode character".toList ++
    (if e.more = 0 then
      " '".toList ++ CodePoint.quotedSurrogate e.surrogate ++ "' in position ".toList ++
        (toString e.position).toList
    else
      "s in position ".toList ++ (toString e.position).toList ++ '-' ::
        (toString (e.position + e.more)).toList) ++
    ": surrogates not allowed".toList

namespace RawText

/-- The code points of a text. -/
def ofText (s : Text) : RawText :=
  s.map .char

instance : Coe Text RawText := ⟨ofText⟩

/-- The text behind `position` code points, unless a surrogate is found. -/
def toTextFrom (position : Nat) : RawText → Except EncodingError Text
  | [] => .ok []
  | .char c :: rest => (toTextFrom (position + 1) rest).map (c :: ·)
  | .surrogate place :: rest =>
    .error ⟨position, place, (rest.takeWhile CodePoint.isSurrogate).length⟩

/-- The text, unless a surrogate is found. -/
def toText (s : RawText) : Except EncodingError Text :=
  toTextFrom 0 s

theorem toTextFrom_ofText (position : Nat) (s : Text) : toTextFrom position (ofText s) = .ok s := by
  induction s generalizing position with
  | nil => rfl
  | cons c s ih =>
    change (toTextFrom (position + 1) (ofText s)).map (c :: ·) = .ok (c :: s)
    rw [ih]
    rfl

@[simp] theorem toText_ofText (s : Text) : toText (ofText s) = .ok s :=
  toTextFrom_ofText 0 s

theorem eq_ofText_of_toTextFrom {position : Nat} {r : RawText} {s : Text}
    (h : toTextFrom position r = .ok s) : r = ofText s := by
  induction r generalizing position s with
  | nil =>
    cases h
    rfl
  | cons point r ih =>
    cases point with
    | surrogate place => cases h
    | char c =>
      cases hrest : toTextFrom (position + 1) r with
      | error e =>
        rw [toTextFrom, hrest] at h
        cases h
      | ok rest =>
        rw [toTextFrom, hrest] at h
        cases h
        rw [ih hrest]
        rfl

theorem toText_eq_ok_iff {r : RawText} {s : Text} : r.toText = .ok s ↔ r = ofText s := by
  constructor
  · exact eq_ofText_of_toTextFrom
  · rintro rfl
    exact toText_ofText s

/-- The text that is left without the surrogates. -/
def chars (s : RawText) : Text :=
  s.filterMap CodePoint.char?

/-- A raw text as messages show it. -/
def quoted (s : RawText) : Text :=
  Text.quoteMark s.chars :: s.flatMap (CodePoint.quoted (Text.quoteMark s.chars)) ++
    [Text.quoteMark s.chars]

/-! ### Spelling surrogates -/

/-- The private-use character that announces another one. -/
def spellingMark : Char := '\uE000'

/-- A surrogate is spelled by two private-use characters, the first of which is doubled where it stands
for itself. -/
def spellPoint : CodePoint → Text
  | .char c => if c = spellingMark then [spellingMark, spellingMark] else [c]
  | .surrogate place => [spellingMark, Char.ofNat (0xE001 + place)]

/-- The text with its surrogates spelled. -/
def spell (s : RawText) : Text :=
  s.flatMap spellPoint

/-- The code point that is spelled by the mark and another character. -/
def spelledPoint (c : Char) : CodePoint :=
  if c = spellingMark then .char c else .surrogate (Fin.ofNat 2048 (c.toNat - 0xE001))

/-- Read spelled surrogates. -/
def unspell : Text → RawText
  | [] => []
  | [c] => [.char c]
  | a :: b :: rest =>
    if a = spellingMark then spelledPoint b :: unspell rest else .char a :: unspell (b :: rest)

theorem unspell_cons {c : Char} (hc : c ≠ spellingMark) (s : Text) :
    unspell (c :: s) = .char c :: unspell s := by
  cases s with
  | nil => rfl
  | cons d s => rw [unspell, if_neg hc]

theorem unspell_mark (c : Char) (s : Text) :
    unspell (spellingMark :: c :: s) = spelledPoint c :: unspell s := by
  rw [unspell, if_pos rfl]

theorem spelledPoint_ofNat (place : Fin 2048) :
    spelledPoint (Char.ofNat (0xE001 + place)) = .surrogate place := by
  have hvalid : (0xE001 + place.val).isValidChar := .inr ⟨by omega, by omega⟩
  have htoNat : (Char.ofNat (0xE001 + place.val)).toNat = 0xE001 + place.val := by
    rw [Char.ofNat, dif_pos hvalid]
    rfl
  have hmark : Char.ofNat (0xE001 + place.val) ≠ spellingMark := by
    intro h
    have hnat : 0xE001 + place.val = 0xE000 := htoNat.symm.trans (congrArg Char.toNat h)
    omega
  rw [spelledPoint, if_neg hmark, htoNat, Nat.add_sub_cancel_left]
  exact congrArg _ (Fin.ext (Nat.mod_eq_of_lt place.isLt))

/-- What has been spelled is read back. -/
theorem unspell_spell (s : RawText) : unspell (spell s) = s := by
  induction s with
  | nil => rfl
  | cons point s ih =>
    have hcons : spell (point :: s) = spellPoint point ++ spell s := List.flatMap_cons
    rw [hcons]
    cases point with
    | surrogate place =>
      rw [spellPoint, List.cons_append, List.singleton_append, unspell_mark, spelledPoint_ofNat, ih]
    | char c =>
      rw [spellPoint]
      split
      · next hc =>
        rw [List.cons_append, List.singleton_append, unspell_mark, ih, hc, spelledPoint, if_pos rfl]
      · next hc => rw [List.singleton_append, unspell_cons hc, ih]

end RawText

end RouteMask
