import Mathlib.Data.List.Chain
import RouteMask.Proofs.Template.Lexemes
import RouteMask.Template.Reader

/-! # Phrases of a template

The lexemes of a template are read phrase by phrase.  A `Phrase` is a character, escaped or not; a
parameter, of which a name or a pattern is written, or both; or a group in braces around literal text
and at most one parameter.  Behind a parameter and behind a group a modifier may stand.

* `IsSentence`: the lexemes are phrases up to the end mark, and no parameter without a pattern touches
  the parameter or the group in front of it.
* `take?_optional` and `takeText_literals`: how the reader takes a phrase to pieces. -/

namespace RouteMask

/-- A lexeme of a kind. -/
abbrev Lexeme.Of (kind : LexemeKind) := { l : Lexeme // l.kind = kind }

/-- A lexeme that stands for a character, escaped or not. -/
abbrev Lexeme.Literal := { l : Lexeme // l.kind = .char ∨ l.kind = .escapedChar }

namespace Template

open Lexeme (Of Literal)

/-- What is written of a parameter. -/
inductive Slot where
  | named (name : Of .name) (pattern : Option (Of .pattern))
  | unnamed (pattern : Of .pattern)

/-- A phrase of a template. -/
inductive Phrase where
  | text (l : Literal)
  | slot (s : Slot) (modifier : Option (Of .modifier))
  /-- In braces stands literal text and perhaps a parameter, with literal text behind it. -/
  | group (opening : Of .openBrace) (lead : List Literal) (inner : Option (Slot × List Literal))
      (closing : Of .closeBrace) (modifier : Option (Of .modifier))

variable {kind : LexemeKind}

/-- The lexemes of something that need not be there. -/
def optional : Option (Of kind) → List Lexeme
  | some l => [l.1]
  | none => []

/-- The value of something that need not be there. -/
def value? (l : Option (Of kind)) : Option Text :=
  l.map (·.1.value)

/-- The text of some characters. -/
def literalText (ls : List Literal) : Text :=
  ls.flatMap (·.1.value)

@[simp] theorem literalText_nil : literalText [] = [] := rfl

theorem literalText_eq_nil_iff {lits : List Literal} (h : ∀ l ∈ lits, l.1.value ≠ []) :
    literalText lits = [] ↔ lits = [] := by
  cases lits with
  | nil => exact iff_of_true rfl rfl
  | cons l lits =>
      refine iff_of_false (fun hnil => ?_) nofun
      exact h l List.mem_cons_self (List.append_eq_nil_iff.mp hnil).1

/-- The lexemes of a parameter. -/
def Slot.lexemes : Slot → List Lexeme
  | named name pattern => name.1 :: optional pattern
  | unnamed pattern => [pattern.1]

/-- The name of a parameter, if it is written. -/
def Slot.name? : Slot → Option Text
  | named name _ => some name.1.value
  | unnamed _ => none

/-- The pattern of a parameter, if it is written. -/
def Slot.pattern? : Slot → Option Text
  | named _ pattern => value? pattern
  | unnamed pattern => some pattern.1.value

/-- A parameter of which only the name is written. -/
def Slot.IsBare : Slot → Prop
  | named _ pattern => pattern = none
  | unnamed _ => False

namespace Phrase

/-- The parameter in a group and the text behind it. -/
def innerLexemes : Option (Slot × List Literal) → List Lexeme
  | some (s, trail) => s.lexemes ++ trail.map Subtype.val
  | none => []

/-- The text behind the parameter in a group. -/
def innerTrail (inner : Option (Slot × List Literal)) : List Literal :=
  (inner.map Prod.snd).getD []

/-- The lexemes of a phrase. -/
def lexemes : Phrase → List Lexeme
  | text l => [l.1]
  | slot s modifier => s.lexemes ++ optional modifier
  | group opening lead inner closing modifier =>
    opening.1 :: (lead.map Subtype.val ++ (innerLexemes inner ++ closing.1 :: optional modifier))

theorem length_lexemes_pos (q : Phrase) : 0 < q.lexemes.length := by
  rcases q with l | ⟨name | pattern, modifier⟩ | _ <;> exact Nat.succ_pos _

/-- The phrase is a character. -/
def IsText : Phrase → Prop
  | text _ => True
  | _ => False

instance : DecidablePred IsText
  | text _ => isTrue trivial
  | slot _ _ => isFalse id
  | group _ _ _ _ _ => isFalse id

theorem IsText.exists_eq {q : Phrase} (h : q.IsText) : ∃ l, q = text l := by
  cases q with
  | text l => exact ⟨l, rfl⟩
  | slot s modifier => exact h.elim
  | group opening lead inner closing modifier => exact h.elim

/-- The parameter of a phrase. -/
def slot? : Phrase → Option Slot
  | text _ => none
  | slot s _ => some s
  | group _ _ inner _ _ => inner.map Prod.fst

/-- The name that is written in a phrase. -/
def name? (q : Phrase) : Option Text :=
  q.slot?.bind Slot.name?

/-- The pattern that is written in a phrase. -/
def pattern? (q : Phrase) : Option Text :=
  q.slot?.bind Slot.pattern?

/-- The modifier of a phrase. -/
def modifier? : Phrase → Option Text
  | text _ => none
  | slot _ modifier => value? modifier
  | group _ _ _ _ modifier => value? modifier

/-- The text that stands in braces in front of the parameter. -/
def lead : Phrase → List Literal
  | group _ lead _ _ _ => lead
  | _ => []

/-- The text that stands in braces behind the parameter. -/
def trail : Phrase → List Literal
  | group _ _ inner _ _ => innerTrail inner
  | _ => []

theorem slot_subset {q : Phrase} {s : Slot} (h : q.slot? = some s) : s.lexemes ⊆ q.lexemes := by
  intro l hl
  rcases q with _ | ⟨t, modifier⟩ | ⟨opening, lead, _ | ⟨t, trail⟩, closing, modifier⟩
  · cases h
  · obtain rfl := Option.some.inj h
    exact List.mem_append_left _ hl
  · cases h
  · obtain rfl := Option.some.inj h
    exact List.mem_cons_of_mem _ (List.mem_append_right _
      (List.mem_append_left _ (List.mem_append_left _ hl)))

theorem lead_subset (q : Phrase) : q.lead.map Subtype.val ⊆ q.lexemes := by
  rcases q with _ | _ | _
  · exact List.nil_subset _
  · exact List.nil_subset _
  · exact fun l hl => List.mem_cons_of_mem _ (List.mem_append_left _ hl)

theorem trail_subset (q : Phrase) : q.trail.map Subtype.val ⊆ q.lexemes := by
  rcases q with _ | _ | ⟨opening, lead, _ | ⟨s, trail⟩, closing, modifier⟩
  · exact List.nil_subset _
  · exact List.nil_subset _
  · exact List.nil_subset _
  · exact fun l hl => List.mem_cons_of_mem _ (List.mem_append_right _
      (List.mem_append_left _ (List.mem_append_right _ hl)))

/-- Of the parameter only the name is written, and no text in front of it, so something else has to
separate it from a parameter before it. -/
def NeedsText (q : Phrase) : Prop :=
  (∃ s, q.slot? = some s ∧ s.IsBare) ∧ q.lead = []

/-- Whether the second phrase may follow directly on the first. -/
def MayFollow (a b : Phrase) : Prop :=
  a.IsText ∨ ¬ b.NeedsText

/-- The lexemes of a sequence of phrases. -/
def allLexemes (phrases : List Phrase) : List Lexeme :=
  phrases.flatMap lexemes

@[simp] theorem allLexemes_cons (q : Phrase) (phrases : List Phrase) :
    allLexemes (q :: phrases) = q.lexemes ++ allLexemes phrases := rfl

@[simp] theorem allLexemes_append (phrases phrases' : List Phrase) :
    allLexemes (phrases ++ phrases') = allLexemes phrases ++ allLexemes phrases' :=
  List.flatMap_append

end Phrase

/-- The lexemes are phrases and then the end mark, and no parameter without a pattern of its own follows
directly on a parameter or a group. -/
def IsSentence (lexemes : List Lexeme) : Prop :=
  ∃ (phrases : List Phrase) (last : Of .finish),
    lexemes = Phrase.allLexemes phrases ++ [last.1] ∧ phrases.IsChain Phrase.MayFollow

/-! ### Taking phrases to pieces -/

/-- The first lexeme is of the kind. -/
def Begins (kind : LexemeKind) : List Lexeme → Prop
  | l :: _ => l.kind = kind
  | [] => False

variable {ls rest : List Lexeme}

theorem take?_of_not_begins (h : ¬ Begins kind ls) : take? kind ls = (none, ls) := by
  cases ls with
  | nil => rfl
  | cons l ls => exact if_neg h

theorem take?_of_ne {l : Lexeme} (h : l.kind ≠ kind) (rest : List Lexeme) :
    take? kind (l :: rest) = (none, l :: rest) :=
  if_neg h

/-- What need not be there is taken if it is there. -/
theorem take?_optional {o : Option (Of kind)} (h : o = none → ¬ Begins kind rest) :
    take? kind (optional o ++ rest) = (value? o, rest) := by
  cases o with
  | none => exact take?_of_not_begins (h rfl)
  | some l => exact if_pos l.2

theorem exists_optional (kind : LexemeKind) (ls : List Lexeme) :
    ∃ (o : Option (Of kind)) (rest : List Lexeme),
      ls = optional o ++ rest ∧ (o = none → ¬ Begins kind rest) := by
  by_cases h : Begins kind ls
  · cases ls with
    | nil => cases h
    | cons l ls => exact ⟨some ⟨l, h⟩, ls, rfl, nofun⟩
  · exact ⟨none, ls, rfl, fun _ => h⟩

/-- All of the characters are taken. -/
theorem takeText_literals (lits : List Literal)
    (h : ¬ Begins .char rest ∧ ¬ Begins .escapedChar rest) :
    takeText (lits.map Subtype.val ++ rest) = (literalText lits, rest) := by
  induction lits with
  | nil =>
      cases rest with
      | nil => rfl
      | cons l rest => exact if_neg (not_or.mpr h)
  | cons l lits ih =>
      rw [List.map_cons, List.cons_append, takeText, if_pos l.2, ih]
      rfl

theorem exists_literals (ls : List Lexeme) :
    ∃ (lits : List Literal) (rest : List Lexeme), ls = lits.map Subtype.val ++ rest ∧
      ¬ Begins .char rest ∧ ¬ Begins .escapedChar rest := by
  induction ls with
  | nil => exact ⟨[], [], rfl, id, id⟩
  | cons l ls ih =>
      by_cases hl : l.kind = .char ∨ l.kind = .escapedChar
      · obtain ⟨lits, rest, rfl, hrest⟩ := ih
        exact ⟨⟨l, hl⟩ :: lits, rest, rfl, hrest⟩
      · exact ⟨[], l :: ls, rfl, not_or.mp hl⟩

theorem not_begins_of_of {kind kind' : LexemeKind} (l : Of kind) (h : kind' ≠ kind)
    (ls : List Lexeme) : ¬ Begins kind' (l.1 :: ls) :=
  fun hkind => h (hkind.symm.trans l.2)

/-- The first lexeme of a parameter is its name or its pattern. -/
theorem Slot.not_begins (s : Slot) {kind : LexemeKind} (hname : kind ≠ .name)
    (hpattern : kind ≠ .pattern) (ls : List Lexeme) : ¬ Begins kind (s.lexemes ++ ls) := by
  cases s with
  | named name pattern => exact not_begins_of_of name hname _
  | unnamed pattern => exact not_begins_of_of pattern hpattern _

/-! ### Phrases that take all they can -/

/-- All that belongs to the inside of a group has been taken. -/
structure Phrase.InnerEndsBefore (inner : Option (Slot × List Literal)) (ls : List Lexeme) : Prop where
  not_char : ¬ Begins .char ls
  not_escapedChar : ¬ Begins .escapedChar ls
  not_slot : inner = none → ¬ Begins .name ls ∧ ¬ Begins .pattern ls
  not_pattern : ∀ s, inner = some (s, []) → s.IsBare → ¬ Begins .pattern ls

theorem Phrase.innerEndsBefore_closing (inner : Option (Slot × List Literal))
    (closing : Of .closeBrace) (ls : List Lexeme) : InnerEndsBefore inner (closing.1 :: ls) where
  not_char := not_begins_of_of closing (by decide) ls
  not_escapedChar := not_begins_of_of closing (by decide) ls
  not_slot _ := ⟨not_begins_of_of closing (by decide) ls, not_begins_of_of closing (by decide) ls⟩
  not_pattern _ _ _ := not_begins_of_of closing (by decide) ls

namespace Phrase

/-- In front of these lexemes the phrase has all that belongs to it. -/
def EndsBefore : Phrase → List Lexeme → Prop
  | text _, _ => True
  | slot s modifier, ls =>
    modifier = none → ¬ Begins .modifier ls ∧ (s.IsBare → ¬ Begins .pattern ls)
  | group _ _ _ _ modifier, ls => modifier = none → ¬ Begins .modifier ls

/-- In front of these lexemes each of the phrases has all that belongs to it. -/
def AreMaximal : List Phrase → List Lexeme → Prop
  | [], _ => True
  | q :: phrases, ls => q.EndsBefore (allLexemes phrases ++ ls) ∧ AreMaximal phrases ls

end Phrase

/-- What stands in braces behind the lead. -/
theorem exists_inner {ls : List Lexeme} (hchar : ¬ Begins .char ls)
    (hescaped : ¬ Begins .escapedChar ls) :
    ∃ (inner : Option (Slot × List Literal)) (rest : List Lexeme),
      ls = Phrase.innerLexemes inner ++ rest ∧ Phrase.InnerEndsBefore inner rest := by
  have hslot : ∀ (s : Slot) (ls : List Lexeme), (s.IsBare → ¬ Begins .pattern ls) →
      ∃ (inner : Option (Slot × List Literal)) (rest : List Lexeme),
        s.lexemes ++ ls = Phrase.innerLexemes inner ++ rest ∧ Phrase.InnerEndsBefore inner rest := by
    intro s ls hbare
    obtain ⟨trail, rest, rfl, hrest⟩ := exists_literals ls
    refine ⟨some (s, trail), rest, (List.append_assoc ..).symm, hrest.1, hrest.2, nofun, ?_⟩
    rintro _ heq hs
    cases heq
    exact hbare hs
  cases ls with
  | nil => exact ⟨none, [], rfl, id, id, fun _ => ⟨id, id⟩, nofun⟩
  | cons l ls =>
      by_cases hname : l.kind = .name
      · obtain ⟨pattern, ls, rfl, hpattern⟩ := exists_optional .pattern ls
        exact hslot (.named ⟨l, hname⟩ pattern) ls hpattern
      by_cases hpattern : l.kind = .pattern
      · exact hslot (.unnamed ⟨l, hpattern⟩) ls nofun
      exact ⟨none, l :: ls, rfl, hchar, hescaped, fun _ => ⟨hname, hpattern⟩, nofun⟩

/-- Here no phrase begins: there is a modifier that belongs to nothing, or a closing brace, or a group
that is not closed. -/
inductive IsStuck : (expected : LexemeKind) → (found : Lexeme) → List Lexeme → Prop where
  | stray {l : Lexeme} (h : l.kind = .modifier ∨ l.kind = .closeBrace) (ls : List Lexeme) :
    IsStuck .finish l (l :: ls)
  | unclosed (opening : Of .openBrace) (lead : List Literal) {inner : Option (Slot × List Literal)}
    {l : Lexeme} (ls : List Lexeme) (hl : l.kind ≠ .closeBrace)
    (h : Phrase.InnerEndsBefore inner (l :: ls)) :
    IsStuck .closeBrace l (opening.1 :: (lead.map Subtype.val ++ (Phrase.innerLexemes inner ++ l :: ls)))

theorem IsStuck.found_mem {expected : LexemeKind} {found : Lexeme} {ls : List Lexeme}
    (h : IsStuck expected found ls) : found ∈ ls := by
  cases h with
  | stray => exact List.mem_cons_self
  | unclosed => simp

/-- Lexemes as the scanner gives them: the end mark stands at the end and nowhere else, and no other
lexeme is empty. -/
def AreScanned : List Lexeme → Prop
  | [] => False
  | l :: ls => if l.kind = .finish then ls = [] else l.value ≠ [] ∧ AreScanned ls

theorem AreScanned.tail {l : Lexeme} {ls : List Lexeme} (h : AreScanned (l :: ls))
    (hl : l.kind ≠ .finish) : AreScanned ls := by
  rw [AreScanned, if_neg hl] at h
  exact h.2

theorem AreScanned.of_append {ls : List Lexeme} (h : AreScanned (ls ++ rest))
    (hls : ∀ l ∈ ls, l.kind ≠ .finish) : AreScanned rest := by
  induction ls with
  | nil => exact h
  | cons l ls ih =>
      exact ih (h.tail (hls l List.mem_cons_self)) fun k hk => hls k (List.mem_cons_of_mem l hk)

theorem AreScanned.ne_nil_of_append {ls : List Lexeme} (h : AreScanned (ls ++ rest))
    (hls : ∀ l ∈ ls, l.kind ≠ .finish) : ∀ l ∈ ls, l.value ≠ [] := by
  induction ls with
  | nil => exact nofun
  | cons l ls ih =>
      have hl := hls l List.mem_cons_self
      have hrest := ih (h.tail hl) fun k hk => hls k (List.mem_cons_of_mem l hk)
      rw [List.cons_append, AreScanned, if_neg hl] at h
      exact List.forall_mem_cons.mpr ⟨h.1, hrest⟩

theorem areScanned_of_scanFrom {fuel index : Nat} {s : Text} {lexemes : List Lexeme}
    (h : Lexeme.scanFrom fuel index s = .ok lexemes) : AreScanned lexemes := by
  induction fuel generalizing index s lexemes with
  | zero =>
      cases h
      rfl
  | succ fuel ih =>
      cases s with
      | nil =>
          cases h
          rfl
      | cons c s =>
          obtain ⟨⟨l, s'⟩, hnext, h⟩ := exists_of_bind_eq_ok h
          obtain ⟨ls, hrest, h⟩ := exists_of_bind_eq_ok h
          cases h
          obtain ⟨-, -, hkind, hvalue, -⟩ := Lexeme.next_eq_ok_iff.mp hnext
          rw [AreScanned, if_neg hkind]
          exact ⟨Lexeme.value_ne_nil hvalue hkind, ih hrest⟩

/-! ### Every template begins with phrases -/

theorem ne_finish_of_mem_optional (hkind : kind ≠ .finish) {o : Option (Of kind)} {l : Lexeme}
    (h : l ∈ optional o) : l.kind ≠ .finish := by
  cases o with
  | none => cases h
  | some o =>
      obtain rfl := List.mem_singleton.mp h
      rw [o.2]
      exact hkind

theorem ne_finish_of_mem_literals {lits : List Literal} {l : Lexeme}
    (h : l ∈ lits.map Subtype.val) : l.kind ≠ .finish := by
  obtain ⟨lit, -, rfl⟩ := List.mem_map.mp h
  rcases lit.2 with hkind | hkind <;> rw [hkind] <;> decide

theorem Slot.ne_finish_of_mem_lexemes {s : Slot} {l : Lexeme} (h : l ∈ s.lexemes) :
    l.kind ≠ .finish := by
  cases s with
  | named name pattern =>
      rcases List.mem_cons.mp h with rfl | h
      · rw [name.2]
        decide
      · exact ne_finish_of_mem_optional (by decide) h
  | unnamed pattern =>
      obtain rfl := List.mem_singleton.mp h
      rw [pattern.2]
      decide

theorem Phrase.ne_finish_of_mem_innerLexemes {inner : Option (Slot × List Literal)} {l : Lexeme}
    (h : l ∈ innerLexemes inner) : l.kind ≠ .finish := by
  rcases inner with _ | ⟨s, trail⟩
  · cases h
  · rcases List.mem_append.mp h with h | h
    · exact s.ne_finish_of_mem_lexemes h
    · exact ne_finish_of_mem_literals h

/-- The end mark is in no phrase. -/
theorem Phrase.ne_finish_of_mem_lexemes {q : Phrase} {l : Lexeme} (h : l ∈ q.lexemes) :
    l.kind ≠ .finish := by
  cases q with
  | text lit =>
      have h : l ∈ [lit].map Subtype.val := h
      exact ne_finish_of_mem_literals h
  | slot s modifier =>
      rcases List.mem_append.mp h with h | h
      · exact s.ne_finish_of_mem_lexemes h
      · exact ne_finish_of_mem_optional (by decide) h
  | group opening lead inner closing modifier =>
      simp only [lexemes, List.mem_cons, List.mem_append] at h
      rcases h with rfl | h | h | rfl | h
      · rw [opening.2]
        decide
      · exact ne_finish_of_mem_literals h
      · exact ne_finish_of_mem_innerLexemes h
      · rw [closing.2]
        decide
      · exact ne_finish_of_mem_optional (by decide) h

theorem Phrase.ne_finish_of_mem_allLexemes {phrases : List Phrase} {l : Lexeme}
    (h : l ∈ allLexemes phrases) : l.kind ≠ .finish := by
  obtain ⟨q, -, hl⟩ := List.mem_flatMap.mp h
  exact q.ne_finish_of_mem_lexemes hl

/-- A parameter is a phrase, with the modifier behind it. -/
theorem exists_slot (s : Slot) {ls : List Lexeme} (hs : s.IsBare → ¬ Begins .pattern ls) :
    ∃ (q : Phrase) (rest : List Lexeme), s.lexemes ++ ls = q.lexemes ++ rest ∧ q.EndsBefore rest := by
  obtain ⟨modifier, rest, rfl, hm⟩ := exists_optional .modifier ls
  refine ⟨.slot s modifier, rest, (List.append_assoc ..).symm, fun hnone => ⟨hm hnone, fun hbare => ?_⟩⟩
  rw [hnone] at hs
  exact hs hbare

/-- Where the end has not been reached a phrase begins, or the reader is stuck. -/
theorem exists_phrase {l : Lexeme} {ls : List Lexeme} (h : AreScanned (l :: ls))
    (hl : l.kind ≠ .finish) :
    (∃ (q : Phrase) (rest : List Lexeme), l :: ls = q.lexemes ++ rest ∧ q.EndsBefore rest) ∨
      ∃ expected found, IsStuck expected found (l :: ls) := by
  cases hkind : l.kind with
  | char => exact Or.inl ⟨.text ⟨l, Or.inl hkind⟩, ls, rfl, trivial⟩
  | escapedChar => exact Or.inl ⟨.text ⟨l, Or.inr hkind⟩, ls, rfl, trivial⟩
  | name =>
      obtain ⟨pattern, rest, rfl, hpattern⟩ := exists_optional .pattern ls
      exact Or.inl (exists_slot (.named ⟨l, hkind⟩ pattern) hpattern)
  | pattern => exact Or.inl (exists_slot (.unnamed ⟨l, hkind⟩) nofun)
  | openBrace =>
      obtain ⟨lead, ls, rfl, hchar, hescaped⟩ := exists_literals ls
      obtain ⟨inner, ls, rfl, hinner⟩ := exists_inner hchar hescaped
      cases ls with
      | nil =>
          have hfront : ∀ k ∈ l :: (lead.map Subtype.val ++ Phrase.innerLexemes inner),
              k.kind ≠ .finish := by
            intro k hk
            rcases List.mem_cons.mp hk with rfl | hk
            · exact hl
            rcases List.mem_append.mp hk with hk | hk
            · exact ne_finish_of_mem_literals hk
            · exact Phrase.ne_finish_of_mem_innerLexemes hk
          rw [List.append_nil, ← List.append_nil (l :: _)] at h
          exact (h.of_append hfront).elim
      | cons closing ls =>
          by_cases hclosing : closing.kind = .closeBrace
          · obtain ⟨modifier, rest, rfl, hm⟩ := exists_optional .modifier ls
            refine Or.inl ⟨.group ⟨l, hkind⟩ lead inner ⟨closing, hclosing⟩ modifier, rest, ?_, hm⟩
            simp [Phrase.lexemes]
          · exact Or.inr ⟨_, _, .unclosed ⟨l, hkind⟩ lead ls hclosing hinner⟩
  | closeBrace => exact Or.inr ⟨_, _, .stray (Or.inr hkind) ls⟩
  | modifier => exact Or.inr ⟨_, _, .stray (Or.inl hkind) ls⟩
  | finish => exact absurd hkind hl

/-- Lexemes of the scanner are phrases up to the end mark, or up to where the reader is stuck. -/
theorem exists_phrases {ls : List Lexeme} (h : AreScanned ls) :
    ∃ (phrases : List Phrase) (rest : List Lexeme),
      ls = Phrase.allLexemes phrases ++ rest ∧ Phrase.AreMaximal phrases rest ∧
        ((∃ last : Of .finish, rest = [last.1]) ∨ ∃ expected found, IsStuck expected found rest) := by
  cases ls with
  | nil => exact h.elim
  | cons l ls =>
      by_cases hl : l.kind = .finish
      · rw [AreScanned, if_pos hl] at h
        exact ⟨[], l :: ls, rfl, trivial, Or.inl ⟨⟨l, hl⟩, congrArg _ h⟩⟩
      rcases exists_phrase h hl with ⟨q, rest, heq, hends⟩ | hstuck
      · have hrest : AreScanned rest := (heq ▸ h).of_append fun _ => Phrase.ne_finish_of_mem_lexemes
        have hlength : rest.length < (l :: ls).length := by
          have hpos : 0 < q.lexemes.length := q.length_lexemes_pos
          rw [heq, List.length_append]
          omega
        obtain ⟨phrases, rest, rfl, hmaximal, hstop⟩ := exists_phrases hrest
        exact ⟨q :: phrases, rest, by rw [heq, Phrase.allLexemes_cons, List.append_assoc],
          ⟨hends, hmaximal⟩, hstop⟩
      · exact ⟨[], l :: ls, rfl, trivial, Or.inr hstuck⟩
termination_by ls.length

end Template

end RouteMask
