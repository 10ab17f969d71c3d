import RouteMask.Proofs.Template.Sentence
import RouteMask.Proofs.Text.Ascii

/-! # Which parameters touch

A parameter without a pattern of its own is refused when it follows directly on a parameter or a group.
What it follows on need not be a parameter that it touches: it may be a literal group, or a parameter with
text behind it in braces.

* `Phrase.Touches`: two parameters with no text between them.
* `Refuses`: where a template is refused.
* `read_eq_error_adjacent_iff`: that is where the reader refuses it, and what it says there. -/

namespace RouteMask.Template

open Lexeme (Of Literal)

variable {leads segment : Text}

/-- Two parameters have no text between them when they follow directly on each other. -/
def Phrase.Touches (a b : Phrase) : Prop :=
  a.slot?.isSome ∧ b.slot?.isSome ∧ a.trail = [] ∧ b.lead = []

/-! ### The parameter of a phrase -/

namespace Phrase.Gives

variable {n : Nat} {q : Phrase} {p : Parameter}

/-- A phrase with a parameter has a name or a number. -/
theorem name_ne_nil_iff (h : q.Gives segment n p) (hvalues : ∀ l ∈ q.lexemes, l.value ≠ []) :
    p.name ≠ [] ↔ q.slot?.isSome := by
  rw [h.name_eq, name?, pattern?]
  cases hs : q.slot? with
  | none => exact iff_of_false (fun hne => hne rfl) nofun
  | some s =>
      refine iff_of_true ?_ rfl
      cases s with
      | named name pattern => exact hvalues name.1 (slot_subset hs List.mem_cons_self)
      | unnamed pattern => exact Text.toString_ne_nil n

theorem isCapturing_iff (h : q.Gives segment n p) (hvalues : ∀ l ∈ q.lexemes, l.value ≠ [])
    (hsegment : segment ≠ []) : p.isCapturing ↔ q.slot?.isSome := by
  have hne : p.isCapturing ↔ p.pattern ≠ [] := by simp [Parameter.isCapturing]
  rw [hne, h.pattern_eq, name?, pattern?]
  cases hs : q.slot? with
  | none => exact iff_of_false (fun hne => hne rfl) nofun
  | some s =>
      refine iff_of_true ?_ rfl
      rcases s with ⟨name, _ | pattern⟩ | pattern
      · exact hsegment
      · exact hvalues pattern.1
          (slot_subset hs (List.mem_cons_of_mem _ List.mem_cons_self))
      · exact hvalues pattern.1 (slot_subset hs List.mem_cons_self)

end Phrase.Gives

namespace Reading

variable {r r' : Reading}

theorem unnamed_of_run {phrases : List Phrase} (h : run leads segment r phrases = .ok r') :
    r'.draft.unnamed = r.draft.unnamed + phrases.countP (·.IsNumbered) := by
  induction phrases generalizing r with
  | nil =>
      obtain rfl : r = r' := Except.ok.inj h
      rfl
  | cons q phrases ih =>
      rw [run_cons] at h
      obtain ⟨r₁, hstep, h⟩ := exists_of_bind_eq_ok h
      rw [ih h, List.countP_cons]
      by_cases hq : q.IsText
      · obtain ⟨l, rfl⟩ := hq.exists_eq
        obtain ⟨-, hunnamed, -⟩ := of_step_text hstep
        rw [hunnamed, if_neg (by simp [Phrase.IsNumbered, Phrase.pattern?, Phrase.slot?])]
        omega
      · obtain ⟨-, -, -, -, -, -, -, hunnamed⟩ := exists_of_step hq hstep
        rw [hunnamed]
        simp only [decide_eq_true_eq]
        omega

theorem run_concat_eq_ok {before : List Phrase} {a : Phrase}
    (h : run leads segment r (before ++ [a]) = .ok r') :
    ∃ r₁, run leads segment r before = .ok r₁ ∧ step leads segment r₁ a = .ok r' := by
  rw [run, List.foldlM_append] at h
  obtain ⟨r₁, hbefore, h⟩ := exists_of_bind_eq_ok h
  obtain ⟨r₂, hstep, h⟩ := exists_of_bind_eq_ok h
  obtain rfl : r₂ = r' := Except.ok.inj h
  exact ⟨r₁, hbefore, hstep⟩

/-- What is touched behind a phrase has been made of it. -/
theorem gives_of_touches {before : List Phrase} {a : Phrase} {p : Parameter}
    (hvalues : ∀ l ∈ a.lexemes, l.value ≠ [])
    (h : run leads segment r (before ++ [a]) = .ok r') (htouches : r'.Touches p) :
    ¬ a.IsText ∧ a.Gives segment (r.draft.unnamed + before.countP (·.IsNumbered)) p := by
  obtain ⟨r₁, hbefore, hstep⟩ := run_concat_eq_ok h
  have ha : ¬ a.IsText := (exists_touches_iff hstep hvalues).mp ⟨p, htouches⟩
  obtain ⟨front, p', hdone, -, -, hgives, -, -⟩ := exists_of_step ha hstep
  obtain rfl : p' = p := by
    have hhead : r'.draft.done.head? = some (.parameter p') := by rw [hdone]; rfl
    exact Part.parameter.inj (Option.some.inj (hhead.symm.trans htouches.2))
  rw [unnamed_of_run hbefore] at hgives
  exact ⟨ha, hgives⟩

end Reading

/-! ### Where templates are refused -/

/-- The phrase `b` is refused because it follows directly on `a`, of which `p` has been made. -/
structure Refuses (segment : Text) (phrases before : List Phrase) (a b : Phrase) (p : Parameter) :
    Prop where
  exists_after : ∃ after, phrases = before ++ a :: b :: after
  /-- Up to there nothing is refused. -/
  isChain : (before ++ [a]).IsChain Phrase.MayFollow
  not_isText : ¬ a.IsText
  needsText : b.NeedsText
  gives : a.Gives segment (before.countP (·.IsNumbered)) p

theorem Reading.run_start_eq_error_iff {phrases : List Phrase}
    (hvalues : ∀ l ∈ Phrase.allLexemes phrases, l.value ≠ []) {e : Error} :
    run leads segment ⟨.start, []⟩ phrases = .error e ↔
      ∃ before a b p, Refuses segment phrases before a b p ∧ e = .adjacent p.name := by
  constructor
  · intro h
    obtain ⟨front, b, after, r, p, rfl, hfront, hneeds, htouches, rfl⟩ :=
      exists_of_run_eq_error hvalues h
    rw [Phrase.allLexemes_append, List.forall_mem_append] at hvalues
    rcases front.eq_nil_or_concat' with rfl | ⟨before, a, rfl⟩
    · obtain rfl := Except.ok.inj hfront
      exact nomatch htouches.2
    · have ha : ∀ l ∈ a.lexemes, l.value ≠ [] := fun l hl => hvalues.1 l (by simp [hl])
      obtain ⟨ha, hgives⟩ := gives_of_touches ha hfront htouches
      have hchain := ((exists_run_eq_ok_iff ⟨.start, []⟩ hvalues.1).mp ⟨r, hfront⟩).1
      exact ⟨before, a, b, p, ⟨⟨after, by simp⟩, hchain, ha, hneeds, by simpa [Draft.start] using hgives⟩,
        rfl⟩
  · rintro ⟨before, a, b, p, ⟨⟨after, rfl⟩, hchain, ha, hneeds, hgives⟩, rfl⟩
    rw [List.append_cons, Phrase.allLexemes_append, List.forall_mem_append, Phrase.allLexemes_cons,
      List.forall_mem_append] at hvalues
    obtain ⟨hfrontValues, hbValues, -⟩ := hvalues
    have haValues : ∀ l ∈ a.lexemes, l.value ≠ [] := fun l hl => hfrontValues l (by simp [hl])
    obtain ⟨r, hfront⟩ : ∃ r, run leads segment ⟨.start, []⟩ (before ++ [a]) = .ok r :=
      (exists_run_eq_ok_iff ⟨.start, []⟩ hfrontValues).mpr
        ⟨hchain, fun ⟨p, _, hp⟩ => nomatch hp⟩
    obtain ⟨r₁, -, hstep⟩ := run_concat_eq_ok hfront
    obtain ⟨p', htouches⟩ := (exists_touches_iff hstep haValues).mpr ha
    obtain ⟨-, hgives'⟩ := gives_of_touches haValues hfront htouches
    have hname : p.name = p'.name := by
      rw [hgives.name_eq, hgives'.name_eq]
      simp [Draft.start]
    have herror : step leads segment r b = .error (.adjacent p.name) :=
      (step_eq_error_iff hbValues).mpr ⟨hneeds, p', htouches, by rw [hname]⟩
    rw [List.append_cons, run, List.foldlM_append]
    change (run leads segment ⟨.start, []⟩ (before ++ [a]) >>= _) = _
    rw [hfront]
    change (step leads segment r b >>= _) = _
    rw [herror]
    rfl

/-- The error names a literal group, or a parameter, and touching is something else. -/
theorem Refuses.touches_iff {phrases before : List Phrase} {a b : Phrase} {p : Parameter}
    (h : Refuses segment phrases before a b p)
    (hvalues : ∀ l ∈ Phrase.allLexemes phrases, l.value ≠ []) (hsegment : segment ≠ []) :
    (a.Touches b ↔ p.isCapturing ∧ p.trail = []) ∧ (p.isCapturing ↔ p.name ≠ []) := by
  obtain ⟨after, rfl⟩ := h.exists_after
  have ha : ∀ l ∈ a.lexemes, l.value ≠ [] := fun l hl => hvalues l (by simp [hl])
  have htrail : p.trail = [] ↔ a.trail = [] := by
    rw [h.gives.trail_eq]
    exact literalText_eq_nil_iff fun l hl =>
      ha l.1 (a.trail_subset (List.mem_map_of_mem hl))
  obtain ⟨⟨s, hs, -⟩, hlead⟩ := h.needsText
  rw [h.gives.isCapturing_iff ha hsegment, h.gives.name_ne_nil_iff ha, htrail]
  refine ⟨?_, Iff.rfl⟩
  simp [Phrase.Touches, hs, hlead]

theorem segmentPattern_ne_nil (delimiter : Text) : segmentPattern delimiter ≠ [] :=
  nofun

/-- A template is refused, because nothing separates two parameters, exactly where a parameter without a
pattern and a lead of its own follows directly on a parameter or a group.  The two touch if what has been
read of the first one captures and has no text behind it; it does not capture when the error gives no
name. -/
theorem read_eq_error_adjacent_iff {template : Text} {lexemes : List Lexeme}
    (hscan : Lexeme.scan template = .ok lexemes) (leads delimiter : Text) :
    ∃ phrases rest, lexemes = Phrase.allLexemes phrases ++ rest ∧ Phrase.AreMaximal phrases rest ∧
      ((∃ last : Of .finish, rest = [last.1]) ∨ ∃ expected found, IsStuck expected found rest) ∧
      (∀ name, read leads delimiter template = .error (.adjacent name) ↔
        ∃ before a b p, Refuses (segmentPattern delimiter) phrases before a b p ∧ name = p.name) ∧
      ∀ before a b p, Refuses (segmentPattern delimiter) phrases before a b p →
        (a.Touches b ↔ p.isCapturing ∧ p.trail = []) ∧ (p.isCapturing ↔ p.name ≠ []) := by
  obtain ⟨phrases, rest, ending, hlexemes, hmaximal, hvalues, hending, hread⟩ :=
    exists_phrasing hscan leads (segmentPattern delimiter)
  refine ⟨phrases, rest, hlexemes, hmaximal, ?_, fun name => ?_, fun before a b p h =>
    h.touches_iff hvalues (segmentPattern_ne_nil delimiter)⟩
  · cases hending with
    | finish last => exact Or.inl ⟨last, rfl⟩
    | stuck hstuck => exact Or.inr ⟨_, _, hstuck⟩
  · have hrun : read leads delimiter template = .error (.adjacent name) ↔
        Reading.run leads (segmentPattern delimiter) ⟨.start, []⟩ phrases =
          .error (.adjacent name) := by
      rw [read_of_scan hscan, map_eq_error_iff, hread _ le_rfl]
      cases Reading.run leads (segmentPattern delimiter) ⟨.start, []⟩ phrases with
      | error e =>
          exact ⟨fun h => congrArg _ (Except.error.inj h), fun h => congrArg _ (Except.error.inj h)⟩
      | ok r => exact iff_of_false (hending.ne_adjacent r.settled name) nofun
    rw [hrun, Reading.run_start_eq_error_iff hvalues]
    simp only [Error.adjacent.injEq]

/-- Behind a literal group there is no parameter to touch, and a parameter is refused all the same. -/
theorem read_eq_error_adjacent_literal_group :
    ∃ lexemes phrases before a b p, Lexeme.scan "\x7ba\x7d:b".toList = .ok lexemes ∧
      Refuses (segmentPattern usualDelimiter) phrases before a b p ∧
      (∃ rest, lexemes = Phrase.allLexemes phrases ++ rest) ∧ ¬ a.Touches b := by
  obtain ⟨lexemes, hscan⟩ : ∃ ls, Lexeme.scan "\x7ba\x7d:b".toList = .ok ls := ⟨_, rfl⟩
  obtain ⟨phrases, rest, hlexemes, -, -, herror, htouches⟩ :=
    read_eq_error_adjacent_iff hscan usualLeads usualDelimiter
  have hread : read usualLeads usualDelimiter "\x7ba\x7d:b".toList = .error (.adjacent []) := rfl
  obtain ⟨before, a, b, p, hrefuses, hname⟩ := (herror []).mp hread
  obtain ⟨hiff, hcapturing⟩ := htouches before a b p hrefuses
  refine ⟨lexemes, phrases, before, a, b, p, hscan, hrefuses, ⟨rest, hlexemes⟩, fun h => ?_⟩
  exact hcapturing.mp (hiff.mp h).1 hname.symm

end RouteMask.Template
