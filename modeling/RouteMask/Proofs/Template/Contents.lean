import RouteMask.Proofs.Template.Sentence

/-! # What is read of a template

The parts of a template are made of its phrases, in the same order.  `Makes` says how, phrase by phrase;
`Account` says it of the whole, with the phrases next to the parameters that have been made of them.

* `Reading.exists_makes`: a run of the reader makes such parts.
* `exists_account`: nothing that is written is lost, repeated or moved. -/

namespace RouteMask.Template

open Lexeme (Of Literal)

variable {segment : Text}

/-! ### Parts phrase by phrase -/

/-- The parts that are made of phrases, when text is pending in front of them and `n` patterns without
name came before. -/
inductive Makes (segment : Text) : (n : Nat) → (pending : Text) → List Phrase → Template → Prop where
  | done {n : Nat} {front : Template} (hfront : IsFront front) :
    Makes segment n (plainText front) [] front
  | text {n : Nat} {pending : Text} {l : Literal} {phrases : List Phrase} {parts : Template}
    (h : Makes segment n (pending ++ l.1.value) phrases parts) :
    Makes segment n pending (.text l :: phrases) parts
  | parameter {n : Nat} {pending : Text} {q : Phrase} {phrases : List Phrase} {front parts : Template}
    {p : Parameter} (hq : ¬ q.IsText) (hfront : IsFront front)
    (htext : plainText front ++ p.lead = pending ++ literalText q.lead) (hp : q.Gives segment n p)
    (h : Makes segment (n + if q.IsNumbered then 1 else 0) [] phrases parts) :
    Makes segment n pending (q :: phrases) (front ++ .parameter p :: parts)

theorem IsFront.reverse_eq {front : Template} (h : IsFront front) : front.reverse = front := by
  rcases h with rfl | ⟨text, -, rfl⟩ <;> rfl

/-- A run makes the parts of its phrases. -/
theorem Reading.exists_makes {leads : Text} {r r' : Reading} {phrases : List Phrase}
    (h : run leads segment r phrases = .ok r') :
    ∃ parts, r'.settled.flush.done.reverse = r.draft.done.reverse ++ parts ∧
      Makes segment r.draft.unnamed r.settled.pending phrases parts := by
  induction phrases generalizing r with
  | nil =>
      obtain rfl : r = r' := Except.ok.inj h
      obtain ⟨front, hdone, hfront, htext, -⟩ := r.settled.exists_front
      exact ⟨front, by rw [hdone, List.reverse_append, hfront.reverse_eq]; rfl, htext ▸ .done hfront⟩
  | cons q phrases ih =>
      rw [run_cons] at h
      obtain ⟨r₁, hstep, h⟩ := exists_of_bind_eq_ok h
      obtain ⟨parts, hparts, hmakes⟩ := ih h
      by_cases hq : q.IsText
      · obtain ⟨l, rfl⟩ := hq.exists_eq
        obtain ⟨hdone, hunnamed, hpending⟩ := of_step_text hstep
        rw [hdone] at hparts
        rw [hunnamed, hpending] at hmakes
        exact ⟨parts, hparts, .text hmakes⟩
      · obtain ⟨front, p, hdone, hfront, htext, hp, hpending, hunnamed⟩ := exists_of_step hq hstep
        rw [hpending, hunnamed] at hmakes
        refine ⟨front ++ .parameter p :: parts, ?_, .parameter hq hfront htext hp hmakes⟩
        rw [hparts, hdone, List.reverse_cons, List.reverse_append, hfront.reverse_eq]
        simp

/-- What is read of a template is made of its phrases. -/
theorem exists_makes_of_read {leads delimiter template : Text} {lexemes : List Lexeme}
    {parts : Template} (hscan : Lexeme.scan template = .ok lexemes)
    (hread : read leads delimiter template = .ok parts) :
    ∃ (phrases : List Phrase) (last : Of .finish), lexemes = Phrase.allLexemes phrases ++ [last.1] ∧
      Phrase.AreMaximal phrases [last.1] ∧ (∀ l ∈ Phrase.allLexemes phrases, l.value ≠ []) ∧
      Makes (segmentPattern delimiter) 0 [] phrases parts := by
  rw [read_of_scan hscan] at hread
  obtain ⟨phrases, rest, ending, hlexemes, hmaximal, hvalues, hending, hitems⟩ :=
    exists_phrasing hscan leads (segmentPattern delimiter)
  rw [hitems _ le_rfl] at hread
  cases hrun : Reading.run leads (segmentPattern delimiter) ⟨.start, []⟩ phrases with
  | error e =>
      rw [hrun] at hread
      cases hread
  | ok r =>
      rw [hrun] at hread
      cases hending with
      | finish last =>
          obtain ⟨parts', hparts, hmakes⟩ := Reading.exists_makes hrun
          obtain rfl : parts' = parts := hparts.symm.trans (Except.ok.inj hread)
          exact ⟨phrases, last, hlexemes, hmaximal, hvalues, hmakes⟩
      | stuck hstuck => cases hread

/-! ### The values of lexemes -/

/-- The values of the lexemes of some kinds, in order. -/
def valuesOf (kinds : List LexemeKind) (lexemes : List Lexeme) : List Text :=
  (lexemes.filter (·.kind ∈ kinds)).map Lexeme.value

section valuesOf

variable {kinds : List LexemeKind} {kind : LexemeKind}

@[simp] theorem valuesOf_nil : valuesOf kinds [] = [] := rfl

@[simp] theorem valuesOf_append (ls ls' : List Lexeme) :
    valuesOf kinds (ls ++ ls') = valuesOf kinds ls ++ valuesOf kinds ls' := by
  rw [valuesOf, List.filter_append, List.map_append, valuesOf, valuesOf]

@[simp] theorem valuesOf_cons_of (l : Of kind) (ls : List Lexeme) :
    valuesOf kinds (l.1 :: ls) = (if kind ∈ kinds then [l.1.value] else []) ++ valuesOf kinds ls := by
  by_cases h : kind ∈ kinds
  · rw [valuesOf, List.filter_cons_of_pos (by rw [l.2]; exact decide_eq_true h), if_pos h]
    rfl
  · rw [valuesOf, List.filter_cons_of_neg (by rw [l.2]; exact decide_eq_false h ▸ Bool.false_ne_true),
      if_neg h]
    rfl

@[simp] theorem valuesOf_optional (o : Option (Of kind)) :
    valuesOf kinds (optional o) = if kind ∈ kinds then (value? o).toList else [] := by
  cases o with
  | none => exact (ite_self _).symm
  | some l => exact (valuesOf_cons_of l []).trans (List.append_nil _)

theorem mem_valuesOf {value : Text} {ls : List Lexeme} :
    value ∈ valuesOf [kind] ls ↔ ∃ l ∈ ls, l.kind = kind ∧ l.value = value := by
  simp [valuesOf, and_assoc]

theorem flatten_valuesOf_literals (lits : List Literal) :
    (valuesOf [.char, .escapedChar] lits.unattach).flatten = literalText lits := by
  induction lits with
  | nil => rfl
  | cons l lits ih =>
      rw [List.unattach_cons, valuesOf, List.filter_cons_of_pos (by simpa using l.2)]
      exact congrArg (l.1.value ++ ·) ih

theorem valuesOf_literals (hchar : .char ∉ kinds) (hescaped : .escapedChar ∉ kinds)
    (lits : List Literal) : valuesOf kinds lits.unattach = [] := by
  induction lits with
  | nil => rfl
  | cons l lits ih =>
      rw [List.unattach_cons, valuesOf, List.filter_cons_of_neg]
      · exact ih
      · rcases l.2 with h | h
        · simpa [h] using hchar
        · simpa [h] using hescaped

theorem Slot.valuesOf_lexemes (s : Slot) :
    valuesOf kinds s.lexemes = (if .name ∈ kinds then s.name?.toList else []) ++
      if .pattern ∈ kinds then s.pattern?.toList else [] := by
  cases s <;> simp [lexemes, name?, pattern?]

/-- The text that stands for itself in a phrase. -/
def Phrase.plainText : Phrase → Text
  | text l => l.1.value
  | q => literalText q.lead ++ literalText q.trail

namespace Phrase

theorem flatten_valuesOf_lexemes (q : Phrase) :
    (valuesOf [.char, .escapedChar] q.lexemes).flatten = q.plainText := by
  rcases q with l | ⟨s, modifier⟩ | ⟨opening, lead, _ | ⟨s, trail⟩, closing, modifier⟩
  · exact (flatten_valuesOf_literals [l]).trans (List.append_nil _)
  · simp [lexemes, Slot.valuesOf_lexemes, plainText, Phrase.lead, Phrase.trail]
  · simp [lexemes, innerLexemes, plainText, Phrase.lead, Phrase.trail, innerTrail,
      flatten_valuesOf_literals]
  · simp [lexemes, innerLexemes, plainText, Phrase.lead, Phrase.trail, innerTrail,
      Slot.valuesOf_lexemes, flatten_valuesOf_literals]

theorem valuesOf_name (q : Phrase) : valuesOf [.name] q.lexemes = q.name?.toList := by
  rcases q with l | ⟨s, modifier⟩ | ⟨opening, lead, _ | ⟨s, trail⟩, closing, modifier⟩
  · exact valuesOf_literals (by decide) (by decide) [l]
  · simp [lexemes, Slot.valuesOf_lexemes, name?, slot?]
  · simp [lexemes, innerLexemes, valuesOf_literals, name?, slot?]
  · simp [lexemes, innerLexemes, valuesOf_literals, Slot.valuesOf_lexemes, name?, slot?]

theorem valuesOf_pattern (q : Phrase) : valuesOf [.pattern] q.lexemes = q.pattern?.toList := by
  rcases q with l | ⟨s, modifier⟩ | ⟨opening, lead, _ | ⟨s, trail⟩, closing, modifier⟩
  · exact valuesOf_literals (by decide) (by decide) [l]
  · simp [lexemes, Slot.valuesOf_lexemes, pattern?, slot?]
  · simp [lexemes, innerLexemes, valuesOf_literals, pattern?, slot?]
  · simp [lexemes, innerLexemes, valuesOf_literals, Slot.valuesOf_lexemes, pattern?, slot?]

theorem valuesOf_modifier (q : Phrase) : valuesOf [.modifier] q.lexemes = q.modifier?.toList := by
  rcases q with l | ⟨s, modifier⟩ | ⟨opening, lead, _ | ⟨s, trail⟩, closing, modifier⟩
  · exact valuesOf_literals (by decide) (by decide) [l]
  · simp [lexemes, Slot.valuesOf_lexemes, modifier?]
  · simp [lexemes, innerLexemes, valuesOf_literals, modifier?]
  · simp [lexemes, innerLexemes, valuesOf_literals, Slot.valuesOf_lexemes, modifier?]

end Phrase

end valuesOf

/-! ### Whole templates -/

/-- The part is literal text. -/
def IsLiteral : Part → Prop
  | .literal _ => True
  | .parameter _ => False

/-- The parameters of a template and its literal groups. -/
def parameters (parts : Template) : List Parameter :=
  parts.filterMap fun
    | .literal _ => none
    | .parameter p => some p

theorem plainText_append (parts parts' : Template) :
    plainText (parts ++ parts') = plainText parts ++ plainText parts' :=
  List.flatMap_append

theorem parameters_front_append {front : Template} (h : IsFront front) (parts : Template) :
    parameters (front ++ parts) = parameters parts := by
  rcases h with rfl | ⟨text, -, rfl⟩ <;> rfl

theorem Phrase.plainText_of_not_isText {q : Phrase} (h : ¬ q.IsText) :
    q.plainText = literalText q.lead ++ literalText q.trail := by
  cases q with
  | text l => exact absurd trivial h
  | slot s modifier => rfl
  | group opening lead inner closing modifier => rfl

namespace Makes

variable {n : Nat} {pending : Text} {phrases : List Phrase} {parts : Template}

/-- No text is lost, repeated or moved. -/
theorem plainText_eq (h : Makes segment n pending phrases parts) :
    plainText parts = pending ++ phrases.flatMap Phrase.plainText := by
  induction h with
  | done hfront => exact (List.append_nil _).symm
  | text h ih =>
      rw [ih, List.append_assoc]
      rfl
  | @parameter n pending q phrases front parts p hq hfront htext hp h ih =>
      have hcons : plainText (.parameter p :: parts) = p.lead ++ p.trail ++ plainText parts := rfl
      rw [plainText_append, hcons, ih, List.flatMap_cons, Phrase.plainText_of_not_isText hq,
        hp.trail_eq, List.nil_append, List.append_assoc, ← List.append_assoc, htext]
      simp

theorem ne_nil (h : Makes segment n pending phrases parts) {text : Text}
    (hmem : .literal text ∈ parts) : text ≠ [] := by
  have hfree : ∀ {front : Template}, IsFront front → .literal text ∈ front → text ≠ [] := by
    rintro _ (rfl | ⟨text', hne, rfl⟩) hmem
    · cases hmem
    · cases List.mem_singleton.mp hmem
      exact hne
  induction h with
  | done hfront => exact hfree hfront hmem
  | text h ih => exact ih hmem
  | parameter hq hfront htext hp h ih =>
      rcases List.mem_append.mp hmem with hmem | hmem
      · exact hfree hfront hmem
      · exact ih ((List.mem_cons.mp hmem).resolve_left nofun)

/-- Of two parts next to each other one is a parameter. -/
theorem isChain (h : Makes segment n pending phrases parts) :
    parts.IsChain fun a b => ¬ (IsLiteral a ∧ IsLiteral b) := by
  induction h with
  | done hfront =>
      rcases hfront with rfl | ⟨text, -, rfl⟩
      · exact .nil
      · exact .singleton _
  | text h ih => exact ih
  | @parameter n pending q phrases front parts p hq hfront htext hp h ih =>
      have hcons : (Part.parameter p :: parts).IsChain fun a b => ¬ (IsLiteral a ∧ IsLiteral b) :=
        List.isChain_cons.mpr ⟨fun b _ hb => hb.1, ih⟩
      rcases hfront with rfl | ⟨text, -, rfl⟩
      · exact hcons
      · exact List.isChain_cons.mpr ⟨fun b hb hboth => by cases hb; exact hboth.2, hcons⟩

/-- Each parameter is made of its phrase, and the patterns without name are numbered in order. -/
theorem exists_entries (h : Makes segment n pending phrases parts) :
    ∃ entries : List (Phrase × Parameter),
      entries.map Prod.fst = phrases.filter (¬ ·.IsText) ∧
      entries.map Prod.snd = parameters parts ∧
      (∀ e ∈ entries, ∃ n, e.1.Gives segment n e.2) ∧
      (entries.filter (·.1.IsNumbered)).map (·.2.name) =
        (List.range' n (entries.countP (·.1.IsNumbered))).map numeral := by
  induction h with
  | done hfront =>
      refine ⟨[], rfl, ?_, nofun, rfl⟩
      rcases hfront with rfl | ⟨text, -, rfl⟩ <;> rfl
  | text h ih => exact ih
  | @parameter n pending q phrases front parts p hq hfront htext hp h ih =>
      obtain ⟨entries, hphrases, hparameters, hgives, hnumbers⟩ := ih
      refine ⟨(q, p) :: entries, ?_, ?_, List.forall_mem_cons.mpr ⟨⟨n, hp⟩, hgives⟩, ?_⟩
      · rw [List.map_cons, hphrases, List.filter_cons_of_pos (by simpa using hq)]
      · rw [List.map_cons, hparameters, parameters_front_append hfront]
        rfl
      · by_cases hnumbered : q.IsNumbered
        · rw [if_pos hnumbered] at hnumbers
          rw [List.filter_cons_of_pos (by simpa using hnumbered), List.map_cons, hnumbers,
            List.countP_cons_of_pos (by simpa using hnumbered), List.range'_succ, List.map_cons,
            hp.name_eq, hnumbered.1, if_pos hnumbered.2]
          rfl
        · rw [if_neg hnumbered] at hnumbers
          rw [List.filter_cons_of_neg (by simpa using hnumbered), hnumbers,
            List.countP_cons_of_neg (by simpa using hnumbered)]
          rfl

theorem exists_gives (h : Makes segment n pending phrases parts) {p : Parameter}
    (hp : .parameter p ∈ parts) : ∃ q ∈ phrases, ∃ n, q.Gives segment n p := by
  obtain ⟨entries, hphrases, hparameters, hgives, -⟩ := h.exists_entries
  have hmem : p ∈ parameters parts := List.mem_filterMap.mpr ⟨_, hp, rfl⟩
  rw [← hparameters] at hmem
  obtain ⟨e, he, rfl⟩ := List.mem_map.mp hmem
  have hq : e.1 ∈ phrases.filter (¬ ·.IsText) := hphrases ▸ List.mem_map_of_mem he
  exact ⟨e.1, List.mem_of_mem_filter hq, hgives e he⟩

end Makes

/-- The parameters of a template next to the phrases that they have been made of. -/
structure Account (segment : Text) (lexemes : List Lexeme) (parts : Template)
    (entries : List (Phrase × Parameter)) : Prop where
  /-- Every phrase that is no character is in the list, in order, and no phrase could be longer: a
  pattern belongs to the name directly before it. -/
  phrases_eq : ∃ (phrases : List Phrase) (last : Of .finish),
    lexemes = Phrase.allLexemes phrases ++ [last.1] ∧ Phrase.AreMaximal phrases [last.1] ∧
      entries.map Prod.fst = phrases.filter (¬ ·.IsText)
  /-- Every parameter is in the list, in order. -/
  parameters_eq : entries.map Prod.snd = parameters parts
  /-- What is written of a parameter is what is read of it. -/
  gives : ∀ e ∈ entries, ∃ n, e.1.Gives segment n e.2
  names_eq : (entries.filter (·.1.name?.isSome)).map (·.2.name) = valuesOf [.name] lexemes
  patterns_eq : (entries.filter (·.1.pattern?.isSome)).map (·.2.pattern) = valuesOf [.pattern] lexemes
  modifiers_eq :
    (entries.filter (·.1.modifier?.isSome)).map (·.2.modifier) = valuesOf [.modifier] lexemes
  modifier_eq_nil : ∀ e ∈ entries, e.1.modifier? = none → e.2.modifier = []
  /-- Patterns without name are numbered from zero. -/
  numbers_eq : (entries.filter (·.1.IsNumbered)).map (·.2.name) =
    (List.range (entries.countP (·.1.IsNumbered))).map numeral

section written

variable {written? : Phrase → Option Text}

/-- What is written of the phrases stands in the parameters. -/
theorem map_filter_eq_filterMap {field : Parameter → Text} {entries : List (Phrase × Parameter)}
    (hfield : ∀ e ∈ entries, ∀ value, written? e.1 = some value → field e.2 = value) :
    (entries.filter fun e => (written? e.1).isSome).map (fun e => field e.2) =
      (entries.map Prod.fst).filterMap written? := by
  induction entries with
  | nil => rfl
  | cons e entries ih =>
      rw [List.forall_mem_cons] at hfield
      cases hvalue : written? e.1 with
      | none =>
          rw [List.filter_cons_of_neg (by simp [hvalue]), ih hfield.2, List.map_cons,
            List.filterMap_cons_none hvalue]
      | some value =>
          rw [List.filter_cons_of_pos (by simp [hvalue]), List.map_cons, ih hfield.2,
            List.map_cons, List.filterMap_cons_some hvalue, hfield.1 value hvalue]

/-- What is written of the phrases stands in their lexemes. -/
theorem filterMap_filter_eq_valuesOf {kind : LexemeKind} (phrases : List Phrase)
    (hlexemes : ∀ q, valuesOf [kind] q.lexemes = (written? q).toList)
    (htext : ∀ l, written? (.text l) = none) :
    (phrases.filter (¬ ·.IsText)).filterMap written? =
      valuesOf [kind] (Phrase.allLexemes phrases) := by
  induction phrases with
  | nil => rfl
  | cons q phrases ih =>
      rw [Phrase.allLexemes_cons, valuesOf_append, ← ih, hlexemes]
      by_cases hq : q.IsText
      · obtain ⟨l, rfl⟩ := hq.exists_eq
        rw [List.filter_cons_of_neg (by simp [Phrase.IsText]), htext]
        rfl
      · rw [List.filter_cons_of_pos (by simpa using hq)]
        cases hvalue : written? q with
        | none => exact List.filterMap_cons_none hvalue
        | some value => exact List.filterMap_cons_some hvalue

end written

theorem flatten_valuesOf_allLexemes (phrases : List Phrase) :
    (valuesOf [.char, .escapedChar] (Phrase.allLexemes phrases)).flatten =
      phrases.flatMap Phrase.plainText := by
  induction phrases with
  | nil => rfl
  | cons q phrases ih =>
      rw [Phrase.allLexemes_cons, valuesOf_append, List.flatten_append, q.flatten_valuesOf_lexemes,
        ih, List.flatMap_cons]

/-- Reading a template loses nothing, repeats nothing and moves nothing. -/
theorem exists_account {leads delimiter template : Text} {lexemes : List Lexeme} {parts : Template}
    (hscan : Lexeme.scan template = .ok lexemes)
    (hread : read leads delimiter template = .ok parts) :
    plainText parts = (valuesOf [.char, .escapedChar] lexemes).flatten ∧
      (∀ text, .literal text ∈ parts → text ≠ []) ∧
      (parts.IsChain fun a b => ¬ (IsLiteral a ∧ IsLiteral b)) ∧
      ∃ entries, Account (segmentPattern delimiter) lexemes parts entries := by
  obtain ⟨phrases, last, rfl, hmaximal, -, hmakes⟩ := exists_makes_of_read hscan hread
  have hlast : ∀ kinds, .finish ∉ kinds → valuesOf kinds (Phrase.allLexemes phrases ++ [last.1]) =
      valuesOf kinds (Phrase.allLexemes phrases) := by
    intro kinds h
    simp [h]
  obtain ⟨entries, hphrases, hparameters, hgives, hnumbers⟩ := hmakes.exists_entries
  have hfields : ∀ {kind : LexemeKind} (written? : Phrase → Option Text) (field : Parameter → Text),
      kind ≠ .finish → (∀ q, valuesOf [kind] q.lexemes = (written? q).toList) →
      (∀ l, written? (.text l) = none) →
      (∀ e ∈ entries, ∀ value, written? e.1 = some value → field e.2 = value) →
      (entries.filter fun e => (written? e.1).isSome).map (fun e => field e.2) =
        valuesOf [kind] (Phrase.allLexemes phrases ++ [last.1]) := by
    intro kind written? field hkind hlexemes htext hfield
    rw [hlast _ (by simpa using hkind.symm), map_filter_eq_filterMap hfield, hphrases,
      filterMap_filter_eq_valuesOf phrases hlexemes htext]
  refine ⟨?_, fun _ => hmakes.ne_nil, hmakes.isChain, entries,
    ⟨phrases, last, rfl, hmaximal, hphrases⟩, hparameters, hgives, ?_, ?_, ?_, ?_, ?_⟩
  · rw [hlast _ (by decide), flatten_valuesOf_allLexemes, hmakes.plainText_eq]
    rfl
  · refine hfields Phrase.name? Parameter.name nofun Phrase.valuesOf_name (fun _ => rfl)
      fun e he value hvalue => ?_
    obtain ⟨n, hgive⟩ := hgives e he
    rw [hgive.name_eq, hvalue]
    rfl
  · refine hfields Phrase.pattern? Parameter.pattern nofun Phrase.valuesOf_pattern (fun _ => rfl)
      fun e he value hvalue => ?_
    obtain ⟨n, hgive⟩ := hgives e he
    rw [hgive.pattern_eq, hvalue]
    rfl
  · refine hfields Phrase.modifier? Parameter.modifier nofun Phrase.valuesOf_modifier (fun _ => rfl)
      fun e he value hvalue => ?_
    obtain ⟨n, hgive⟩ := hgives e he
    rw [hgive.modifier_eq, hvalue]
    rfl
  · intro e he hnone
    obtain ⟨n, hgive⟩ := hgives e he
    rw [hgive.modifier_eq, hnone]
    rfl
  · rw [hnumbers, List.range_eq_range']

/-- A lead that is taken, a group around a pattern, a literal group and an escape. -/
theorem exists_account_groups :
    ∃ lexemes parts, Lexeme.scan "/:a(b)*x\x7b-(c)y\x7d?\x7be\x7d\\f".toList = .ok lexemes ∧
      read usualLeads usualDelimiter "/:a(b)*x\x7b-(c)y\x7d?\x7be\x7d\\f".toList = .ok parts ∧
      plainText parts = "/x-yef".toList ∧
      (parts.IsChain fun a b => ¬ (IsLiteral a ∧ IsLiteral b)) ∧
      ∃ entries, Account (segmentPattern usualDelimiter) lexemes parts entries := by
  obtain ⟨lexemes, hscan⟩ :
      ∃ ls, Lexeme.scan "/:a(b)*x\x7b-(c)y\x7d?\x7be\x7d\\f".toList = .ok ls := ⟨_, rfl⟩
  obtain ⟨parts, hread⟩ :
      ∃ parts, read usualLeads usualDelimiter "/:a(b)*x\x7b-(c)y\x7d?\x7be\x7d\\f".toList =
        .ok parts := ⟨_, rfl⟩
  obtain ⟨htext, -, hchain, haccount⟩ := exists_account hscan hread
  refine ⟨lexemes, parts, hscan, hread, ?_, hchain, haccount⟩
  rw [htext, ← Except.ok.inj hscan]
  rfl

end RouteMask.Template
