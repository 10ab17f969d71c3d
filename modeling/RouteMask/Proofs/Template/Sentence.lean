import RouteMask.Proofs.Template.Phrasing

/-! # Which templates are read

A phrase is read unless it is a parameter that needs text to separate it from the parameter or the group
in front of it (`Reading.step_eq_error_iff`).  So phrases are read when each may follow on the one before
it (`Reading.exists_run_eq_ok_iff`), and a template is read when its lexemes are a sentence
(`exists_read_eq_ok_iff`).

* `Phrase.Gives`: the parameter that is made of a phrase.
* `Reading.exists_of_step`: what reading a phrase finishes. -/

namespace RouteMask.Template

open Lexeme (Of Literal)

variable {leads segment : Text}

/-! ### What a phrase makes of a draft -/

/-- The name that the `n`-th pattern without name is given. -/
def numeral (n : Nat) : Text :=
  (toString n).toList

/-- The text that stands for itself in some parts. -/
def plainText (parts : Template) : Text :=
  parts.flatMap fun
    | .literal text => text
    | .parameter p => p.lead ++ p.trail

/-- The part that a text becomes, unless it is empty. -/
def IsFront (front : Template) : Prop :=
  front = [] ∨ ∃ text, text ≠ [] ∧ front = [.literal text]

namespace Phrase

/-- The phrase is a pattern without name. -/
def IsNumbered (q : Phrase) : Prop :=
  q.name? = none ∧ q.pattern?.isSome

instance : DecidablePred IsNumbered :=
  fun q => inferInstanceAs (Decidable (q.name? = none ∧ q.pattern?.isSome))

/-- What is finished of a phrase that `n` patterns without name precede: what is written of it, and
otherwise its number as the name, and the pattern of a segment where there is a name. -/
structure Gives (segment : Text) (n : Nat) (q : Phrase) (p : Parameter) : Prop where
  name_eq : p.name = q.name?.getD (if q.pattern?.isSome then numeral n else [])
  pattern_eq : p.pattern = q.pattern?.getD (if q.name?.isSome then segment else [])
  modifier_eq : p.modifier = q.modifier?.getD []
  trail_eq : p.trail = literalText q.trail

end Phrase

namespace Draft

variable {d d' : Draft} {lead trail : Text} {s : Option Slot} {modifier : Option (Of .modifier)}
  {e : Error}

/-- The pending text becomes a literal, unless it is empty. -/
theorem flush_cases (d : Draft) :
    d.pending = [] ∧ d.flush = d ∨
      d.pending ≠ [] ∧ d.flush = ⟨.literal d.pending :: d.done, [], d.unnamed⟩ := by
  obtain ⟨done, pending, unnamed⟩ := d
  cases pending with
  | nil => exact Or.inl ⟨rfl, rfl⟩
  | cons c pending => exact Or.inr ⟨nofun, rfl⟩

theorem exists_front (d : Draft) :
    ∃ front, d.flush.done = front ++ d.done ∧ IsFront front ∧ plainText front = d.pending ∧
      d.flush.pending = [] ∧ d.flush.unnamed = d.unnamed := by
  rcases d.flush_cases with ⟨hnil, hflush⟩ | ⟨hne, hflush⟩
  · exact ⟨[], by rw [hflush]; rfl, Or.inl rfl, hnil.symm, by rw [hflush, hnil], by rw [hflush]⟩
  · rw [hflush]
    exact ⟨_, rfl, Or.inr ⟨_, hne, rfl⟩, List.append_nil _, rfl, rfl⟩

theorem done_flush_eq_parameter_iff {p : Parameter} {done : List Part} :
    d.flush.done = .parameter p :: done ↔ d.pending = [] ∧ d.done = .parameter p :: done := by
  rcases d.flush_cases with ⟨hnil, hflush⟩ | ⟨hne, hflush⟩
  · simp [hflush, hnil]
  · simp [hflush, hne]

/-- A parameter is refused when it has no pattern and touches the one before it. -/
theorem complete_eq_error_iff :
    d.complete segment lead trail s modifier = .error e ↔
      (∃ t, s = some t ∧ t.IsBare) ∧ lead = [] ∧
        ∃ p done, d.done = .parameter p :: done ∧ e = .adjacent p.name := by
  obtain ⟨done, pending, unnamed⟩ := d
  rcases s with _ | ⟨name, _ | pattern⟩ | pattern
  · simp [complete]
  · simp only [complete, map_eq_error_iff, segmentAfter]
    rcases done with _ | ⟨_ | p, done⟩
    · simp
    · simp
    · rcases lead with _ | ⟨c, lead⟩
      · simp [Slot.IsBare, eq_comm]
      · simp
  · simp [complete, Slot.IsBare]
  · simp [complete, Slot.IsBare]

theorem eq_of_segmentAfter {pattern : Text} (h : d.segmentAfter segment lead = .ok pattern) :
    pattern = segment := by
  unfold segmentAfter at h
  split at h
  · split at h
    · cases h
    · exact (Except.ok.inj h).symm
  · exact (Except.ok.inj h).symm

/-- What is finished is made of the slot. -/
theorem exists_of_complete (h : d.complete segment lead trail s modifier = .ok d') :
    ∃ p, d' = ⟨.parameter p :: d.done, d.pending, d'.unnamed⟩ ∧
      d'.unnamed = d.unnamed +
        (if s.bind Slot.name? = none ∧ (s.bind Slot.pattern?).isSome then 1 else 0) ∧
      p.lead = lead ∧ p.trail = trail ∧ p.modifier = (value? modifier).getD [] ∧
      p.name = (s.bind Slot.name?).getD
        (if (s.bind Slot.pattern?).isSome then numeral d.unnamed else []) ∧
      p.pattern = (s.bind Slot.pattern?).getD (if (s.bind Slot.name?).isSome then segment else []) := by
  rcases s with _ | ⟨name, _ | pattern⟩ | pattern
  · cases h
    exact ⟨_, rfl, rfl, rfl, rfl, rfl, rfl, rfl⟩
  · rw [complete] at h
    cases hsegment : d.segmentAfter segment lead with
    | error e =>
        rw [hsegment] at h
        cases h
    | ok pattern =>
        rw [hsegment] at h
        cases h
        exact ⟨_, rfl, rfl, rfl, rfl, rfl, rfl, eq_of_segmentAfter hsegment⟩
  · cases h
    exact ⟨_, rfl, rfl, rfl, rfl, rfl, rfl, rfl⟩
  · cases h
    exact ⟨_, rfl, rfl, rfl, rfl, rfl, rfl, rfl⟩

end Draft

namespace Reading

variable {r r' : Reading} {q : Phrase} {e : Error}

/-- A character is always read. -/
theorem exists_step_text (leads segment : Text) (r : Reading) (l : Literal) :
    ∃ r', step leads segment r (.text l) = .ok r' := by
  rw [step]
  split
  · exact ⟨_, rfl⟩
  · exact ⟨_, rfl⟩

/-- A character becomes pending text. -/
theorem of_step_text {l : Literal} (h : step leads segment r (.text l) = .ok r') :
    r'.draft.done = r.draft.done ∧ r'.draft.unnamed = r.draft.unnamed ∧
      r'.settled.pending = r.settled.pending ++ l.1.value := by
  rw [step] at h
  split at h
  · cases h
    exact ⟨rfl, rfl, rfl⟩
  · cases h
    exact ⟨rfl, rfl, List.append_nil _⟩

/-- A phrase that is no character completes a draft. -/
theorem exists_complete (leads segment : Text) (hq : ¬ q.IsText) (r : Reading) :
    ∃ (d : Draft) (lead : Text) (modifier : Option (Of .modifier)),
      step leads segment r q =
        (d.flush.complete segment lead (literalText q.trail) q.slot? modifier).map (⟨·, []⟩) ∧
      d.done = r.draft.done ∧ d.unnamed = r.draft.unnamed ∧
      d.pending ++ lead = r.settled.pending ++ literalText q.lead ∧
      value? modifier = q.modifier? := by
  cases q with
  | text l => exact absurd trivial hq
  | slot s modifier =>
      exact ⟨r.draft, r.lead, modifier, rfl, rfl, rfl, (List.append_nil _).symm, rfl⟩
  | group opening lead inner closing modifier =>
      exact ⟨r.settled, literalText lead, modifier, rfl, rfl, rfl, rfl, rfl⟩

/-- A phrase that is no character finishes a parameter, and before it the text that was pending. -/
theorem exists_of_step (hq : ¬ q.IsText) (h : step leads segment r q = .ok r') :
    ∃ front p, r'.draft.done = .parameter p :: (front ++ r.draft.done) ∧ IsFront front ∧
      plainText front ++ p.lead = r.settled.pending ++ literalText q.lead ∧
      q.Gives segment r.draft.unnamed p ∧ r'.settled.pending = [] ∧
      r'.draft.unnamed = r.draft.unnamed + if q.IsNumbered then 1 else 0 := by
  obtain ⟨d, lead, modifier, hstep, hdone, hunnamed, hpending, hmodifier⟩ :=
    exists_complete leads segment hq r
  rw [hstep] at h
  cases hcomplete : d.flush.complete segment lead (literalText q.trail) q.slot? modifier with
  | error e =>
      rw [hcomplete] at h
      cases h
  | ok d' =>
      rw [hcomplete] at h
      cases h
      obtain ⟨front, hfront, hisFront, htext, hnil, hflushed⟩ := d.exists_front
      obtain ⟨p, hd', hcount, hlead, htrail, hm, hname, hpattern⟩ := Draft.exists_of_complete hcomplete
      rw [hflushed, hunnamed] at hcount hname
      refine ⟨front, p, ?_, hisFront, by rw [htext, hlead, hpending],
        ⟨hname, hpattern, by rw [hm, hmodifier], htrail⟩, ?_, hcount⟩
      · rw [hd', hfront, hdone]
      · rw [settled, Draft.collect_nil, hd', hnil]

/-- The part that has been finished last is a parameter, and there has been no text since. -/
def Touches (r : Reading) (p : Parameter) : Prop :=
  r.settled.pending = [] ∧ r.draft.done.head? = some (.parameter p)

/-- A phrase is refused when it needs text to separate it from a parameter, and there is none. -/
theorem step_eq_error_iff (hvalues : ∀ l ∈ q.lexemes, l.value ≠ []) :
    step leads segment r q = .error e ↔
      q.NeedsText ∧ ∃ p, r.Touches p ∧ e = .adjacent p.name := by
  by_cases hq : q.IsText
  · obtain ⟨l, rfl⟩ := hq.exists_eq
    obtain ⟨r', hstep⟩ := exists_step_text leads segment r l
    rw [hstep]
    refine iff_of_false nofun ?_
    rintro ⟨⟨⟨s, hs, -⟩, -⟩, -⟩
    cases hs
  obtain ⟨d, lead, modifier, hstep, hdone, -, hpending, -⟩ :=
    exists_complete leads segment hq r
  have hlead : literalText q.lead = [] ↔ q.lead = [] :=
    literalText_eq_nil_iff fun l hl => hvalues l.1 (q.lead_subset (List.mem_map_of_mem hl))
  have hnil : lead = [] ∧ d.pending = [] ↔ q.lead = [] ∧ r.settled.pending = [] := by
    rw [← hlead, and_comm, ← List.append_eq_nil_iff, hpending, List.append_eq_nil_iff, and_comm]
  rw [hstep, map_eq_error_iff, Draft.complete_eq_error_iff]
  constructor
  · rintro ⟨hbare, hl, p, done, hflush, rfl⟩
    obtain ⟨hd, hp⟩ := Draft.done_flush_eq_parameter_iff.mp hflush
    obtain ⟨hql, hr⟩ := hnil.mp ⟨hl, hd⟩
    exact ⟨⟨hbare, hql⟩, p, ⟨hr, by rw [← hdone, hp]; rfl⟩, rfl⟩
  · rintro ⟨⟨hbare, hql⟩, p, ⟨hr, hhead⟩, rfl⟩
    obtain ⟨hl, hd⟩ := hnil.mpr ⟨hql, hr⟩
    obtain ⟨done, hp⟩ := List.head?_eq_some_iff.mp hhead
    exact ⟨hbare, hl, p, done, Draft.done_flush_eq_parameter_iff.mpr ⟨hd, hdone.trans hp⟩, rfl⟩

/-- A parameter is touched behind every phrase that is no character. -/
theorem exists_touches_iff (hstep : step leads segment r q = .ok r')
    (hvalues : ∀ l ∈ q.lexemes, l.value ≠ []) : (∃ p, r'.Touches p) ↔ ¬ q.IsText := by
  by_cases hq : q.IsText
  · obtain ⟨l, rfl⟩ := hq.exists_eq
    obtain ⟨-, -, hpending⟩ := of_step_text hstep
    refine iff_of_false ?_ (not_not_intro hq)
    rintro ⟨p, hnil, -⟩
    rw [hpending] at hnil
    exact hvalues l.1 List.mem_cons_self (List.append_eq_nil_iff.mp hnil).2
  · obtain ⟨front, p, hdone, -, -, -, hpending, -⟩ := exists_of_step hq hstep
    exact iff_of_true ⟨p, hpending, by rw [hdone]; rfl⟩ hq

/-- Phrases are read when none of them is refused by the one before it. -/
theorem exists_run_eq_ok_iff {phrases : List Phrase} (r : Reading)
    (hvalues : ∀ l ∈ Phrase.allLexemes phrases, l.value ≠ []) :
    (∃ r', run leads segment r phrases = .ok r') ↔
      phrases.IsChain Phrase.MayFollow ∧
        ((∃ p, r.Touches p) → ∀ q ∈ phrases.head?, ¬ q.NeedsText) := by
  induction phrases generalizing r with
  | nil => exact iff_of_true ⟨r, rfl⟩ ⟨.nil, nofun⟩
  | cons q phrases ih =>
      rw [Phrase.allLexemes_cons, List.forall_mem_append] at hvalues
      rw [run_cons]
      cases hstep : step leads segment r q with
      | error e =>
          obtain ⟨hneeds, p, htouches, -⟩ := (step_eq_error_iff hvalues.1).mp hstep
          exact iff_of_false nofun fun h => h.2 ⟨p, htouches⟩ q rfl hneeds
      | ok r₁ =>
          have hfree : (∃ p, r.Touches p) → ¬ q.NeedsText := by
            rintro ⟨p, htouches⟩ hneeds
            have herror : step leads segment r q = .error (.adjacent p.name) :=
              (step_eq_error_iff hvalues.1).mpr ⟨hneeds, p, htouches, rfl⟩
            cases hstep.symm.trans herror
          have hnext : ((∃ p, r₁.Touches p) → ∀ b ∈ phrases.head?, ¬ b.NeedsText) ↔
              ∀ b ∈ phrases.head?, q.MayFollow b := by
            rw [exists_touches_iff hstep hvalues.1]
            simp only [Phrase.MayFollow, or_iff_not_imp_left]
            exact forall_comm.trans (forall_congr' fun b => forall_comm)
          change (∃ r', run leads segment r₁ phrases = .ok r') ↔ _
          rw [ih r₁ hvalues.2, hnext, List.isChain_cons]
          constructor
          · rintro ⟨hchain, hhead⟩
            refine ⟨⟨hhead, hchain⟩, fun htouches b hb => ?_⟩
            obtain rfl := Option.some.inj hb
            exact hfree htouches
          · rintro ⟨⟨hhead, hchain⟩, -⟩
            exact ⟨hchain, hhead⟩

/-- The only error is that of a phrase which is not separated from a parameter. -/
theorem exists_of_run_eq_error {phrases : List Phrase} {e : Error}
    (hvalues : ∀ l ∈ Phrase.allLexemes phrases, l.value ≠ [])
    (h : run leads segment r phrases = .error e) :
    ∃ before q after r' p, phrases = before ++ q :: after ∧ run leads segment r before = .ok r' ∧
      q.NeedsText ∧ r'.Touches p ∧ e = .adjacent p.name := by
  obtain ⟨before, q, after, r', rfl, hbefore, hstep⟩ := exists_of_foldlM_eq_error h
  rw [Phrase.allLexemes_append, Phrase.allLexemes_cons, List.forall_mem_append,
    List.forall_mem_append] at hvalues
  obtain ⟨hneeds, p, htouches, he⟩ := (step_eq_error_iff hvalues.2.1).mp hstep
  exact ⟨before, q, after, r', p, rfl, hbefore, hneeds, htouches, he⟩

end Reading

/-! ### Sentences -/

namespace Phrase

variable {rest : List Lexeme}

/-- No phrase begins with a modifier. -/
theorem not_begins_modifier (phrases : List Phrase) (hrest : ¬ Begins .modifier rest) :
    ¬ Begins .modifier (allLexemes phrases ++ rest) := by
  rcases phrases with _ | ⟨l | ⟨s, modifier⟩ | ⟨opening, _, _, _, _⟩, phrases⟩
  · exact hrest
  · intro hbegins
    rcases l.2 with hchar | hchar <;> cases hchar.symm.trans hbegins
  · rw [allLexemes_cons, lexemes, List.append_assoc, List.append_assoc]
    exact s.not_begins (by decide) (by decide) _
  · exact not_begins_of_of opening (by decide) _

/-- Only a parameter without name begins with a pattern. -/
theorem exists_of_begins_pattern {phrases : List Phrase} (hrest : ¬ Begins .pattern rest)
    (h : Begins .pattern (allLexemes phrases ++ rest)) :
    ∃ pattern modifier more, phrases = .slot (.unnamed pattern) modifier :: more := by
  rcases phrases with _ | ⟨l | ⟨name | pattern, modifier⟩ | ⟨opening, _, _, _, _⟩, phrases⟩
  · exact absurd h hrest
  · rcases l.2 with hchar | hchar <;> cases hchar.symm.trans h
  · exact absurd h (not_begins_of_of name (by decide) _)
  · exact ⟨pattern, modifier, phrases, rfl⟩
  · exact absurd h (not_begins_of_of opening (by decide) _)

/-- A phrase has all that belongs to it, or it is a name and its pattern follows. -/
theorem endsBefore_or (q : Phrase) (h : ¬ Begins .modifier rest) :
    q.EndsBefore rest ∨ Begins .pattern rest ∧ ∃ name, q = .slot (.named name none) none := by
  rcases q with l | ⟨⟨name, _ | pattern⟩ | pattern, _ | modifier⟩ | _
  · exact Or.inl trivial
  · by_cases hpattern : Begins .pattern rest
    · exact Or.inr ⟨hpattern, name, rfl⟩
    · exact Or.inl fun _ => ⟨h, fun _ => hpattern⟩
  · exact Or.inl nofun
  · exact Or.inl fun _ => ⟨h, nofun⟩
  · exact Or.inl nofun
  · exact Or.inl fun _ => ⟨h, nofun⟩
  · exact Or.inl nofun
  · exact Or.inl fun _ => h

/-- Phrases can be taken as large as they go, because a pattern that is taken together with the name in
front of it makes nothing touch. -/
theorem exists_maximal (last : Of .finish) {phrases : List Phrase} (h : phrases.IsChain MayFollow) :
    ∃ phrases', allLexemes phrases' = allLexemes phrases ∧ phrases'.IsChain MayFollow ∧
      AreMaximal phrases' [last.1] ∧
      ∀ a : Phrase, (∀ q ∈ phrases.head?, a.MayFollow q) → ∀ q ∈ phrases'.head?, a.MayFollow q := by
  induction phrases with
  | nil => exact ⟨[], rfl, .nil, trivial, fun _ => id⟩
  | cons q phrases ih =>
      rw [List.isChain_cons] at h
      obtain ⟨phrases', hlexemes, hchain, hmaximal, hhead⟩ := ih h.2
      have hmodifier : ¬ Begins .modifier (allLexemes phrases' ++ [last.1]) :=
        not_begins_modifier phrases' (not_begins_of_of last (by decide) [])
      rcases q.endsBefore_or hmodifier with hends | ⟨hbegins, name, rfl⟩
      · refine ⟨q :: phrases', by rw [allLexemes_cons, hlexemes, allLexemes_cons],
          List.isChain_cons.mpr ⟨hhead q h.1, hchain⟩, ⟨hends, hmaximal⟩, fun a => id⟩
      · obtain ⟨pattern, modifier, more, rfl⟩ :=
          exists_of_begins_pattern (not_begins_of_of last (by decide) []) hbegins
        rw [List.isChain_cons] at hchain
        refine ⟨.slot (.named name (some pattern)) modifier :: more, ?_,
          List.isChain_cons.mpr ⟨fun b hb => Or.inr ((hchain.1 b hb).resolve_left id), hchain.2⟩,
          ⟨fun hnone => ⟨(hmaximal.1 hnone).1, nofun⟩, hmaximal.2⟩, fun a _ b hb => ?_⟩
        · rw [allLexemes_cons, allLexemes_cons, ← hlexemes]
          rfl
        · obtain rfl := Option.some.inj hb
          refine Or.inr ?_
          rintro ⟨⟨s, hs, hbare⟩, -⟩
          cases hs
          cases hbare

end Phrase

section Read

variable {template : Text} {lexemes : List Lexeme}

/-- Lexemes that are a sentence are read. -/
theorem exists_readItems_eq_ok (hscan : Lexeme.scan template = .ok lexemes)
    (h : IsSentence lexemes) (leads segment : Text) :
    ∃ d, readItems leads segment lexemes.length .start lexemes = .ok d := by
  obtain ⟨phrases, last, rfl, hchain⟩ := h
  obtain ⟨phrases, hlexemes, hchain, hmaximal, -⟩ := Phrase.exists_maximal last hchain
  rw [← hlexemes] at hscan ⊢
  have hvalues := (areScanned_of_scanFrom hscan).ne_nil_of_append
    fun _ => Phrase.ne_finish_of_mem_allLexemes
  obtain ⟨r, hrun⟩ := (Reading.exists_run_eq_ok_iff ⟨.start, []⟩ hvalues).mpr
    ⟨hchain, fun ⟨p, _, hp⟩ => nomatch hp⟩
  exact ⟨r.settled.flush, by rw [readItems_allLexemes (.finish last) hmaximal _ le_rfl, hrun]; rfl⟩

/-- What is read is a sentence, and nothing else can be wrong than that a parameter touches the one before
it, or that a lexeme stands where another kind is needed. -/
theorem readItems_cases (hscan : Lexeme.scan template = .ok lexemes) (leads segment : Text) :
    (∃ d, readItems leads segment lexemes.length .start lexemes = .ok d ∧ IsSentence lexemes) ∨
      ∃ e, readItems leads segment lexemes.length .start lexemes = .error e ∧
        ((∃ name, e = .adjacent name) ∨
          ∃ l ∈ lexemes, ∃ expected, e = .unexpected l.kind l.index expected) := by
  obtain ⟨phrases, rest, ending, rfl, -, hvalues, hending, hread⟩ :=
    exists_phrasing hscan leads segment
  cases hrun : Reading.run leads segment ⟨.start, []⟩ phrases with
  | error e =>
      obtain ⟨-, -, -, -, p, -, -, -, -, rfl⟩ := Reading.exists_of_run_eq_error hvalues hrun
      exact Or.inr ⟨_, by rw [hread _ le_rfl, hrun]; rfl, Or.inl ⟨p.name, rfl⟩⟩
  | ok r =>
      rw [hrun] at hread
      cases hending with
      | finish last =>
          refine Or.inl ⟨r.settled.flush, hread _ le_rfl, phrases, last, rfl, ?_⟩
          exact ((Reading.exists_run_eq_ok_iff ⟨.start, []⟩ hvalues).mp ⟨r, hrun⟩).1
      | @stuck expected found rest hstuck =>
          exact Or.inr ⟨_, hread _ le_rfl,
            Or.inr ⟨found, List.mem_append_right _ hstuck.found_mem, expected, rfl⟩⟩

theorem readItems_add (hscan : Lexeme.scan template = .ok lexemes) (leads segment : Text)
    (extra : Nat) :
    readItems leads segment (lexemes.length + extra) .start lexemes =
      readItems leads segment lexemes.length .start lexemes := by
  obtain ⟨phrases, rest, ending, -, -, -, -, hread⟩ := exists_phrasing hscan leads segment
  rw [hread _ (Nat.le_add_right ..), hread _ le_rfl]

/-- A template is read if and only if its lexemes are a sentence.  Otherwise the error names what touches,
or a lexeme of the template that stands where another kind is needed; the reader never runs past the end
mark, and as many items as there are lexemes are enough. -/
theorem exists_read_eq_ok_iff (leads delimiter template : Text) :
    match Lexeme.scan template with
    | .error e => read leads delimiter template = .error (.scan e)
    | .ok lexemes =>
      ((∃ parts, read leads delimiter template = .ok parts) ↔ IsSentence lexemes) ∧
      ((∃ parts, read leads delimiter template = .ok parts) ∨
        (∃ name, read leads delimiter template = .error (.adjacent name)) ∨
        ∃ l ∈ lexemes, ∃ expected,
          read leads delimiter template = .error (.unexpected l.kind l.index expected)) ∧
      ∀ extra, readItems leads (segmentPattern delimiter) (lexemes.length + extra) .start lexemes =
        readItems leads (segmentPattern delimiter) lexemes.length .start lexemes := by
  cases hscan : Lexeme.scan template with
  | error e =>
      dsimp only
      unfold read
      rw [hscan]
      rfl
  | ok lexemes =>
      dsimp only
      have hread := read_of_scan hscan leads delimiter
      have hadd := readItems_add hscan leads (segmentPattern delimiter)
      rcases readItems_cases hscan leads (segmentPattern delimiter) with
        ⟨d, hd, hsentence⟩ | ⟨e, he, hcause⟩
      · rw [hd] at hread
        exact ⟨iff_of_true ⟨_, hread⟩ hsentence, Or.inl ⟨_, hread⟩, hadd⟩
      · rw [he] at hread
        refine ⟨iff_of_false ?_ fun hsentence => ?_, Or.inr ?_, hadd⟩
        · rintro ⟨parts, hparts⟩
          cases hread.symm.trans hparts
        · obtain ⟨d, hd⟩ := exists_readItems_eq_ok hscan hsentence leads (segmentPattern delimiter)
          cases he.symm.trans hd
        · rcases hcause with ⟨name, rfl⟩ | ⟨l, hl, expected, rfl⟩
          · exact Or.inl ⟨name, hread⟩
          · exact Or.inr ⟨l, hl, expected, hread⟩

end Read

end RouteMask.Template
