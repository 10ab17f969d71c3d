import RouteMask.Proofs.Result
import RouteMask.Proofs.Template.Phrase

/-! # Reading phrase by phrase

The reader of templates goes item by item.  An item is a phrase, or a character together with the
parameter behind it, because the parameter takes the character as its lead if it can.  Phrase by phrase
the same is read with a character kept back (`Reading`) until it is clear what follows it.

* `Draft.complete`: how a parameter or a literal group is finished.
* `readItems_allLexemes`: the reader goes through the lexemes of phrases as `Reading.run` goes through
  the phrases.
* `exists_phrasing`: the reader goes through a whole template like that, to the end or to where no phrase
  begins. -/

namespace RouteMask.Template

open Lexeme (Of Literal)

variable {leads segment : Text} {rest : List Lexeme}

/-! ### What a phrase makes of a draft -/

/-- Finish the parameter that is written as `s`, or literal text alone. -/
def Draft.complete (d : Draft) (segment lead trail : Text) (s : Option Slot)
    (modifier : Option (Of .modifier)) : Except Error Draft :=
  let finish (d : Draft) (name pattern : Text) : Draft :=
    d.finish ⟨name, lead, trail, pattern, (value? modifier).getD []⟩
  match s with
  | none => .ok (finish d [] [])
  | some (.unnamed pattern) => .ok (finish d.number.2 d.number.1 pattern.1.value)
  | some (.named name (some pattern)) => .ok (finish d name.1.value pattern.1.value)
  | some (.named name none) => (d.segmentAfter segment lead).map (finish d name.1.value)

/-- A draft, and the character before the reader if it can be the lead of a parameter. -/
structure Reading where
  draft : Draft
  lead : Text

/-- The draft when the character is no lead after all. -/
def Reading.settled (r : Reading) : Draft :=
  r.draft.collect r.lead

/-- Read one phrase. -/
def Reading.step (leads segment : Text) (r : Reading) : Phrase → Except Error Reading
  | .text l =>
    if l.1.kind = .char ∧ l.1.value.all leads.contains then .ok ⟨r.settled, l.1.value⟩
    else .ok ⟨r.settled.collect l.1.value, []⟩
  | .slot s modifier =>
    (r.draft.flush.complete segment r.lead [] (some s) modifier).map (⟨·, []⟩)
  | .group _ lead inner _ modifier =>
    (r.settled.flush.complete segment (literalText lead)
      (literalText (Phrase.innerTrail inner)) (inner.map Prod.fst) modifier).map (⟨·, []⟩)

/-- Read phrases. -/
def Reading.run (leads segment : Text) (r : Reading) (phrases : List Phrase) :
    Except Error Reading :=
  phrases.foldlM (step leads segment) r

/-! ### One item -/

theorem Draft.collect_nil (d : Draft) : d.collect [] = d := by
  rw [Draft.collect, List.append_nil]

theorem readItem_text {d : Draft} {l : Literal}
    (h : l.1.kind = .char → ¬ Begins .name rest ∧ ¬ Begins .pattern rest) :
    readItem leads segment d (l.1 :: rest) = .ok (d.collect l.1.value, rest) := by
  obtain ⟨l, hl⟩ := l
  rcases hl with hl | hl
  · obtain ⟨hname, hpattern⟩ := h hl
    have htake : take? .char (l :: rest) = (some l.value, rest) := if_pos hl
    unfold readItem
    rw [htake]
    dsimp only
    rw [take?_of_not_begins hname]
    dsimp only
    rw [take?_of_not_begins hpattern]
    rfl
  · have htake : take? .escapedChar (l :: rest) = (some l.value, rest) := if_pos hl
    unfold readItem
    rw [take?_of_ne (by rw [hl]; decide)]
    dsimp only
    rw [take?_of_ne (by rw [hl]; decide)]
    dsimp only
    rw [take?_of_ne (by rw [hl]; decide)]
    dsimp only
    rw [htake]
    rfl

/-- The name and the pattern of a parameter are taken. -/
theorem Slot.take?_lexemes (s : Slot) {ls : List Lexeme} (h : s.IsBare → ¬ Begins .pattern ls) :
    ∃ afterName, take? .name (s.lexemes ++ ls) = (s.name?, afterName) ∧
      take? .pattern afterName = (s.pattern?, ls) := by
  cases s with
  | named name pattern =>
      exact ⟨optional pattern ++ ls, if_pos name.2, take?_optional h⟩
  | unnamed pattern =>
      have hne : pattern.1.kind ≠ .name := fun h => nomatch h.symm.trans pattern.2
      exact ⟨pattern.1 :: ls, if_neg hne, if_pos pattern.2⟩

theorem readParameter_eq (d : Draft) (before : Option Text) (s : Slot)
    {modifier : Option (Of .modifier)} (h : modifier = none → ¬ Begins .modifier rest) :
    readParameter leads segment d before s.name? s.pattern? (optional modifier ++ rest) =
      ((if (before.getD []).all leads.contains then d else d.collect (before.getD [])).flush.complete
        segment (if (before.getD []).all leads.contains then before.getD [] else []) [] (some s)
        modifier).map (·, rest) := by
  unfold readParameter
  dsimp only
  rw [take?_optional h]
  generalize (if (before.getD []).all leads.contains then d else d.collect (before.getD [])).flush = d'
  generalize (if (before.getD []).all leads.contains then before.getD [] else []) = lead
  cases s with
  | unnamed pattern => rfl
  | named name pattern =>
      cases pattern with
      | some pattern => rfl
      | none =>
          change (d'.segmentAfter segment lead >>= fun pattern => _) = _
          unfold Draft.complete
          dsimp only
          cases d'.segmentAfter segment lead <;> rfl

theorem readItem_slot (d : Draft) (before : Option (Of .char)) (s : Slot)
    {modifier : Option (Of .modifier)} (hs : s.IsBare → modifier = none → ¬ Begins .pattern rest)
    (hm : modifier = none → ¬ Begins .modifier rest) :
    readItem leads segment d (optional before ++ (s.lexemes ++ (optional modifier ++ rest))) =
      ((if ((value? before).getD []).all leads.contains then d
          else d.collect ((value? before).getD [])).flush.complete segment
        (if ((value? before).getD []).all leads.contains then (value? before).getD [] else []) []
        (some s) modifier).map (·, rest) := by
  have hbare : s.IsBare → ¬ Begins .pattern (optional modifier ++ rest) := by
    intro h
    cases modifier with
    | none => exact hs h rfl
    | some m => exact fun hkind => nomatch hkind.symm.trans m.2
  obtain ⟨afterName, hname, hpattern⟩ := s.take?_lexemes hbare
  have hsome : s.name?.isSome ∨ s.pattern?.isSome := by
    cases s with
    | named name pattern => exact Or.inl rfl
    | unnamed pattern => exact Or.inr rfl
  unfold readItem
  rw [take?_optional fun _ => s.not_begins (by decide) (by decide) _]
  dsimp only
  rw [hname]
  dsimp only
  rw [hpattern]
  dsimp only
  rw [if_pos hsome, readParameter_eq d (value? before) s hm]

/-- Behind the lead of a group its parameter is taken, with the text behind it. -/
theorem take?_innerLexemes {inner : Option (Slot × List Literal)} {ls : List Lexeme}
    (h : Phrase.InnerEndsBefore inner ls) :
    ∃ afterName afterPattern,
      take? .name (Phrase.innerLexemes inner ++ ls) =
        (inner.bind fun i => i.1.name?, afterName) ∧
      take? .pattern afterName = (inner.bind fun i => i.1.pattern?, afterPattern) ∧
      takeText afterPattern = (literalText (Phrase.innerTrail inner), ls) := by
  have hstop : ¬ Begins .char ls ∧ ¬ Begins .escapedChar ls := ⟨h.not_char, h.not_escapedChar⟩
  cases inner with
  | none =>
      obtain ⟨hname, hpattern⟩ := h.not_slot rfl
      exact ⟨ls, ls, take?_of_not_begins hname, take?_of_not_begins hpattern,
        takeText_literals [] hstop⟩
  | some inner =>
      obtain ⟨s, trail⟩ := inner
      have htrail : s.IsBare → ¬ Begins .pattern (trail.map Subtype.val ++ ls) := by
        intro hs
        cases trail with
        | nil => exact h.not_pattern s rfl hs
        | cons l trail =>
            intro hkind
            rcases l.2 with h | h
            · exact nomatch hkind.symm.trans h
            · exact nomatch hkind.symm.trans h
      obtain ⟨afterName, hname, hpattern⟩ := s.take?_lexemes htrail
      refine ⟨afterName, _, ?_, hpattern, takeText_literals trail hstop⟩
      rw [Phrase.innerLexemes, List.append_assoc]
      exact hname

/-- The lead of a group is taken, and then its inside. -/
theorem takeText_lead (lead : List Literal) {inner : Option (Slot × List Literal)}
    {ls : List Lexeme} (h : Phrase.InnerEndsBefore inner ls) :
    takeText (lead.map Subtype.val ++ (Phrase.innerLexemes inner ++ ls)) =
      (literalText lead, Phrase.innerLexemes inner ++ ls) := by
  refine takeText_literals lead ?_
  rcases inner with _ | ⟨s, trail⟩
  · exact ⟨h.not_char, h.not_escapedChar⟩
  · rw [Phrase.innerLexemes, List.append_assoc]
    exact ⟨s.not_begins (by decide) (by decide) _, s.not_begins (by decide) (by decide) _⟩

theorem readGroup_eq (d : Draft) (lead : List Literal) (inner : Option (Slot × List Literal))
    (closing : Of .closeBrace) {modifier : Option (Of .modifier)}
    (hm : modifier = none → ¬ Begins .modifier rest) :
    readGroup segment d (lead.map Subtype.val ++
        (Phrase.innerLexemes inner ++ closing.1 :: (optional modifier ++ rest))) =
      (d.complete segment (literalText lead) (literalText (Phrase.innerTrail inner))
        (inner.map Prod.fst) modifier).map (·, rest) := by
  have hends := Phrase.innerEndsBefore_closing inner closing (optional modifier ++ rest)
  obtain ⟨afterName, afterPattern, hname, hpattern, htrail⟩ := take?_innerLexemes hends
  have hclose : expect .closeBrace (closing.1 :: (optional modifier ++ rest)) =
      .ok (optional modifier ++ rest) := if_pos closing.2
  unfold readGroup
  rw [takeText_lead lead hends]
  dsimp only
  rw [hname]
  dsimp only
  rw [hpattern]
  dsimp only
  rw [htrail]
  dsimp only
  rw [hclose]
  dsimp only [bind, Except.bind]
  rw [take?_optional hm]
  rcases inner with _ | ⟨⟨name, _ | pattern⟩ | pattern, trail⟩
  · rfl
  · unfold Draft.complete
    dsimp only [Option.map, Option.bind, Slot.name?, Slot.pattern?, value?]
    cases d.segmentAfter segment (literalText lead) <;> rfl
  · rfl
  · rfl

/-- A group without its closing brace is refused. -/
theorem readGroup_eq_error (d : Draft) (lead : List Literal) {inner : Option (Slot × List Literal)}
    {l : Lexeme} (hl : l.kind ≠ .closeBrace) (h : Phrase.InnerEndsBefore inner (l :: rest)) :
    readGroup segment d (lead.map Subtype.val ++ (Phrase.innerLexemes inner ++ l :: rest)) =
      .error (.unexpected l.kind l.index .closeBrace) := by
  obtain ⟨afterName, afterPattern, hname, hpattern, htrail⟩ := take?_innerLexemes h
  have hclose : expect .closeBrace (l :: rest) =
      .error (.unexpected l.kind l.index .closeBrace) := if_neg hl
  unfold readGroup
  rw [takeText_lead lead h]
  dsimp only
  rw [hname]
  dsimp only
  rw [hpattern]
  dsimp only
  rw [htrail]
  dsimp only
  rw [hclose]
  rfl

/-- What begins no parameter and is no text is an opening brace, or has to be the end. -/
theorem readItem_of_kind (d : Draft) {l : Lexeme} (hchar : l.kind ≠ .char) (hname : l.kind ≠ .name)
    (hpattern : l.kind ≠ .pattern) (hescaped : l.kind ≠ .escapedChar) :
    readItem leads segment d (l :: rest) =
      if l.kind = .openBrace then readGroup segment d.flush rest
      else (expect .finish (l :: rest)).map fun rest => (d.flush, rest) := by
  unfold readItem
  rw [take?_of_ne hchar]
  dsimp only
  rw [take?_of_ne hname]
  dsimp only
  rw [take?_of_ne hpattern]
  dsimp only
  rw [take?_of_ne hescaped]
  dsimp only
  by_cases hopen : l.kind = .openBrace
  · rw [if_pos hopen, take?, if_pos hopen]
    rfl
  · rw [if_neg hopen, take?, if_neg hopen]
    rfl

theorem readItem_finish (d : Draft) (last : Of .finish) :
    readItem leads segment d (last.1 :: rest) = .ok (d.flush, rest) := by
  rw [readItem_of_kind d (by rw [last.2]; decide) (by rw [last.2]; decide)
    (by rw [last.2]; decide) (by rw [last.2]; decide), if_neg (by rw [last.2]; decide), expect,
    if_pos last.2]
  rfl

theorem readItem_group (d : Draft) (opening : Of .openBrace) (lead : List Literal)
    (inner : Option (Slot × List Literal)) (closing : Of .closeBrace)
    {modifier : Option (Of .modifier)} (hm : modifier = none → ¬ Begins .modifier rest) :
    readItem leads segment d ((Phrase.group opening lead inner closing modifier).lexemes ++ rest) =
      (d.flush.complete segment (literalText lead) (literalText (Phrase.innerTrail inner))
        (inner.map Prod.fst) modifier).map (·, rest) := by
  rw [Phrase.lexemes, List.cons_append, List.append_assoc, List.append_assoc, List.cons_append,
    readItem_of_kind d (by rw [opening.2]; decide) (by rw [opening.2]; decide)
      (by rw [opening.2]; decide) (by rw [opening.2]; decide), if_pos opening.2]
  exact readGroup_eq d.flush lead inner closing hm

/-- What is no phrase is refused. -/
theorem IsStuck.readItem_eq {expected : LexemeKind} {found : Lexeme} {ls : List Lexeme}
    (h : IsStuck expected found ls) (d : Draft) :
    readItem leads segment d ls = .error (.unexpected found.kind found.index expected) := by
  cases h with
  | stray hkind ls =>
      have hne : ∀ kind, kind ≠ .modifier → kind ≠ .closeBrace → found.kind ≠ kind := by
        rintro kind hm hc rfl
        exact hkind.elim hm hc
      rw [readItem_of_kind d (hne _ (by decide) (by decide)) (hne _ (by decide) (by decide))
        (hne _ (by decide) (by decide)) (hne _ (by decide) (by decide)),
        if_neg (hne _ (by decide) (by decide)), expect, if_neg (hne _ (by decide) (by decide))]
      rfl
  | unclosed opening lead ls hl hinner =>
      rw [readItem_of_kind d (by rw [opening.2]; decide) (by rw [opening.2]; decide)
        (by rw [opening.2]; decide) (by rw [opening.2]; decide), if_pos opening.2]
      exact readGroup_eq_error d.flush lead hl hinner

theorem IsStuck.not_begins {expected kind : LexemeKind} {found : Lexeme} {ls : List Lexeme}
    (h : IsStuck expected found ls) (hmodifier : kind ≠ .modifier) (hclose : kind ≠ .closeBrace)
    (hopen : kind ≠ .openBrace) : ¬ Begins kind ls := by
  cases h with
  | stray hkind ls =>
      rintro rfl
      exact hkind.elim hmodifier hclose
  | unclosed opening lead ls hl hinner => exact not_begins_of_of opening hopen _

theorem IsStuck.exists_cons {expected : LexemeKind} {found : Lexeme} {ls : List Lexeme}
    (h : IsStuck expected found ls) : ∃ l rest, ls = l :: rest := by
  cases h with
  | stray _ ls => exact ⟨found, ls, rfl⟩
  | unclosed opening => exact ⟨opening.1, _, rfl⟩

/-! ### All items -/

theorem readItems_append {ls more : List Lexeme} {fuel : Nat} {d : Draft} {x : Except Error Draft}
    {f : Draft → Except Error Draft} (hpos : 0 < ls.length) (hfuel : (ls ++ more).length ≤ fuel)
    (hitem : readItem leads segment d (ls ++ more) = x.map (·, more))
    (hmore : ∀ fuel d, more.length ≤ fuel → readItems leads segment fuel d more = f d) :
    readItems leads segment fuel d (ls ++ more) = x >>= f := by
  cases ls with
  | nil => cases hpos
  | cons l ls =>
      rw [List.length_append, List.length_cons] at hfuel
      obtain ⟨fuel, rfl⟩ : ∃ n, fuel = n + 1 := ⟨fuel - 1, by omega⟩
      rw [List.cons_append] at hitem ⊢
      rw [readItems, hitem]
      cases x with
      | error e => rfl
      | ok d => exact hmore fuel d (by omega)

namespace Reading

theorem run_cons (r : Reading) (q : Phrase) (phrases : List Phrase) :
    run leads segment r (q :: phrases) =
      step leads segment r q >>= fun r => run leads segment r phrases :=
  List.foldlM_cons ..

/-- A character that no parameter follows is no lead. -/
theorem run_bind_settled {α : Type} (d : Draft) (lead : Text) {phrases : List Phrase}
    (h : ∀ s modifier, phrases.head? ≠ some (.slot s modifier)) (f : Draft → Except Error α) :
    (run leads segment ⟨d, lead⟩ phrases >>= fun r => f r.settled) =
      run leads segment ⟨d.collect lead, []⟩ phrases >>= fun r => f r.settled := by
  have hsettled : settled ⟨d, lead⟩ = settled ⟨d.collect lead, []⟩ := (d.collect lead).collect_nil.symm
  cases phrases with
  | nil => exact congrArg f hsettled
  | cons q phrases =>
      have hstep : step leads segment ⟨d, lead⟩ q = step leads segment ⟨d.collect lead, []⟩ q := by
        cases q with
        | text l => rw [step, step, hsettled]
        | slot s modifier => exact absurd rfl (h s modifier)
        | group opening lead' inner closing modifier => rw [step, step, hsettled]
      rw [run_cons, run_cons, hstep]

end Reading

/-- The phrases do not begin with a parameter outside braces. -/
def Phrase.NoSlotFirst (phrases : List Phrase) : Prop :=
  ∀ s modifier, phrases.head? ≠ some (.slot s modifier)

theorem Phrase.NoSlotFirst.not_begins {phrases : List Phrase} (h : NoSlotFirst phrases)
    {kind : LexemeKind} (hkind : kind = .name ∨ kind = .pattern) (hrest : ¬ Begins kind rest) :
    ¬ Begins kind (allLexemes phrases ++ rest) := by
  rcases phrases with _ | ⟨l | ⟨s, modifier⟩ | ⟨opening, _, _, _, _⟩, phrases⟩
  · exact hrest
  · intro hbegins
    have hl : l.1.kind = kind := hbegins
    rcases l.2 with hchar | hchar <;> rw [hchar] at hl <;> rcases hkind with rfl | rfl <;> cases hl
  · exact absurd rfl (h s modifier)
  · refine not_begins_of_of opening ?_ _
    rcases hkind with rfl | rfl <;> decide

/-- What stands behind the phrases, and what becomes of the draft there: it is finished at the end mark,
and refused where no phrase begins. -/
inductive IsEnding : List Lexeme → (Draft → Except Error Draft) → Prop where
  | finish (last : Of .finish) : IsEnding [last.1] fun d => .ok d.flush
  | stuck {expected : LexemeKind} {found : Lexeme} {rest : List Lexeme}
    (h : IsStuck expected found rest) :
    IsEnding rest fun _ => .error (.unexpected found.kind found.index expected)

namespace IsEnding

variable {ending : Draft → Except Error Draft}

theorem readItems_eq (h : IsEnding rest ending) {fuel : Nat} (d : Draft)
    (hfuel : rest.length ≤ fuel) : readItems leads segment fuel d rest = ending d := by
  cases h with
  | finish last =>
      obtain ⟨fuel, rfl⟩ : ∃ n, fuel = n + 1 := ⟨fuel - 1, by simp at hfuel; omega⟩
      rw [readItems, readItem_finish]
      cases fuel <;> rfl
  | stuck h =>
      obtain ⟨l, rest, rfl⟩ := h.exists_cons
      obtain ⟨fuel, rfl⟩ : ∃ n, fuel = n + 1 := ⟨fuel - 1, by simp at hfuel; omega⟩
      rw [readItems, h.readItem_eq]
      rfl

theorem not_begins (h : IsEnding rest ending) {kind : LexemeKind}
    (hkind : kind = .name ∨ kind = .pattern) : ¬ Begins kind rest := by
  cases h with
  | finish last =>
      refine not_begins_of_of last ?_ []
      rcases hkind with rfl | rfl <;> decide
  | stuck h =>
      rcases hkind with rfl | rfl
      · exact h.not_begins (by decide) (by decide) (by decide)
      · exact h.not_begins (by decide) (by decide) (by decide)

/-- Nothing touches at the end. -/
theorem ne_adjacent (h : IsEnding rest ending) (d : Draft) (name : Text) :
    ending d ≠ .error (.adjacent name) := by
  cases h with
  | finish last => exact nofun
  | stuck h => exact nofun

end IsEnding

/-- The lexemes of phrases are read phrase by phrase, and then what stands behind them. -/
theorem readItems_allLexemes {ending : Draft → Except Error Draft} (hending : IsEnding rest ending) :
    ∀ {phrases : List Phrase}, Phrase.AreMaximal phrases rest → ∀ {fuel : Nat} (d : Draft),
      (Phrase.allLexemes phrases ++ rest).length ≤ fuel →
      readItems leads segment fuel d (Phrase.allLexemes phrases ++ rest) =
        Reading.run leads segment ⟨d, []⟩ phrases >>= fun r => ending r.settled
  | [], _, fuel, d, hfuel =>
      (hending.readItems_eq d hfuel).trans (congrArg ending d.collect_nil.symm)
  | .slot s modifier :: phrases, h, fuel, d, hfuel => by
      rw [Phrase.allLexemes_cons, List.append_assoc] at hfuel ⊢
      have hitem : readItem leads segment d (s.lexemes ++ (optional modifier ++
          (Phrase.allLexemes phrases ++ rest))) = _ :=
        readItem_slot d none s (fun hs hm => (h.1 hm).2 hs) fun hm => (h.1 hm).1
      rw [readItems_append (Phrase.length_lexemes_pos _) hfuel
        (by rw [Phrase.lexemes, List.append_assoc]; exact hitem)
        fun fuel d => readItems_allLexemes hending h.2 d]
      rw [Reading.run_cons, Reading.step, bind_assoc, map_bind_eq]
      rfl
  | .group opening lead inner closing modifier :: phrases, h, fuel, d, hfuel => by
      rw [Phrase.allLexemes_cons, List.append_assoc] at hfuel ⊢
      rw [readItems_append (Phrase.length_lexemes_pos _) hfuel
        (readItem_group d opening lead inner closing h.1)
        fun fuel d => readItems_allLexemes hending h.2 d]
      rw [Reading.run_cons, Reading.step, bind_assoc, map_bind_eq, Reading.settled, Draft.collect_nil]
  | .text l :: phrases, h, fuel, d, hfuel => by
      by_cases hslot : l.1.kind = .char ∧ ∃ s modifier, phrases.head? = some (.slot s modifier)
      · -- The reader takes the character together with the parameter behind it.
        obtain ⟨hchar, s, modifier, hhead⟩ := hslot
        obtain ⟨phrases, rfl⟩ : ∃ more, phrases = .slot s modifier :: more := by
          cases phrases with
          | nil => cases hhead
          | cons q more => exact ⟨more, by rw [Option.some.inj hhead]⟩
        obtain ⟨-, hends, hmaximal⟩ := h
        have hitem : readItem leads segment d (l.1 :: (s.lexemes ++ (optional modifier ++
            (Phrase.allLexemes phrases ++ rest)))) = _ :=
          readItem_slot d (some ⟨l.1, hchar⟩) s (fun hs hm => (hends hm).2 hs) fun hm => (hends hm).1
        have hlexemes : Phrase.allLexemes (.text l :: .slot s modifier :: phrases) ++ rest =
            (l.1 :: (s.lexemes ++ optional modifier)) ++ (Phrase.allLexemes phrases ++ rest) := by
          simp [Phrase.lexemes]
        have hpos : 0 < (l.1 :: (s.lexemes ++ optional modifier)).length := Nat.succ_pos _
        rw [hlexemes] at hfuel ⊢
        rw [readItems_append hpos hfuel
          (by rw [List.cons_append, List.append_assoc]; exact hitem)
          fun fuel d => readItems_allLexemes hending hmaximal d]
        have hvalue : (value? (some (⟨l.1, hchar⟩ : Of .char))).getD [] = l.1.value := rfl
        rw [Reading.run_cons, Reading.step, Reading.settled, Draft.collect_nil, hvalue, bind_assoc]
        by_cases htaken : l.1.value.all leads.contains = true
        · rw [if_pos htaken, if_pos htaken, if_pos ⟨hchar, htaken⟩]
          change _ = Reading.run leads segment ⟨d, l.1.value⟩ _ >>= _
          rw [Reading.run_cons, Reading.step, bind_assoc, map_bind_eq]
        · rw [if_neg htaken, if_neg htaken, if_neg fun h => htaken h.2]
          change _ = Reading.run leads segment ⟨d.collect l.1.value, []⟩ _ >>= _
          rw [Reading.run_cons, Reading.step, bind_assoc, map_bind_eq]
      · have hfree : l.1.kind = .char → Phrase.NoSlotFirst phrases :=
          fun hchar s modifier hhead => hslot ⟨hchar, s, modifier, hhead⟩
        have hitem : readItem leads segment d (l.1 :: (Phrase.allLexemes phrases ++ rest)) =
            (Except.ok (d.collect l.1.value)).map (·, Phrase.allLexemes phrases ++ rest) :=
          readItem_text fun hchar =>
            ⟨(hfree hchar).not_begins (Or.inl rfl) (hending.not_begins (Or.inl rfl)),
              (hfree hchar).not_begins (Or.inr rfl) (hending.not_begins (Or.inr rfl))⟩
        rw [Phrase.allLexemes_cons, List.append_assoc] at hfuel ⊢
        rw [readItems_append (Phrase.length_lexemes_pos _) hfuel hitem
          fun fuel d => readItems_allLexemes hending h.2 d]
        rw [Reading.run_cons, Reading.step, Reading.settled, Draft.collect_nil]
        change Reading.run leads segment ⟨d.collect l.1.value, []⟩ phrases >>= _ = _
        split
        · next hlead => exact (Reading.run_bind_settled d l.1.value (hfree hlead.1) ending).symm
        · rfl

/-! ### Whole templates -/

/-- The lexemes of a template are phrases, up to the end mark or to where no phrase begins, and the
template is read phrase by phrase. -/
theorem exists_phrasing {template : Text} {lexemes : List Lexeme}
    (hscan : Lexeme.scan template = .ok lexemes) (leads segment : Text) :
    ∃ phrases rest ending, lexemes = Phrase.allLexemes phrases ++ rest ∧
      Phrase.AreMaximal phrases rest ∧ (∀ l ∈ Phrase.allLexemes phrases, l.value ≠ []) ∧
      IsEnding rest ending ∧ ∀ fuel, lexemes.length ≤ fuel →
        readItems leads segment fuel .start lexemes =
          Reading.run leads segment ⟨.start, []⟩ phrases >>= fun r => ending r.settled := by
  have hscanned := areScanned_of_scanFrom hscan
  obtain ⟨phrases, rest, rfl, hmaximal, hstop⟩ := exists_phrases hscanned
  obtain ⟨ending, hending⟩ : ∃ ending, IsEnding rest ending := by
    rcases hstop with ⟨last, rfl⟩ | ⟨expected, found, hstuck⟩
    · exact ⟨_, .finish last⟩
    · exact ⟨_, .stuck hstuck⟩
  exact ⟨phrases, rest, ending, rfl, hmaximal,
    hscanned.ne_nil_of_append fun _ => Phrase.ne_finish_of_mem_allLexemes, hending,
    fun fuel => readItems_allLexemes hending hmaximal .start⟩

/-- A template is read as its items are. -/
theorem read_of_scan {template : Text} {lexemes : List Lexeme}
    (hscan : Lexeme.scan template = .ok lexemes) (leads delimiter : Text) :
    read leads delimiter template =
      (readItems leads (segmentPattern delimiter) lexemes.length .start lexemes).map
        (·.done.reverse) := by
  unfold read
  rw [hscan]
  dsimp only [Except.mapError, bind, Except.bind]
  cases readItems leads (segmentPattern delimiter) lexemes.length .start lexemes <;> rfl

end RouteMask.Template
