import RouteMask.Proofs.Template.Slots

/-! # A repeated parameter at the end of a template

A template of characters and slots that ends in a parameter behind a slash, with a modifier that lets
it be repeated.

* `Item.read_repeated`: what is read of such a template.
* `Item.exists_matcher_repeated`: without slots, it is compiled as a literal and one parameter.
* `Template.accepts_literal_iff`: a text that begins with the literal is accepted if the parameter
  takes the rest of it. -/

namespace RouteMask

/-- A literal and one parameter. -/
def Template.literalThen (text : Text) (p : Parameter) : Template :=
  [.literal text, .parameter p]

namespace Item

/-- The parameter of a slot that may be repeated. -/
def repeated (name : Text) (modifier : Char) : Parameter :=
  { parameter name with modifier := [modifier] }

/-- The text of a slot with a modifier. -/
def repeatedText (name : Text) (modifier : Char) : Text :=
  '/' :: ':' :: (name ++ [modifier])

/-! ### Reading -/

variable {items : List Item} {name : Text} {modifier : Char}

theorem next_modifier (hmodifier : modifier = '+' ∨ modifier = '*') (index : Nat) (rest : Text) :
    Lexeme.next index modifier rest = .ok (⟨.modifier, index, [modifier]⟩, rest) := by
  rcases hmodifier with rfl | rfl <;> rfl

/-- The lexemes of a slot with a modifier at some index. -/
def repeatedLexemes (name : Text) (modifier : Char) (index : Nat) : List Lexeme :=
  [⟨.char, index, ['/']⟩, ⟨.name, index + 1, name⟩,
    ⟨.modifier, index + 1 + (name.length + 1), [modifier]⟩]

/-- A slot with a modifier is scanned. -/
theorem scans_repeatedText (hne : name ≠ []) (hname : ∀ c ∈ name, Lexeme.isNameChar c = true)
    (hmodifier : modifier = '+' ∨ modifier = '*') (rest : Text) :
    Lexeme.Scans (repeatedText name modifier) (repeatedLexemes name modifier) rest := by
  have hstop : ∀ c ∈ (modifier :: rest).head?, Lexeme.isNameChar c = false := by
    intro c hc
    obtain rfl : modifier = c := Option.some.inj hc
    rcases hmodifier with rfl | rfl <;> rfl
  have hslash : Lexeme.Scans ['/'] (fun index => [⟨.char, index, ['/']⟩])
      (':' :: name ++ [modifier] ++ rest) := .one (s := []) fun index => next_char (by decide) index _
  have hword : Lexeme.Scans (':' :: name) (fun index => [⟨.name, index, name⟩]) ([modifier] ++ rest) :=
    .one (next_name hne hname hstop)
  have hlast : Lexeme.Scans [modifier] (fun index => [⟨.modifier, index, [modifier]⟩]) rest :=
    .one (s := []) fun index => next_modifier hmodifier index rest
  exact hslash.append (hword.append hlast)

/-- A slot with a modifier is read. -/
theorem collects_repeatedLexemes (name : Text) (modifier : Char) (index : Nat) (more : List Lexeme) :
    Template.Collects (repeatedLexemes name modifier index)
      (fun d => d.flush.finish (repeated name modifier)) more := by
  refine .item (List.cons_ne_nil _ _) fun d => ?_
  have htake : Template.take? .modifier
      (⟨.modifier, index + 1 + (name.length + 1), [modifier]⟩ :: more) = (some [modifier], more) := rfl
  exact readParameter_slash htake d name

/-- What is read of a template of items with a repeated parameter behind them. -/
theorem read_repeated (hitems : ArePlain items) (hne : name ≠ [])
    (hname : ∀ c ∈ name, Lexeme.isNameChar c = true) (hmodifier : modifier = '+' ∨ modifier = '*') :
    Template.read Template.usualLeads Template.usualDelimiter
        (texts items ++ repeatedText name modifier) =
      .ok (parts [] items ++ [.parameter (repeated name modifier)]) := by
  have hscans := scans_repeatedText hne hname hmodifier []
  have hscan := ((scans_texts hitems (Or.inr rfl)).append hscans).scan_eq
  have hbegin : BeginItem (repeatedLexemes name modifier (0 + (texts items).length) ++
      [finish (texts items ++ repeatedText name modifier).length]) := ⟨_, _, rfl, Or.inl rfl⟩
  have hcollects := (collects_allLexemes 0 items hbegin).append
    (collects_repeatedLexemes name modifier _ _)
  have hdone : ∀ d : Template.Draft, (d.flush.finish (repeated name modifier)).flush.done.reverse =
      d.flush.done.reverse ++ [.parameter (repeated name modifier)] := by
    intro d
    obtain ⟨done, pending, unnamed⟩ := d
    cases pending <;> simp [Template.Draft.flush, Template.Draft.finish]
  rw [hcollects.read_eq hscan, hdone, reverse_done_foldl]
  rfl

/-- Items without slots are one literal. -/
theorem parts_of_names_eq_nil (value : Text → Text) (hnames : names items = []) {pending : Text}
    (hne : pending ++ fill value items ≠ []) :
    parts pending items = [.literal (pending ++ fill value items)] := by
  fun_induction parts pending items with
  | case1 => exact absurd rfl hne
  | case2 pending _ => rw [fill, List.flatMap_nil, List.append_nil]
  | case3 pending c items ih =>
      have hfill : pending ++ fill value (char c :: items) = pending ++ [c] ++ fill value items := by
        simp [fill, filled]
      rw [hfill] at hne ⊢
      exact ih hnames hne
  | case4 pending c items ih =>
      have hfill : pending ++ fill value (escaped c :: items) = pending ++ [c] ++ fill value items := by
        simp [fill, filled]
      rw [hfill] at hne ⊢
      exact ih hnames hne
  | case5 => cases hnames
  | case6 => cases hnames

theorem isPlain_repeated (front : Text) (hmodifier : modifier = '+' ∨ modifier = '*') :
    (Template.literalThen front (repeated name modifier)).IsPlain := by
  intro p hp
  obtain rfl : p = repeated name modifier := by simpa [Template.literalThen] using hp
  refine ⟨Or.inr rfl, ?_⟩
  rcases hmodifier with rfl | rfl
  · exact Or.inr (Or.inr (Or.inr rfl))
  · exact Or.inr (Or.inr (Or.inl rfl))

/-- Slotless items and a repeated parameter can be compiled. -/
theorem exists_matcher_repeated (hitems : ArePlain items) (hnames : names items = [])
    (hfill : fill id items ≠ []) (hne : name ≠ []) (hname : ∀ c ∈ name, Lexeme.isNameChar c = true)
    (hmodifier : modifier = '+' ∨ modifier = '*') (decode : Text → Text) :
    ∃ m, Matcher.ofTemplate decode (texts items ++ repeatedText name modifier) = .ok m ∧
      m.pattern.IsOf (.literalThen (fill id items) (repeated name modifier)) ∧
      m.keys = [repeated name modifier] ∧ m.decode = decode := by
  have hread := read_repeated hitems hne hname hmodifier
  rw [parts_of_names_eq_nil id hnames hfill, List.nil_append] at hread
  obtain ⟨source, hsource⟩ : ∃ source,
      (Template.literalThen (fill id items) (repeated name modifier)).source? .default =
        .ok source := by
    rcases hmodifier with rfl | rfl <;> exact ⟨_, rfl⟩
  exact Matcher.exists_of_read hread (isPlain_repeated _ hmodifier) hsource decode

end Item

/-! ### Accepting -/

namespace Template

variable {s t : Text} {p : Parameter} {taken : List (Option Text)}

theorem fits_literal_iff (hp : p.isCapturing = true) :
    (literalThen s p).Fits t taken ↔
      ∃ a b value, t = a ++ b ∧ SameFold s a ∧ p.Takes b value ∧ taken = [value] := by
  constructor
  · intro h
    cases h with
    | literal hs hrest =>
        cases hrest with
        | group hc => rw [hp] at hc; cases hc
        | parameter _ htakes hnil =>
            cases hnil
            exact ⟨_, _, _, by rw [List.append_nil], hs, htakes, rfl⟩
  · rintro ⟨a, b, value, rfl, hs, htakes, rfl⟩
    rw [← List.append_nil b]
    exact .literal hs (.parameter hp htakes .nil)

/-- A text that begins with the literal is accepted when the parameter takes the rest of it, but for
a delimiter at the end. -/
theorem accepts_literal_iff (hp : p.isCapturing = true) :
    (literalThen s p).Accepts (s ++ t) taken ↔
      ∃ b value, p.Takes b value ∧ taken = [value] ∧
        (t = b ∨ ∃ c ∈ usualDelimiter, t = b ++ [c]) := by
  constructor
  · rintro ⟨body, hbody, hcut⟩
    obtain ⟨a, b, value, rfl, hs, htakes, rfl⟩ := (fits_literal_iff hp).mp hbody
    refine ⟨b, value, htakes, rfl, ?_⟩
    rcases hcut with hcut | ⟨c, hc, hcut⟩
    · exact Or.inl (List.append_inj hcut hs.length_eq).2
    · rw [List.append_assoc] at hcut
      exact Or.inr ⟨c, hc, (List.append_inj hcut hs.length_eq).2⟩
  · rintro ⟨b, value, htakes, rfl, hcut⟩
    refine ⟨s ++ b, (fits_literal_iff hp).mpr ⟨s, b, value, rfl, Item.sameFold_refl s, htakes, rfl⟩, ?_⟩
    rcases hcut with rfl | ⟨c, hc, rfl⟩
    · exact Or.inl rfl
    · exact Or.inr ⟨c, hc, (List.append_assoc ..).symm⟩

end Template

end RouteMask
