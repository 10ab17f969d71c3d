import RouteMask.Proofs.Regex.Language
import RouteMask.Proofs.Template.Expression

/-! # The texts that a template stands for

A reading of templates that does not mention regular expressions.  A template fits a text when the text
is put together from one piece for each part (`Template.Fits`); the pieces of parameters tell what the
parameters take.

* `Template.spells_expressions_iff`: the expressions of a template spell the texts that it fits, and
  capture what its keys take. -/

namespace RouteMask

/-- The texts are equal but for the case of their characters. -/
def SameFold (s t : Text) : Prop :=
  List.Forall₂ (fun c d : Char => d.toNat ∈ Unicode.orbit c.toNat) s t

instance (s t : Text) : Decidable (SameFold s t) :=
  inferInstanceAs (Decidable (List.Forall₂ _ s t))

/-- Texts that are equal but for the case of their characters are equal where no character stands in
another case. -/
theorem eq_of_sameFold {s t : Text} (h : SameFold s t)
    (hcase : ∀ c ∈ s, ∀ d ∈ t, d.toNat ∈ Unicode.orbit c.toNat → d = c) : t = s := by
  induction h with
  | nil => rfl
  | @cons c d s t hd _ ih =>
      have hrest := ih fun a ha b hb => hcase a (List.mem_cons_of_mem c ha) b (List.mem_cons_of_mem d hb)
      rw [hcase c List.mem_cons_self d List.mem_cons_self hd, hrest]

namespace SameFold

variable {s t u : Text}

/-- Characters in front of the first letter have no other case. -/
theorem eq_of_lt (h : SameFold s t) (hs : ∀ c ∈ s, c.toNat < 0x41) : t = s :=
  eq_of_sameFold h fun c hc _ _ hd =>
    (Char.toNat_inj.mp (Unicode.eq_of_mem_orbit hd (Or.inl (hs c hc)))).symm

theorem exists_of_mem (h : SameFold s t) {d : Char} (hd : d ∈ t) :
    ∃ c ∈ s, d.toNat ∈ Unicode.orbit c.toNat := by
  induction h with
  | nil => cases hd
  | @cons c e s t he _ ih =>
      rcases List.mem_cons.mp hd with rfl | hd
      · exact ⟨c, List.mem_cons_self, he⟩
      · obtain ⟨b, hb, horbit⟩ := ih hd
        exact ⟨b, List.mem_cons_of_mem c hb, horbit⟩

/-- A character in front of the first letter is no other case of another one. -/
theorem not_mem_of_lt (h : SameFold s t) {c : Char} (hc : c.toNat < 0x41) (hs : c ∉ s) : c ∉ t := by
  intro hmem
  obtain ⟨d, hd, horbit⟩ := h.exists_of_mem hmem
  obtain rfl := Char.toNat_inj.mp (Unicode.eq_of_mem_orbit horbit (Or.inr hc))
  exact hs hd

theorem append_iff :
    SameFold (s ++ t) u ↔ ∃ a b, u = a ++ b ∧ SameFold s a ∧ SameFold t b := by
  constructor
  · intro h
    refine ⟨u.take s.length, u.drop s.length, (List.take_append_drop _ _).symm, ?_, ?_⟩
    · have htake := List.forall₂_take s.length h
      rwa [List.take_left] at htake
    · have hdrop := List.forall₂_drop s.length h
      rwa [List.drop_left] at hdrop
  · rintro ⟨a, b, rfl, ha, hb⟩
    exact List.rel_append ha hb

/-- A text that stands for itself may be taken piece by piece. -/
theorem exists_append_iff {P : Text → Prop} :
    (∃ a b, u = a ++ b ∧ SameFold (s ++ t) a ∧ P b) ↔
      ∃ a b, u = a ++ b ∧ SameFold s a ∧ ∃ a' b', b = a' ++ b' ∧ SameFold t a' ∧ P b' := by
  constructor
  · rintro ⟨_, b, rfl, hboth, hb⟩
    obtain ⟨a, a', rfl, ha, ha'⟩ := append_iff.mp hboth
    exact ⟨a, a' ++ b, by simp, ha, a', b, rfl, ha', hb⟩
  · rintro ⟨a, _, rfl, ha, a', b, rfl, ha', hb⟩
    exact ⟨a ++ a', b, by simp, append_iff.mpr ⟨a, a', rfl, ha, ha'⟩, hb⟩

theorem exists_nil_iff {P : Text → Prop} :
    (∃ a b, u = a ++ b ∧ SameFold [] a ∧ P b) ↔ P u := by
  constructor
  · rintro ⟨a, b, rfl, ha, hb⟩
    cases ha
    exact hb
  · exact fun h => ⟨[], u, rfl, .nil, h⟩

end SameFold

/-- Some text without delimiters. -/
def IsSegment (s : Text) : Prop :=
  s ≠ [] ∧ ∀ c ∈ s, c ∉ Template.usualDelimiter

/-- A modifier lets something stand so many times. -/
def Allows (modifier : Text) (k : Nat) : Prop :=
  if modifier = ['?'] then k ≤ 1
  else if modifier = ['*'] then True
  else if modifier = ['+'] then 1 ≤ k
  else k = 1

/-- One segment or more, each but the first behind a text equal to `gap`. -/
def AreSegments (gap s : Text) : Prop :=
  ∃ v t k, s = v ++ t ∧ IsSegment v ∧
    Copies (fun u => ∃ g w, u = g ++ w ∧ SameFold gap g ∧ IsSegment w) k t

/-- What a parameter takes of a text, if it takes part. -/
inductive Parameter.Takes (p : Parameter) : Text → Option Text → Prop where
  | single {a v b : Text} : p.isRepeated = false → SameFold p.lead a → IsSegment v →
      SameFold p.trail b → Takes p (a ++ v ++ b) (some v)
  | several {a v b : Text} : p.isRepeated = true → SameFold p.lead a →
      AreSegments (p.trail ++ p.lead) v → SameFold p.trail b → Takes p (a ++ v ++ b) (some v)
  | absent : p.modifier = ['?'] ∨ p.modifier = ['*'] → Takes p [] none

/-- The text is put together from one piece for each part; the keys take the texts `taken`. -/
inductive Template.Fits : Template → Text → List (Option Text) → Prop where
  | nil : Fits [] [] []
  | literal {text s t : Text} {parts : Template} {taken : List (Option Text)} :
      SameFold text s → Fits parts t taken → Fits (.literal text :: parts) (s ++ t) taken
  | group {p : Parameter} {s t : Text} {k : Nat} {parts : Template} {taken : List (Option Text)} :
      p.isCapturing = false → Allows p.modifier k → Copies (SameFold (p.lead ++ p.trail)) k s →
      Fits parts t taken → Fits (.parameter p :: parts) (s ++ t) taken
  | parameter {p : Parameter} {s t : Text} {value : Option Text} {parts : Template}
      {taken : List (Option Text)} :
      p.isCapturing = true → p.Takes s value → Fits parts t taken →
      Fits (.parameter p :: parts) (s ++ t) (value :: taken)

/-- The template fits the text, from which a delimiter at the end may be taken away. -/
def Template.Accepts (parts : Template) (url : Text) (taken : List (Option Text)) : Prop :=
  ∃ body, parts.Fits body taken ∧ (url = body ∨ ∃ c ∈ usualDelimiter, url = body ++ [c])

/-- One text is taken for each key. -/
theorem Template.Fits.length_eq {parts : Template} {s : Text} {taken : List (Option Text)}
    (h : parts.Fits s taken) : taken.length = (keys parts).length := by
  induction h with
  | nil => rfl
  | literal _ _ ih => exact ih
  | group hc _ _ _ ih => rw [keys_parameter, hc]; exact ih
  | parameter hc _ _ ih => rw [keys_parameter, hc]; exact congrArg (· + 1) ih

/-! ### Literals and segments -/

section Sets

open Regex

theorem takes_literals (text : Text) : Takes (seqAll (literals text)) (SameFold text) := by
  induction text with
  | nil =>
      refine Takes.nil.congr fun p => ?_
      simp [SameFold]
  | cons c text ih =>
      have hchar : Takes (seqAll [.set (.single true c.toNat)]) _ := Takes.set (.single true c.toNat)
      refine (hchar.append ih).congr fun p => ?_
      constructor
      · rintro ⟨_, t, rfl, ⟨d, rfl, hd⟩, ht⟩
        exact .cons ((CharSet.has_single_true _ _).mp hd) ht
      · intro h
        cases h with
        | @cons _ d _ t hd ht => exact ⟨[d], t, rfl, ⟨d, rfl, (CharSet.has_single_true _ _).mpr hd⟩, ht⟩

theorem copies_char_iff {P : Char → Prop} {k : Nat} {s : Text} :
    Copies (fun p => ∃ x, p = [x] ∧ P x) k s ↔ s.length = k ∧ ∀ x ∈ s, P x := by
  constructor
  · intro h
    induction h with
    | none => simp
    | more hx _ ih =>
        obtain ⟨x, rfl, hx⟩ := hx
        exact ⟨by simp [ih.1], by simpa using ⟨hx, ih.2⟩⟩
  · rintro ⟨rfl, h⟩
    induction s with
    | nil => exact .none
    | cons x s ih =>
        exact .more (s := [x]) ⟨x, rfl, h x (by simp)⟩ (ih fun y hy => h y (by simp [hy]))

/-- The expression of a delimiter tests for the delimiters, none of which has another case. -/
theorem has_delimiterSet {c : Char} : delimiterSet.has c.toNat = true ↔ c ∈ Template.usualDelimiter := by
  have hclosed : ∀ m < 0x41, ∀ n, (CharSet.closed true (.ranges [(m, m)])).has n = true ↔ n = m := by
    intro m hm n
    rw [CharSet.closed, if_pos rfl, CharSet.has_closure, List.any_eq_true]
    constructor
    · rintro ⟨k, hk, hhas⟩
      obtain rfl : k = m := by
        simp [Unicode.Ranges.has] at hhas
        omega
      exact Unicode.eq_of_mem_orbit hk (Or.inr hm)
    · rintro rfl
      exact ⟨n, Unicode.mem_orbit n, by simp [Unicode.Ranges.has]⟩
  have hchar : ∀ d : Char, c.toNat = d.toNat ↔ c = d := fun d => Char.toNat_inj
  simp only [delimiterSet, CharSet.has_union, CharSet.has_none, Bool.or_eq_true, Bool.false_eq_true,
    false_or, hclosed 47 (by decide), hclosed 35 (by decide), hclosed 63 (by decide)]
  rw [show (47 : Nat) = '/'.toNat from rfl, show (35 : Nat) = '#'.toNat from rfl,
    show (63 : Nat) = '?'.toNat from rfl, hchar, hchar, hchar]
  simp [Template.usualDelimiter, or_assoc]

theorem takes_segment : Takes segment IsSegment := by
  refine (Takes.set _).plus.congr fun p => ?_
  simp only [copies_char_iff]
  constructor
  · rintro ⟨k, hk, h⟩
    refine ⟨List.ne_nil_of_length_eq_add_one hk, fun c hc hd => ?_⟩
    have := h c hc
    rw [CharSet.has_compl, has_delimiterSet.mpr hd] at this
    cases this
  · rintro ⟨hne, h⟩
    refine ⟨p.length - 1, ?_, fun c hc => ?_⟩
    · have := List.length_pos_iff.mpr hne
      omega
    · rw [CharSet.has_compl, Bool.not_eq_true', Bool.eq_false_iff]
      exact fun hd => h c hc (has_delimiterSet.mp hd)

theorem takes_segments (gap : Text) :
    Takes (.seq segment (.star true (seqAll (literals gap ++ [segment])))) (AreSegments gap) := by
  have hsegment : Takes (seqAll [segment]) IsSegment := takes_segment
  have hgap : Takes (seqAll (literals gap ++ [segment])) _ := (takes_literals gap).append hsegment
  have hmore : Takes (seqAll [.star true (seqAll (literals gap ++ [segment]))]) _ := hgap.star
  have hboth := hsegment.append hmore
  refine hboth.congr fun p => ?_
  constructor
  · rintro ⟨v, t, rfl, hv, k, hk⟩
    exact ⟨v, t, k, rfl, hv, hk⟩
  · rintro ⟨v, t, k, rfl, hv, hk⟩
    exact ⟨v, t, rfl, hv, k, hk⟩

theorem takes_modified {r : Regex} {L : Text → Prop} (h : Takes r L) {modifier : Text}
    (hm : IsModifier modifier) :
    Takes (modified modifier r) fun s => ∃ k, Allows modifier k ∧ Copies L k s := by
  rcases hm with rfl | rfl | rfl | rfl
  · refine h.congr fun s => ?_
    constructor
    · intro hs
      exact ⟨1, rfl, by simpa using Copies.more hs .none⟩
    · rintro ⟨k, rfl, hs⟩
      cases hs with
      | more hs hrest =>
          cases hrest
          simpa using hs
  · exact h.opt
  · refine h.star.congr fun s => ?_
    simp [Allows]
  · refine h.plus.congr fun s => ?_
    constructor
    · rintro ⟨k, hk⟩
      exact ⟨k + 1, Nat.succ_pos k, hk⟩
    · rintro ⟨k, hpos, hk⟩
      obtain ⟨k, rfl⟩ : ∃ n, k = n + 1 := ⟨k - 1, by simp [Allows] at hpos; omega⟩
      exact ⟨k, hk⟩

end Sets

/-! ### Parameters -/

namespace Parameter

open Regex

variable {p : Parameter} {n : Nat} {before s after : Text} {c : List (Nat × Text)}

/-- The value of a parameter is one segment or several. -/
def IsValue (p : Parameter) (v : Text) : Prop :=
  if p.isRepeated then AreSegments (p.trail ++ p.lead) v else IsSegment v

theorem takes_valueRegex (p : Parameter) : Regex.Takes p.valueRegex p.IsValue := by
  unfold valueRegex IsValue
  cases p.isRepeated with
  | true => exact takes_segments _
  | false => exact takes_segment

/-- A group between two literals captures what it takes. -/
theorem spells_around_iff {r : Regex} {L : Text → Prop} (hr : Regex.Takes r L) (lead trail : Text) :
    Spells (seqAll (literals lead ++ .group (n + 1) r :: literals trail)) before s after c ↔
      ∃ a v b, s = a ++ v ++ b ∧ SameFold lead a ∧ L v ∧ SameFold trail b ∧ c = [(n + 1, v)] := by
  rw [spells_seqAll_append]
  constructor
  · rintro ⟨a, t, c₁, c₂, rfl, rfl, hlead, ht⟩
    obtain ⟨ha, rfl⟩ := (takes_literals lead ..).mp hlead
    obtain ⟨v, b, c₃, c₄, rfl, rfl, hgroup, htrail⟩ := spells_seqAll_cons.mp ht
    obtain ⟨d, rfl, hvalue⟩ := spells_group_iff.mp hgroup
    obtain ⟨hv, rfl⟩ := (hr ..).mp hvalue
    obtain ⟨hb, rfl⟩ := (takes_literals trail ..).mp htrail
    exact ⟨a, v, b, by simp, ha, hv, hb, rfl⟩
  · rintro ⟨a, v, b, rfl, ha, hv, hb, rfl⟩
    refine ⟨a, v ++ b, [], [(n + 1, v)], by simp, rfl, (takes_literals lead ..).mpr ⟨ha, rfl⟩, ?_⟩
    exact spells_seqAll_cons.mpr ⟨v, b, [(n + 1, v)], [], rfl, rfl,
      spells_group_iff.mpr ⟨[], rfl, (hr ..).mpr ⟨hv, rfl⟩⟩, (takes_literals trail ..).mpr ⟨hb, rfl⟩⟩

/-- A parameter with its lead and trail captures its value. -/
theorem spells_inner_iff (hc : p.isCapturing = true) :
    Spells (seqAll (p.inner n)) before s after c ↔
      ∃ a v b, s = a ++ v ++ b ∧ SameFold p.lead a ∧ p.IsValue v ∧ SameFold p.trail b ∧
        c = [(n + 1, v)] := by
  rw [inner, if_pos hc]
  exact spells_around_iff p.takes_valueRegex p.lead p.trail

theorem takes_some_iff {v : Text} :
    p.Takes s (some v) ↔
      ∃ a b, s = a ++ v ++ b ∧ SameFold p.lead a ∧ p.IsValue v ∧ SameFold p.trail b := by
  unfold IsValue
  constructor
  · intro h
    cases h with
    | single hr ha hv hb => exact ⟨_, _, rfl, ha, by rw [hr]; exact hv, hb⟩
    | several hr ha hv hb => exact ⟨_, _, rfl, ha, by rw [hr]; exact hv, hb⟩
  · rintro ⟨a, b, rfl, ha, hv, hb⟩
    cases hr : p.isRepeated with
    | false =>
        rw [hr] at hv
        exact .single hr ha hv hb
    | true =>
        rw [hr] at hv
        exact .several hr ha hv hb

theorem takes_none_iff : p.Takes s none ↔ s = [] ∧ (p.modifier = ['?'] ∨ p.modifier = ['*']) := by
  constructor
  · intro h
    cases h with
    | absent h => exact ⟨rfl, h⟩
  · rintro ⟨rfl, h⟩
    exact .absent h

/-- The modifier behind a capturing parameter makes it optional, or there is none. -/
theorem outerModifier_eq (hc : p.isCapturing = true) (hm : IsModifier p.modifier) :
    p.outerModifier = if p.modifier = ['?'] ∨ p.modifier = ['*'] then ['?'] else [] := by
  unfold outerModifier isRepeated
  rcases hm with hm | hm | hm | hm <;> simp [hc, hm]

/-- What the expression of a parameter captures. -/
theorem spells_regex_iff (hc : p.isCapturing = true) (hm : IsModifier p.modifier) :
    Spells (p.regex n) before s after c ↔
      ∃ value, p.Takes s value ∧ c = (value.map fun v => (n + 1, v)).toList := by
  have hinner : Spells (seqAll (p.inner n)) before s after c ↔
      ∃ v, p.Takes s (some v) ∧ c = [(n + 1, v)] := by
    rw [spells_inner_iff hc]
    constructor
    · rintro ⟨a, v, b, hs, ha, hv, hb, rfl⟩
      exact ⟨v, takes_some_iff.mpr ⟨a, b, hs, ha, hv, hb⟩, rfl⟩
    · rintro ⟨v, hv, rfl⟩
      obtain ⟨a, b, hs, ha, hv, hb⟩ := takes_some_iff.mp hv
      exact ⟨a, v, b, hs, ha, hv, hb, rfl⟩
  rw [regex, outerModifier_eq hc hm]
  by_cases hopt : p.modifier = ['?'] ∨ p.modifier = ['*']
  · rw [if_pos hopt, modified, if_pos rfl, spells_opt_iff, hinner]
    constructor
    · rintro (⟨v, hv, rfl⟩ | ⟨rfl, rfl⟩)
      · exact ⟨some v, hv, rfl⟩
      · exact ⟨none, .absent hopt, rfl⟩
    · rintro ⟨value, hv, rfl⟩
      cases value with
      | some v => exact Or.inl ⟨v, hv, rfl⟩
      | none => exact Or.inr ⟨(takes_none_iff.mp hv).1, rfl⟩
  · rw [if_neg hopt]
    have hplain : modified [] (seqAll (p.inner n)) = seqAll (p.inner n) := by simp [modified]
    rw [hplain, hinner]
    constructor
    · rintro ⟨v, hv, rfl⟩
      exact ⟨some v, hv, rfl⟩
    · rintro ⟨value, hv, rfl⟩
      cases value with
      | some v => exact ⟨v, hv, rfl⟩
      | none => exact absurd (takes_none_iff.mp hv).2 hopt

/-- A literal group captures nothing. -/
theorem takes_regex (hc : p.isCapturing = false) (hm : IsModifier p.modifier) :
    Regex.Takes (p.regex n) fun s =>
      ∃ k, Allows p.modifier k ∧ Copies (SameFold (p.lead ++ p.trail)) k s := by
  have hinner : p.inner n = literals (p.lead ++ p.trail) := by
    rw [inner, hc]
    rfl
  have houter : p.outerModifier = p.modifier := by
    rw [outerModifier, hc]
    rfl
  rw [regex, hinner, houter]
  exact takes_modified (takes_literals _) hm

end Parameter

/-! ### Templates -/

namespace Template

open Regex

/-- The captures of groups from `n` on, the latest first, that take the given texts. -/
def captures : (n : Nat) → List (Option Text) → List (Nat × Text)
  | _, [] => []
  | n, value :: taken => captures (n + 1) taken ++ (value.map fun v => (n + 1, v)).toList

theorem lookup_captures_of_le {n i : Nat} (h : i ≤ n) (taken : List (Option Text)) :
    (captures n taken).lookup i = none := by
  induction taken generalizing n with
  | nil => rfl
  | cons value taken ih =>
      rw [captures, List.lookup_append, ih (by omega)]
      cases value with
      | none => rfl
      | some v =>
          have hne : (i == n + 1) = false := by simp; omega
          simp [List.lookup_cons, hne]

/-- Each group has the text that it has taken. -/
theorem map_lookup_captures (n : Nat) (taken : List (Option Text)) :
    (List.range taken.length).map (fun i => (captures n taken).lookup (n + i + 1)) = taken := by
  induction taken generalizing n with
  | nil => rfl
  | cons value taken ih =>
      rw [List.length_cons, List.range_succ_eq_map, List.map_cons, List.map_map]
      have hhead : (captures n (value :: taken)).lookup (n + 0 + 1) = value := by
        rw [captures, List.lookup_append, lookup_captures_of_le (Nat.le_refl _)]
        cases value <;> simp
      have htail : ((fun i => (captures n (value :: taken)).lookup (n + i + 1)) ∘ Nat.succ) =
          fun i => (captures (n + 1) taken).lookup (n + 1 + i + 1) := by
        funext i
        have hne : (n + (i + 1) + 1 == n + 1) = false := by simp
        have hlast : ((value.map fun v => (n + 1, v)).toList).lookup (n + (i + 1) + 1) = none := by
          cases value <;> simp [List.lookup_cons, hne]
        rw [Function.comp_apply, captures, List.lookup_append, hlast, Option.or_none]
        congr 1
        omega
      rw [hhead, htail, ih]

theorem groupTexts_captures {count : Nat} {taken : List (Option Text)} (h : taken.length = count) :
    Pattern.groupTexts count (captures 0 taken) = taken := by
  have hmap := map_lookup_captures 0 taken
  rw [h] at hmap
  rw [Pattern.groupTexts]
  simpa using hmap

theorem spells_expressions_iff {parts : Template} {n : Nat} {before s after : Text}
    {c : List (Nat × Text)} (hp : parts.IsPlain) :
    Spells (seqAll (parts.expressions n)) before s after c ↔
      ∃ taken, parts.Fits s taken ∧ c = captures n taken := by
  induction parts generalizing n before s c with
  | nil =>
      rw [expressions, seqAll, spells_empty_iff]
      constructor
      · rintro ⟨rfl, rfl⟩
        exact ⟨[], .nil, rfl⟩
      · rintro ⟨taken, hfits, rfl⟩
        cases hfits
        exact ⟨rfl, rfl⟩
  | cons part parts ih =>
      have hparts : IsPlain parts := fun p hmem => hp p (List.mem_cons_of_mem _ hmem)
      cases part with
      | literal text =>
          rw [expressions, spells_seqAll_append]
          constructor
          · rintro ⟨s, t, c₁, c₂, rfl, rfl, hfirst, hrest⟩
            obtain ⟨hs, rfl⟩ := (takes_literals text ..).mp hfirst
            obtain ⟨taken, hfits, rfl⟩ := (ih hparts).mp hrest
            exact ⟨taken, .literal hs hfits, by simp⟩
          · rintro ⟨taken, hfits, rfl⟩
            cases hfits with
            | literal hs ht =>
                exact ⟨_, _, [], captures n taken, rfl, by simp,
                  (takes_literals text ..).mpr ⟨hs, rfl⟩, (ih hparts).mpr ⟨taken, ht, rfl⟩⟩
      | parameter p =>
          have hm : IsModifier p.modifier := (hp p (by simp)).2
          rw [expressions, spells_seqAll_cons]
          cases hc : p.isCapturing with
          | false =>
              have htakes := p.takes_regex (n := n) hc hm
              constructor
              · rintro ⟨s, t, c₁, c₂, rfl, rfl, hfirst, hrest⟩
                obtain ⟨⟨k, hk, hs⟩, rfl⟩ := (htakes ..).mp hfirst
                obtain ⟨taken, hfits, rfl⟩ := (ih hparts).mp hrest
                exact ⟨taken, .group hc hk hs hfits, by simp⟩
              · rintro ⟨taken, hfits, rfl⟩
                cases hfits with
                | group _ hk hs ht =>
                    exact ⟨_, _, [], captures n taken, rfl, by simp,
                      (htakes ..).mpr ⟨⟨_, hk, hs⟩, rfl⟩, (ih hparts).mpr ⟨taken, ht, rfl⟩⟩
                | parameter hc' => rw [hc] at hc'; cases hc'
          | true =>
              constructor
              · rintro ⟨s, t, c₁, c₂, rfl, rfl, hfirst, hrest⟩
                obtain ⟨value, hs, rfl⟩ := (p.spells_regex_iff hc hm).mp hfirst
                obtain ⟨taken, hfits, rfl⟩ := (ih hparts).mp hrest
                exact ⟨value :: taken, .parameter hc hs hfits, rfl⟩
              · rintro ⟨taken, hfits, rfl⟩
                cases hfits with
                | group hc' => rw [hc] at hc'; cases hc'
                | parameter _ hs ht =>
                    exact ⟨_, _, _, _, rfl, rfl, (p.spells_regex_iff hc hm).mpr ⟨_, hs, rfl⟩,
                      (ih hparts).mpr ⟨_, ht, rfl⟩⟩

end Template

end RouteMask
