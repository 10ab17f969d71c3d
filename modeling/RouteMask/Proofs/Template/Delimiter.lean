import RouteMask.Proofs.Regex.Capturing
import RouteMask.Proofs.Template.Language

/-! # Delimiters in classes

A delimiter is written between brackets with a backslash before each special character.  A dash is not
special, so that between two other characters it makes a range of them (`Template.spans`).

* `Regex.read_bracket`: a class is read as the ranges of its text, if these go upwards.
* `Template.tests_delimiter_iff`: the classes of a delimiter test for its characters just when its ranges
  stand for them. -/

namespace RouteMask

open Regex (Flags)

namespace Template

/-- The ranges that a text is read as between brackets.  Other characters are ranges of one. -/
def spans : Text → List (Char × Char)
  | lo :: '-' :: hi :: rest => (lo, hi) :: spans rest
  | c :: rest => (c, c) :: spans rest
  | [] => []

/-- The code points that count as the character. -/
def variants (ignoreCase : Bool) (c : Char) : List Nat :=
  if ignoreCase then Unicode.orbit c.toNat else [c.toNat]

/-- The character is in the text. -/
def Occurs (ignoreCase : Bool) (d : Text) (c : Char) : Prop :=
  ∃ x ∈ d, x.toNat ∈ variants ignoreCase c

/-- The character is in the range. -/
def IsWithin (ignoreCase : Bool) (r : Char × Char) (c : Char) : Prop :=
  ∃ n ∈ variants ignoreCase c, r.1.toNat ≤ n ∧ n ≤ r.2.toNat

/-- The ranges go upwards. -/
def IsOrdered (d : Text) : Prop :=
  ∀ r ∈ spans d, r.1.toNat ≤ r.2.toNat

instance (d : Text) : Decidable (IsOrdered d) :=
  inferInstanceAs (Decidable (∀ r ∈ spans d, r.1.toNat ≤ r.2.toNat))

/-- The ranges of a text stand for its characters: they go upwards, what is in them is in the text, and a
dash that is in the text is in one of them. -/
structure IsSpelledOut (ignoreCase : Bool) (d : Text) : Prop where
  isOrdered : IsOrdered d
  occurs : ∀ r ∈ spans d, ∀ c, IsWithin ignoreCase r c → Occurs ignoreCase d c
  dash : '-' ∈ d → ∃ r ∈ spans d, r.1.toNat ≤ '-'.toNat ∧ '-'.toNat ≤ r.2.toNat

theorem mem_variants (ignoreCase : Bool) (c : Char) : c.toNat ∈ variants ignoreCase c := by
  cases ignoreCase with
  | true => exact Unicode.mem_orbit _
  | false => exact List.mem_singleton_self _

/-- A dash has no other case. -/
theorem eq_of_mem_variants_dash {ignoreCase : Bool} {n : Nat} (h : n ∈ variants ignoreCase '-') :
    n = '-'.toNat := by
  cases ignoreCase with
  | true => exact (Unicode.eq_of_mem_orbit h (.inl (by decide))).symm
  | false => exact List.mem_singleton.mp h

theorem spans_single {c : Char} {rest : Text} (h : ∀ hi more, rest ≠ '-' :: hi :: more) :
    spans (c :: rest) = (c, c) :: spans rest := by
  rw [spans]
  exact h

theorem isOrdered_range {lo hi : Char} {rest : Text} :
    IsOrdered (lo :: '-' :: hi :: rest) ↔ lo.toNat ≤ hi.toNat ∧ IsOrdered rest := by
  rw [IsOrdered, spans, List.forall_mem_cons]
  rfl

theorem isOrdered_single {c : Char} {rest : Text} (h : ∀ hi more, rest ≠ '-' :: hi :: more) :
    IsOrdered (c :: rest) ↔ IsOrdered rest := by
  rw [IsOrdered, spans_single h, List.forall_mem_cons]
  exact and_iff_right (Nat.le_refl _)

/-- A character that is in no range stands between the ends of one. -/
theorem exists_mem_spans {d : Text} {x : Char} (h : x ∈ d) :
    x = '-' ∨ ∃ r ∈ spans d, x = r.1 ∨ x = r.2 := by
  fun_induction spans d with
  | case1 lo hi rest ih =>
      simp only [List.mem_cons] at h
      rcases h with rfl | rfl | rfl | h
      · exact .inr ⟨_, List.mem_cons_self, .inl rfl⟩
      · exact .inl rfl
      · exact .inr ⟨_, List.mem_cons_self, .inr rfl⟩
      · exact (ih h).imp_right fun ⟨r, hr, hx⟩ => ⟨r, List.mem_cons_of_mem _ hr, hx⟩
  | case2 c rest hdash ih =>
      rcases List.mem_cons.mp h with rfl | h
      · exact .inr ⟨_, List.mem_cons_self, .inl rfl⟩
      · exact (ih h).imp_right fun ⟨r, hr, hx⟩ => ⟨r, List.mem_cons_of_mem _ hr, hx⟩
  | case3 => exact absurd h (List.not_mem_nil)

/-- The ranges stand for the characters just when they have the same characters in them. -/
theorem isSpelledOut_iff {ignoreCase : Bool} {d : Text} : IsSpelledOut ignoreCase d ↔
    IsOrdered d ∧ ∀ c, (∃ r ∈ spans d, IsWithin ignoreCase r c) ↔ Occurs ignoreCase d c := by
  constructor
  · intro h
    refine ⟨h.isOrdered, fun c => ⟨fun ⟨r, hr, hc⟩ => h.occurs r hr c hc, ?_⟩⟩
    rintro ⟨x, hx, hxc⟩
    rcases exists_mem_spans hx with rfl | ⟨r, hr, rfl | rfl⟩
    · obtain ⟨r, hr, hlo, hhi⟩ := h.dash hx
      exact ⟨r, hr, _, hxc, hlo, hhi⟩
    · exact ⟨r, hr, _, hxc, Nat.le_refl _, h.isOrdered r hr⟩
    · exact ⟨r, hr, _, hxc, h.isOrdered r hr, Nat.le_refl _⟩
  · rintro ⟨hordered, hsame⟩
    refine ⟨hordered, fun r hr c hc => (hsame c).mp ⟨r, hr, hc⟩, fun hdash => ?_⟩
    obtain ⟨r, hr, n, hn, hlo, hhi⟩ := (hsame '-').mpr ⟨'-', hdash, mem_variants ignoreCase '-'⟩
    obtain rfl := eq_of_mem_variants_dash hn
    exact ⟨r, hr, hlo, hhi⟩

/-- Without a dash the ranges are the characters. -/
theorem isSpelledOut_of_not_mem {d : Text} (h : '-' ∉ d) (ignoreCase : Bool) :
    IsSpelledOut ignoreCase d := by
  have hspans : spans d = d.map fun c => (c, c) := by
    fun_induction spans d with
    | case1 lo hi rest _ => simp at h
    | case2 c rest _ ih => rw [List.map_cons, ih fun hmem => h (List.mem_cons_of_mem c hmem)]
    | case3 => rfl
  refine ⟨?_, ?_, fun hdash => absurd hdash h⟩
  · rw [IsOrdered, hspans, List.forall_mem_map]
    exact fun c _ => Nat.le_refl _
  · rw [hspans, List.forall_mem_map]
    rintro x hx c ⟨n, hn, hlo, hhi⟩
    obtain rfl := Nat.le_antisymm hlo hhi
    exact ⟨x, hx, hn⟩

end Template

namespace Regex

open Template (escape specialChars spans spans_single variants IsOrdered IsSpelledOut IsWithin Occurs
  isOrdered_range isOrdered_single isSpelledOut_iff)

/-! ### Reading a class -/

/-- One range of a class. -/
def spanSet (ignoreCase : Bool) (r : Char × Char) : CharSet :=
  .closed ignoreCase (.ranges [(r.1.toNat, r.2.toNat)])

/-- The ranges of a class, joined to `acc`. -/
def joinSpans (ignoreCase : Bool) (acc : CharSet) (rs : List (Char × Char)) : CharSet :=
  rs.foldl (fun acc r => .union acc (spanSet ignoreCase r)) acc

variable {ignoreCase : Bool} {c : Char}

theorem escape_eq_append (c : Char) (s : Text) : escape (c :: s) = escape [c] ++ escape s := by
  simp [escape]

theorem escape_of_mem (hc : c ∈ specialChars) : escape [c] = ['\\', c] := by
  simp [escape, hc]

theorem escape_of_not_mem (hc : c ∉ specialChars) : escape [c] = [c] := by
  simp [escape, hc]

theorem escape_dash : escape ['-'] = ['-'] :=
  escape_of_not_mem (by decide)

/-- What is written for a character begins with none of the special characters but the backslash. -/
theorem exists_escape_eq_cons (c : Char) : ∃ x s, escape [c] = x :: s ∧ (x = '\\' ∨ x = c) ∧
    ∀ d ∈ specialChars, d ≠ '\\' → x ≠ d := by
  by_cases hc : c ∈ specialChars
  · exact ⟨'\\', [c], escape_of_mem hc, .inl rfl, fun d _ hd => hd.symm⟩
  · exact ⟨c, [], escape_of_not_mem hc, .inr rfl, fun d hd _ heq => hc (heq ▸ hd)⟩

theorem toOption_readMember_escape (c : Char) (rest : Text) :
    (readMember [] (escape [c] ++ rest)).toOption = some (c.toNat, rest) := by
  by_cases hc : c ∈ specialChars
  · have hesc := Reader.escapable_of_mem_specialChars c hc
    rw [escape_of_mem hc, List.cons_append, readMember]
    exact congrArg Except.toOption (Reader.readEscape_of_escapable hesc _ rest)
  · rw [escape_of_not_mem hc, List.cons_append, readMember]
    · rfl
    · rintro rfl
      exact hc (by decide)

theorem toOption_readItem_escape (ignoreCase : Bool) (c : Char) (rest : Text) :
    (readItem ignoreCase [] (escape [c] ++ rest)).toOption =
      (rangeEnd c.toNat rest).map fun (range, rest) =>
        (.closed ignoreCase (.ranges [range]), rest) := by
  have hrange : (readRangeSet ignoreCase [] (escape [c] ++ rest)).toOption =
      (rangeEnd c.toNat rest).map fun (range, rest) =>
        (.closed ignoreCase (.ranges [range]), rest) := by
    rw [toOption_readRangeSet, toOption_readMember_escape]
    rfl
  rw [← hrange]
  by_cases hc : c ∈ specialChars
  · have hesc := Reader.escapable_of_mem_specialChars c hc
    have hclass : ¬((c = 'p' ∨ c = 'P') ∧ rest ≠ []) := by
      rintro ⟨rfl | rfl, -⟩
      · exact absurd hc (by decide)
      · exact absurd hc (by decide)
    rw [escape_of_mem hc, List.cons_append, List.cons_append, List.nil_append,
      toOption_readItem_backslash, if_neg hclass, Reader.shorthand?_of_escapable hesc]
  · have hne : ∀ d ∈ specialChars, c ≠ d := fun d hd heq => hc (heq ▸ hd)
    rw [escape_of_not_mem hc, readItem_of_ne]
    · exact fun body heq => hne '[' (by decide) (List.cons.inj heq).1
    · exact fun d body heq => hne '\\' (by decide) (List.cons.inj heq).1

/-- A dash and the character behind it end a range. -/
theorem rangeEnd_dash (lo : Nat) (hi : Char) (rest : Text) :
    rangeEnd lo ('-' :: (escape [hi] ++ rest)) =
      if hi.toNat < lo then none else some ((lo, hi.toNat), rest) := by
  obtain ⟨x, s, hx, -, hspecial⟩ := exists_escape_eq_cons hi
  have hmember := toOption_readMember_escape hi rest
  rw [hx, List.cons_append] at hmember ⊢
  rw [rangeEnd, if_neg (hspecial ']' (by decide) (by decide)), hmember]
  rfl

/-- A character without a dash and another character behind it is no range. -/
theorem rangeEnd_single (lo : Nat) {d : Text} (hd : ∀ hi rest, d ≠ '-' :: hi :: rest) (more : Text) :
    rangeEnd lo (escape d ++ ']' :: more) = some ((lo, lo), escape d ++ ']' :: more) := by
  rcases d with _ | ⟨c, d⟩
  · exact rangeEnd_of_ne fun _ _ heq => absurd (List.cons.inj heq).1 (by decide)
  · by_cases hc : c = '-'
    · subst hc
      rcases d with _ | ⟨hi, d⟩
      · rfl
      · exact absurd rfl (hd hi d)
    · obtain ⟨x, s, hx, hhead, -⟩ := exists_escape_eq_cons c
      refine rangeEnd_of_ne fun _ _ heq => ?_
      rw [escape_eq_append, hx] at heq
      obtain rfl := (List.cons.inj heq).1
      rcases hhead with hdash | hdash
      · exact absurd hdash (by decide)
      · exact hc hdash.symm

theorem toOption_readItems_escape_cons {fuel : Nat} {first : Bool} {acc : CharSet} (c : Char)
    (rest : Text) :
    (readItems ignoreCase [] (fuel + 1) first acc (escape [c] ++ rest)).toOption =
      (rangeEnd c.toNat rest).bind fun (range, rest) =>
        (readItems ignoreCase [] fuel false
          (.union acc (.closed ignoreCase (.ranges [range]))) rest).toOption := by
  obtain ⟨x, s, hx, -, hspecial⟩ := exists_escape_eq_cons c
  have hitem := toOption_readItem_escape ignoreCase c rest
  rw [hx, List.cons_append] at hitem ⊢
  rw [toOption_readItems_cons, if_neg fun h => hspecial ']' (by decide) (by decide) h.1, hitem]
  cases rangeEnd c.toNat rest <;> rfl

theorem length_escape_pos (c : Char) : 0 < (escape [c]).length := by
  obtain ⟨x, s, hx, -⟩ := exists_escape_eq_cons c
  simp [hx]

/-- A class is read as the ranges of its text if they go upwards, and is refused otherwise. -/
theorem toOption_readItems_escape {fuel : Nat} {first : Bool} {acc : CharSet} {d : Text}
    (hfuel : (escape d).length < fuel) (hfirst : d ≠ [] ∨ first = false) (more : Text) :
    (readItems ignoreCase [] fuel first acc (escape d ++ ']' :: more)).toOption =
      if IsOrdered d then some (joinSpans ignoreCase acc (spans d), more) else none := by
  obtain ⟨fuel, rfl⟩ : ∃ n, fuel = n + 1 := ⟨fuel - 1, by omega⟩
  -- One item is read for each range, and the accumulated set grows by it.
  fun_induction spans d generalizing fuel first acc with
  | case1 lo hi rest ih =>
      have htext : escape (lo :: '-' :: hi :: rest) =
          escape [lo] ++ '-' :: (escape [hi] ++ escape rest) := by
        rw [escape_eq_append, escape_eq_append '-', escape_eq_append hi, escape_dash]
        rfl
      rw [htext, List.length_append, List.length_cons, List.length_append] at hfuel
      obtain ⟨fuel, rfl⟩ : ∃ n, fuel = n + 1 := ⟨fuel - 1, by omega⟩
      rw [htext, List.append_assoc, List.cons_append, List.append_assoc,
        toOption_readItems_escape_cons, rangeEnd_dash]
      by_cases horder : hi.toNat < lo.toNat
      · rw [if_pos horder, if_neg fun h => absurd (isOrdered_range.mp h).1 (by omega)]
        rfl
      · rw [if_neg horder, Option.bind_some]
        dsimp only
        rw [ih (.inr rfl) fuel (by omega)]
        simp only [isOrdered_range, and_iff_right (Nat.le_of_not_lt horder)]
        rfl
  | case2 c rest hdash ih =>
      rw [escape_eq_append, List.length_append] at hfuel
      have hpos := length_escape_pos c
      obtain ⟨fuel, rfl⟩ : ∃ n, fuel = n + 1 := ⟨fuel - 1, by omega⟩
      rw [escape_eq_append, List.append_assoc, toOption_readItems_escape_cons,
        rangeEnd_single _ hdash, Option.bind_some]
      dsimp only
      rw [ih (.inr rfl) fuel (by omega)]
      simp only [isOrdered_single hdash]
      rfl
  | case3 =>
      obtain hfirst : first = false := hfirst.resolve_left (by simp)
      rw [hfirst]
      rfl

/-- The class of a text, or of what is not in it. -/
def bracket (negated : Bool) (d : Text) : Text :=
  '[' :: (if negated then ['^'] else []) ++ escape d ++ [']']

/-- The set of a class. -/
def bracketSet (ignoreCase negated : Bool) (d : Text) : CharSet :=
  let members := joinSpans ignoreCase .none (spans d)
  if negated then .compl members else members

theorem toOption_readItems_class (whole : Text) {d : Text} (hd : d ≠ []) (rest : Text) :
    (readItems ignoreCase whole ((escape d ++ ']' :: rest).length + 1) true .none
        (escape d ++ ']' :: rest)).toOption =
      if IsOrdered d then some (joinSpans ignoreCase .none (spans d), rest) else none := by
  rw [toOption_readItems _ _ [], toOption_readItems_escape _ (.inl hd)]
  rw [List.length_append]
  omega

theorem read_bracket (flags : Flags) (negated : Bool) {d : Text} (hd : d ≠ []) (rest : Text) :
    Construct.read flags (bracket negated d ++ rest) =
      if IsOrdered d then some (.piece (.set (bracketSet flags.ignoreCase negated d)), rest)
      else none := by
  have hread : Construct.read flags (bracket negated d ++ rest) =
      (readBracket flags.ignoreCase
        ((if negated then ['^'] else []) ++ (escape d ++ ']' :: rest))).toOption.map
          fun p => (.piece (.set p.1), p.2) := by
    simp only [bracket, List.cons_append, List.append_assoc, List.nil_append]
    rfl
  rw [hread]
  cases negated with
  | true =>
      simp only [if_true, List.cons_append, List.nil_append, readBracket, toOption_bind]
      rw [toOption_readItems_class _ hd]
      split <;> rfl
  | false =>
      have hcaret : ∀ items, escape d ++ ']' :: rest ≠ '^' :: items := by
        intro items heq
        obtain ⟨c, d, rfl⟩ := List.exists_cons_of_ne_nil hd
        obtain ⟨x, s, hx, -, hspecial⟩ := exists_escape_eq_cons c
        rw [escape_eq_append, hx] at heq
        exact hspecial '^' (by decide) (by decide) (List.cons.inj heq).1
      rw [if_neg (by decide), List.nil_append, readBracket]
      · rw [toOption_readItems_class _ hd]
        split <;> rfl
      · exact hcaret

/-! ### Single characters -/

/-- The source is an expression, and a text of one character matches it just when the character is of
that kind. -/
def Tests (source : Text) (P : Char → Prop) : Prop :=
  ∃ reading, read source = .ok reading ∧ ∀ c, reading.regex.matchesWhole [c] = true ↔ P c

theorem matchesWhole_set (s : CharSet) (c : Char) :
    (Regex.set s).matchesWhole [c] = true ↔ s.has c.toNat = true := by
  rw [(Takes.set s).matchesWhole_iff ⟨rfl, rfl⟩]
  simp

theorem matchesWhole_plus_set (greedy : Bool) (s : CharSet) (c : Char) :
    (Regex.plus greedy (.set s)).matchesWhole [c] = true ↔ s.has c.toNat = true := by
  rw [(Takes.set s).plus.matchesWhole_iff ⟨rfl, rfl⟩]
  simp [copies_char_iff]

theorem has_joinSpans {acc : CharSet} {rs : List (Char × Char)} {c : Char} :
    (joinSpans ignoreCase acc rs).has c.toNat = true ↔
      acc.has c.toNat = true ∨ ∃ r ∈ rs, IsWithin ignoreCase r c := by
  induction rs generalizing acc with
  | nil => simp [joinSpans]
  | cons r rs ih =>
      have hspan : (spanSet ignoreCase r).has c.toNat = true ↔ IsWithin ignoreCase r c := by
        cases ignoreCase <;> simp [spanSet, CharSet.closed, IsWithin, variants, Unicode.Ranges.has_iff]
      have hcons : joinSpans ignoreCase acc (r :: rs) =
          joinSpans ignoreCase (.union acc (spanSet ignoreCase r)) rs := rfl
      rw [hcons, ih, CharSet.has_union, Bool.or_eq_true, hspan, or_assoc]
      simp

theorem has_bracketSet {negated : Bool} {d : Text} {c : Char} :
    (bracketSet ignoreCase negated d).has c.toNat = true ↔
      ((∃ r ∈ spans d, IsWithin ignoreCase r c) ↔ negated = false) := by
  have hmembers : (joinSpans ignoreCase .none (spans d)).has c.toNat = true ↔
      ∃ r ∈ spans d, IsWithin ignoreCase r c := by
    simp [has_joinSpans]
  rw [← hmembers]
  cases negated with
  | true => simp [bracketSet]
  | false => simp [bracketSet]

/-! ### Whole expressions -/

/-- The text in front of an expression that is to be read without regard to case. -/
def caseMark (ignoreCase : Bool) : Text :=
  if ignoreCase then "(?i)".toList else []

theorem reaches_caseMark (ignoreCase : Bool) (text : Text) :
    Reader.Reaches (.start, caseMark ignoreCase ++ text)
      ({ Reader.start with flags := ⟨ignoreCase, false, false, false⟩ }, text) := by
  cases ignoreCase with
  | true => exact reaches_caseless text
  | false => exact .refl

/-- A class with what is written behind it tests for the characters of its text just when these are
spelled out. -/
theorem tests_bracket_iff (ignoreCase negated : Bool) {d : Text} (hd : d ≠ []) (behind : Text)
    (f : CharSet → Regex)
    (hyields : ∀ {flags : Flags} {s : CharSet}, flags.swapGreed = false →
      Reader.Atom flags 0 (bracket negated d) (.set s) 0 →
        Reader.Yields flags 0 (bracket negated d ++ behind) [f s] 0)
    (hmatches : ∀ s c, (f s).matchesWhole [c] = true ↔ s.has c.toNat = true) :
    Tests (caseMark ignoreCase ++ (bracket negated d ++ behind))
        (fun c => Occurs ignoreCase d c ↔ negated = false) ↔
      IsSpelledOut ignoreCase d := by
  rw [isSpelledOut_iff]
  have hstart := reaches_caseMark ignoreCase (bracket negated d ++ behind)
  by_cases hordered : IsOrdered d
  · have hatom : Reader.Atom ⟨ignoreCase, false, false, false⟩ 0 (bracket negated d)
        (.set (bracketSet ignoreCase negated d)) 0 :=
      .of_read fun rest => by rw [read_bracket _ _ hd, if_pos hordered]
    have hread := read_of_reaches hstart (hyields rfl hatom)
    constructor
    · rintro ⟨reading, hreading, htests⟩
      obtain rfl := Except.ok.inj (hread.symm.trans hreading)
      refine ⟨hordered, fun c => ?_⟩
      have htest := htests c
      rw [seqAll, hmatches, has_bracketSet] at htest
      cases negated with
      | true =>
          simp only [Bool.true_eq_false, iff_false] at htest
          exact not_iff_not.mp htest
      | false =>
          simp only [iff_true] at htest
          exact htest
    · rintro ⟨-, hsame⟩
      refine ⟨_, hread, fun c => ?_⟩
      rw [seqAll, hmatches, has_bracketSet, hsame]
  · refine iff_of_false ?_ fun h => hordered h.1
    rintro ⟨reading, hreading, -⟩
    refine read_ne_ok hstart (by simp [bracket]) ?_ reading hreading
    rw [read_bracket _ _ hd, if_neg hordered]

end Regex

namespace Template

open Regex (Tests bracket caseMark)

theorem segmentPattern_eq (d : Text) : segmentPattern d = bracket true d ++ "+?".toList := by
  simp [segmentPattern, bracket]

theorem tests_segmentPattern_iff (ignoreCase : Bool) {d : Text} (hd : d ≠ []) :
    Tests (caseMark ignoreCase ++ segmentPattern d) (fun c => ¬Occurs ignoreCase d c) ↔
      IsSpelledOut ignoreCase d := by
  have h := Regex.tests_bracket_iff ignoreCase true hd "+?".toList (fun s => .plus false (.set s))
    (fun {flags _} hgreed hatom => by
      have hplus := hatom.repeated_turned '+' 1 none (fun _ => rfl) (by decide) (by decide)
      rwa [hgreed] at hplus)
    (Regex.matchesWhole_plus_set false)
  rw [segmentPattern_eq]
  simpa using h

theorem tests_trailing_iff (ignoreCase : Bool) {d : Text} (hd : d ≠ []) :
    Tests (caseMark ignoreCase ++ bracket false d) (fun c => Occurs ignoreCase d c) ↔
      IsSpelledOut ignoreCase d := by
  have h := Regex.tests_bracket_iff ignoreCase false hd [] (fun s => .set s)
    (fun _ hatom => by
      rw [List.append_nil]
      exact hatom.yields)
    Regex.matchesWhole_set
  simpa using h

theorem source?_nil (ignoreCase : Bool) (d : Text) :
    source? ⟨d, false, !ignoreCase⟩ [] =
      .ok (caseMark ignoreCase ++ '^' :: (bracket false d ++ "?$".toList)) := by
  cases ignoreCase <;>
    simp [source?, caseMark, bracket, bind, Except.bind, pure, Except.pure]

/-- The pattern of a parameter excludes the characters of a delimiter, and the class at the end has them in
it, just when the delimiter is spelled out.  A delimiter without a dash is. -/
theorem tests_delimiter_iff (ignoreCase : Bool) {d : Text} (hd : d ≠ []) :
    (∀ leads, read leads d ":a".toList = .ok [.parameter ⟨['a'], [], [], segmentPattern d, []⟩]) ∧
    source? ⟨d, false, !ignoreCase⟩ [] =
      .ok (caseMark ignoreCase ++ '^' :: (bracket false d ++ "?$".toList)) ∧
    (Tests (caseMark ignoreCase ++ segmentPattern d) (fun c => ¬Occurs ignoreCase d c) ↔
      IsSpelledOut ignoreCase d) ∧
    (Tests (caseMark ignoreCase ++ bracket false d) (fun c => Occurs ignoreCase d c) ↔
      IsSpelledOut ignoreCase d) ∧
    ('-' ∉ d → IsSpelledOut ignoreCase d) :=
  ⟨fun _ => rfl, source?_nil ignoreCase d, tests_segmentPattern_iff ignoreCase hd,
    tests_trailing_iff ignoreCase hd, fun h => isSpelledOut_of_not_mem h ignoreCase⟩

/-- A dash between two letters excludes the letters between them, or makes a class that is refused. -/
theorem tests_delimiter_iff_dash :
    let upwards := "a-z".toList
    let downwards := "z-a".toList
    upwards ≠ [] ∧ downwards ≠ [] ∧
      segmentPattern upwards = "[^a-z]+?".toList ∧ bracket false downwards = "[z-a]".toList ∧
      ¬Occurs true upwards 'm' ∧
      ¬Tests (caseMark true ++ segmentPattern upwards) (fun c => ¬Occurs true upwards c) ∧
      ¬Tests (caseMark true ++ bracket false downwards) (fun c => Occurs true downwards c) := by
  intro upwards downwards
  have hupwards : upwards ≠ [] := by decide
  have hdownwards : downwards ≠ [] := by decide
  have hmiddle : ¬Occurs true upwards 'm' := by
    rintro ⟨x, hx, hxm⟩
    revert x
    decide
  refine ⟨hupwards, hdownwards, by decide, by decide, hmiddle, fun h => hmiddle ?_, fun h => ?_⟩
  · have hspelled := (tests_delimiter_iff true hupwards).2.2.1.mp h
    exact hspelled.occurs ('a', 'z') (by decide) 'm' ⟨'m'.toNat, mem_variants true 'm', by decide⟩
  · have hspelled := (tests_delimiter_iff true hdownwards).2.2.2.1.mp h
    exact absurd hspelled.isOrdered (by decide)

end Template

end RouteMask
