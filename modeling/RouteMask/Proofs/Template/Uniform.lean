import RouteMask.Proofs.Template.Acceptance

/-! # Templates with one pattern

The parameters of a template may have a pattern of their own.  Where it is the same one for all of them,
and each captures once (`Template.IsUniform`), the template stands for the texts that are put together
from its literals and from texts that the pattern takes (`Template.FitsBy`).  Its matcher accepts these
texts and gives each key the text that was put in for it (`Template.exists_matcher_of_isUniform`). -/

namespace RouteMask

open Regex (Takes Spells seqAll)
open Regex.Reader

/-- The pattern is read as the expression `r` wherever it stands, in any case, and takes the texts of
the set. -/
structure Denotes (pattern : Text) (r : Regex) (L : Text → Prop) : Prop where
  ne_nil : pattern ≠ []
  head?_ne : pattern.head? ≠ some '?'
  yields : ∀ n, Yields .caseless n pattern [r] n
  isFlat : r.IsFlat
  takes : Takes r L

/-- Every parameter captures one text, with the given pattern. -/
def Template.IsUniform (pattern : Text) (parts : Template) : Prop :=
  ∀ p, .parameter p ∈ parts → p.pattern = pattern ∧ p.modifier = []

/-- The text is put together from the literals and from one text of the set for each parameter. -/
inductive Template.FitsBy (L : Text → Prop) : Template → Text → List Text → Prop where
  | nil : FitsBy L [] [] []
  | literal {text s t : Text} {parts : Template} {values : List Text} :
      SameFold text s → FitsBy L parts t values → FitsBy L (.literal text :: parts) (s ++ t) values
  | parameter {p : Parameter} {a v b t : Text} {parts : Template} {values : List Text} :
      SameFold p.lead a → L v → SameFold p.trail b → FitsBy L parts t values →
      FitsBy L (.parameter p :: parts) (a ++ v ++ b ++ t) (v :: values)

variable {pattern : Text} {r : Regex} {L : Text → Prop} {n : Nat}

/-! ### Parameters -/

namespace Parameter

variable {p : Parameter} {src : Text}

theorem isCapturing_of_pattern (h : Denotes pattern r L) (hp : p.pattern = pattern) :
    p.isCapturing = true := by
  simp [isCapturing, hp, h.ne_nil]

theorem isRepeated_of_modifier (hm : p.modifier = []) : p.isRepeated = false := by
  simp [isRepeated, hm]

theorem expression_eq (hm : p.modifier = []) :
    p.expression n r = seqAll (literals p.lead ++ .group (n + 1) r :: literals p.trail) := by
  have hsingle := isRepeated_of_modifier hm
  have houter : p.outerModifier = [] := by simp [outerModifier, hsingle, hm]
  rw [expression, houter, valueWith, hsingle]
  rfl

theorem exists_parameterSource (h : Denotes pattern r L) (hp : p.pattern = pattern)
    (hm : p.modifier = []) : ∃ src, Template.parameterSource p = .ok src := by
  have hsingle := isRepeated_of_modifier hm
  unfold Template.parameterSource
  rw [isCapturing_of_pattern h hp, hsingle]
  cases p.lead.isEmpty && p.trail.isEmpty with
  | true => exact ⟨_, rfl⟩
  | false => exact ⟨_, rfl⟩

/-- The source of a parameter is read as its expression. -/
theorem yields_expression (h : Denotes pattern r L) (hp : p.pattern = pattern)
    (hm : p.modifier = []) (hsrc : Template.parameterSource p = .ok src) :
    Yields .caseless n src [p.expression n r] (n + 1) ∧ src.head? ≠ some '?' := by
  subst hp
  have houter : p.outerModifier = [] := by
    simp [outerModifier, isRepeated_of_modifier hm, hm]
  have hyields := yields_of_pattern (n := n) (h.yields (n + 1)) h.head?_ne (Or.inl hm)
    (isCapturing_of_pattern h rfl) (isRepeated_of_modifier hm) hsrc
  rw [houter] at hyields
  rw [expression_eq hm]
  exact hyields

end Parameter

/-! ### Templates -/

namespace Template

variable {parts : Template}

/-- The expressions of the parts, after `n` groups. -/
def uniformExpressions (r : Regex) : (n : Nat) → Template → List Regex
  | _, [] => []
  | n, .literal text :: parts => literals text ++ uniformExpressions r n parts
  | n, .parameter p :: parts => p.expression n r :: uniformExpressions r (n + 1) parts

theorem IsUniform.tail {part : Part} (h : IsUniform pattern (part :: parts)) :
    IsUniform pattern parts :=
  fun p hp => h p (List.mem_cons_of_mem part hp)

theorem keys_cons_of_isUniform {p : Parameter} (h : Denotes pattern r L)
    (hparts : IsUniform pattern (.parameter p :: parts)) :
    keys (.parameter p :: parts) = p :: keys parts := by
  have hp := hparts p List.mem_cons_self
  rw [keys_parameter, if_pos (Parameter.isCapturing_of_pattern h hp.1)]

theorem mem_of_mem_keys {p : Parameter} (h : p ∈ parts.keys) : .parameter p ∈ parts := by
  obtain ⟨part, hpart, hkey⟩ := List.mem_filterMap.mp h
  cases part with
  | literal text => cases hkey
  | parameter q =>
      dsimp only at hkey
      split at hkey
      · cases hkey
        exact hpart
      · cases hkey

theorem exists_source_of_isUniform (h : Denotes pattern r L) (hparts : parts.IsUniform pattern) :
    ∃ source, parts.source? .default = .ok source := by
  refine exists_source fun part hpart => ?_
  cases part with
  | literal text => exact ⟨_, rfl⟩
  | parameter p =>
      obtain ⟨hp, hm⟩ := hparts p hpart
      exact Parameter.exists_parameterSource h hp hm

theorem isReadable_of_mem_uniformExpressions (h : Denotes pattern r L) {q : Regex}
    (hq : q ∈ uniformExpressions r n parts) : q.IsReadable := by
  induction parts generalizing n with
  | nil => cases hq
  | cons part parts ih =>
      cases part with
      | literal text =>
          rcases List.mem_append.mp hq with hq | hq
          · exact (isFlat_of_mem_literals hq).1
          · exact ih hq
      | parameter p =>
          rcases List.mem_cons.mp hq with rfl | hq
          · exact Parameter.isReadable_expression h.isFlat
          · exact ih hq

/-- The sources of the parts are read as their expressions. -/
theorem yields_uniform (h : Denotes pattern r L) (hparts : parts.IsUniform pattern)
    {srcs : List Text} (hsrcs : parts.mapM partSource = .ok srcs) :
    Yields .caseless n srcs.flatten (uniformExpressions r n parts) (n + parts.keys.length) ∧
      srcs.flatten.head? ≠ some '?' := by
  have hhead : ∀ {x y : Text}, x.head? ≠ some '?' → y.head? ≠ some '?' →
      (x ++ y).head? ≠ some '?' := by
    intro x y hx hy
    cases x with
    | nil => exact hy
    | cons c x => exact hx
  induction parts generalizing srcs n with
  | nil =>
      cases hsrcs
      exact ⟨.nil, by simp⟩
  | cons part parts ih =>
      obtain ⟨src, srcs, hsrc, hrest, rfl⟩ := mapM_cons_eq_ok hsrcs
      cases part with
      | literal text =>
          cases hsrc
          obtain ⟨hyields, hne⟩ := ih (n := n) hparts.tail hrest
          exact ⟨(Yields.escape text).append hyields hne, hhead (head?_escape text) hne⟩
      | parameter p =>
          obtain ⟨hp, hm⟩ := hparts p List.mem_cons_self
          obtain ⟨hfirst, hne⟩ := Parameter.yields_expression (n := n) h hp hm hsrc
          obtain ⟨hyields, hne'⟩ := ih (n := n + 1) hparts.tail hrest
          have hcount : n + (keys (.parameter p :: parts)).length =
              n + 1 + (keys parts).length := by
            rw [keys_cons_of_isUniform h hparts, List.length_cons]
            omega
          rw [hcount]
          exact ⟨hfirst.append hyields hne', hhead hne hne'⟩

/-- The expressions of the parts spell the texts that fit, and capture what was put in. -/
theorem spells_uniformExpressions_iff (h : Denotes pattern r L) (hparts : parts.IsUniform pattern)
    {before s after : Text} {c : List (Nat × Text)} :
    Spells (seqAll (uniformExpressions r n parts)) before s after c ↔
      ∃ values, parts.FitsBy L s values ∧ c = captures n (values.map some) := by
  induction parts generalizing n before s c with
  | nil =>
      rw [uniformExpressions, seqAll, Regex.spells_empty_iff]
      constructor
      · rintro ⟨rfl, rfl⟩
        exact ⟨[], .nil, rfl⟩
      · rintro ⟨values, hfits, rfl⟩
        cases hfits
        exact ⟨rfl, rfl⟩
  | cons part parts ih =>
      cases part with
      | literal text =>
          rw [uniformExpressions, Regex.spells_seqAll_append]
          constructor
          · rintro ⟨s, t, c₁, c₂, rfl, rfl, hfirst, hrest⟩
            obtain ⟨hs, rfl⟩ := (takes_literals text ..).mp hfirst
            obtain ⟨values, hfits, rfl⟩ := (ih hparts.tail).mp hrest
            exact ⟨values, .literal hs hfits, by simp⟩
          · rintro ⟨values, hfits, rfl⟩
            cases hfits with
            | literal hs ht =>
                exact ⟨_, _, [], _, rfl, (List.append_nil _).symm,
                  (takes_literals text ..).mpr ⟨hs, rfl⟩, (ih hparts.tail).mpr ⟨values, ht, rfl⟩⟩
      | parameter p =>
          obtain ⟨-, hm⟩ := hparts p List.mem_cons_self
          rw [uniformExpressions, Regex.spells_seqAll_cons, Parameter.expression_eq hm]
          constructor
          · rintro ⟨s, t, c₁, c₂, rfl, rfl, hfirst, hrest⟩
            obtain ⟨a, v, b, rfl, ha, hv, hb, rfl⟩ :=
              (Parameter.spells_around_iff h.takes p.lead p.trail).mp hfirst
            obtain ⟨values, hfits, rfl⟩ := (ih hparts.tail).mp hrest
            exact ⟨v :: values, .parameter ha hv hb hfits, rfl⟩
          · rintro ⟨values, hfits, rfl⟩
            cases hfits with
            | parameter ha hv hb ht =>
                exact ⟨_, _, _, _, rfl, rfl,
                  (Parameter.spells_around_iff h.takes p.lead p.trail).mpr
                    ⟨_, _, _, rfl, ha, hv, hb, rfl⟩,
                  (ih hparts.tail).mpr ⟨_, ht, rfl⟩⟩

theorem FitsBy.length_eq (h : Denotes pattern r L) (hparts : parts.IsUniform pattern) {s : Text}
    {values : List Text} (hfits : parts.FitsBy L s values) :
    values.length = parts.keys.length := by
  induction hfits with
  | nil => rfl
  | literal _ _ ih => exact ih hparts.tail
  | parameter _ _ _ _ ih =>
      rw [keys_cons_of_isUniform h hparts, List.length_cons, List.length_cons, ih hparts.tail]

/-- A template whose parameters all have the same pattern can be compiled, and its matcher searches for
the texts that it stands for. -/
theorem exists_matcher_of_isUniform (h : Denotes pattern r L) {template : Text}
    (hread : Template.read usualLeads usualDelimiter template = .ok parts)
    (hparts : parts.IsUniform pattern) (decode : Text → Text) :
    ∃ m, Matcher.ofTemplate decode template = .ok m ∧ m.keys = parts.keys ∧ m.decode = decode ∧
      m.pattern.groups = parts.keys.length ∧
      m.pattern.Recognises fun s taken => ∃ values, parts.FitsBy L s values ∧ taken = values.map some := by
  obtain ⟨source, hsource⟩ := exists_source_of_isUniform h hparts
  obtain ⟨srcs, hsrcs, htext⟩ := source_eq hsource
  obtain ⟨hbody, hne⟩ := yields_uniform (n := 0) h hparts hsrcs
  rw [Nat.zero_add] at hbody
  have hall := (yields_start.append hbody hne).append yields_ending (by decide)
  have hregex : Regex.read source =
      .ok ⟨seqAll (anchored (uniformExpressions r 0 parts)), parts.keys.length, []⟩ := by
    rw [htext]
    exact Regex.read_of_yields (by simpa [anchored] using hall)
  have hcompile : Pattern.compile source = .ok ⟨source, parts.keys.length, [],
      (seqAll (anchored (uniformExpressions r 0 parts))).assemble⟩ := by
    unfold Pattern.compile
    rw [hregex]
    rfl
  refine ⟨_, Matcher.ofTemplate_of_compile hread hsource hcompile decode, rfl, rfl, rfl, ?_, ?_⟩
  · refine ⟨_, rfl, fun q hq => isReadable_of_mem_uniformExpressions h hq, fun before s after c => ?_⟩
    rw [spells_uniformExpressions_iff h hparts]
    constructor
    · rintro ⟨values, hfits, rfl⟩
      exact ⟨_, ⟨values, hfits, rfl⟩, rfl⟩
    · rintro ⟨taken, ⟨values, hfits, rfl⟩, rfl⟩
      exact ⟨values, hfits, rfl⟩
  · rintro s taken ⟨values, hfits, rfl⟩
    rw [List.length_map]
    exact hfits.length_eq h hparts

end Template

end RouteMask
