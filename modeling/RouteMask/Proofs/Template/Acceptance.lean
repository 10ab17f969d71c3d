import RouteMask.Matcher
import RouteMask.Proofs.Regex.Capturing
import RouteMask.Proofs.Template.Language
import RouteMask.Proofs.Template.Patterns

/-! # What the matcher of a template accepts

The matcher of a template without patterns of its own searches for the expression of the template.
It accepts the texts that the template stands for, and gives the keys what they take there.

* `Pattern.IsOf.exists_accepts` and `Pattern.IsOf.find?_isSome`: what the search finds and when. -/

namespace RouteMask

/-! ### The shape of the expression -/

theorem isFlat_of_mem_literals {text : Text} {r : Regex} (h : r ∈ literals text) : r.IsFlat := by
  obtain ⟨c, -, rfl⟩ := List.mem_map.mp h
  exact ⟨⟨rfl, rfl⟩, rfl⟩

theorem isFlat_segment : segment.IsFlat :=
  ⟨⟨rfl, rfl⟩, rfl⟩

theorem isReadable_modified (m : Text) {r : Regex} (h : r.IsReadable) :
    (modified m r).IsReadable := by
  unfold modified Regex.star Regex.opt
  split
  · simpa [Regex.IsReadable, Regex.isCharWise, Regex.isNested] using h
  split
  · simpa [Regex.IsReadable, Regex.isCharWise, Regex.isNested] using h
  split
  · exact h
  · exact h

namespace Parameter

variable {r : Regex} {n : Nat} {p : Parameter}

/-- The expression of the values of a parameter whose pattern is read as `r`. -/
def valueWith (r : Regex) (p : Parameter) : Regex :=
  if p.isRepeated then .seq r (.star true (Regex.seqAll (literals (p.trail ++ p.lead) ++ [r]))) else r

theorem isFlat_valueWith (hr : r.IsFlat) (p : Parameter) : (p.valueWith r).IsFlat := by
  unfold valueWith
  split
  · have hgap : (Regex.seqAll (literals (p.trail ++ p.lead) ++ [r])).IsFlat := by
      refine Regex.isFlat_seqAll fun q hq => ?_
      rcases List.mem_append.mp hq with hq | hq
      · exact isFlat_of_mem_literals hq
      · obtain rfl := List.mem_singleton.mp hq
        exact hr
    generalize Regex.seqAll (literals (p.trail ++ p.lead) ++ [r]) = gap at hgap
    obtain ⟨⟨hc, hn⟩, hi⟩ := hgap
    obtain ⟨⟨hc', hn'⟩, hi'⟩ := hr
    simp [Regex.IsFlat, Regex.IsReadable, Regex.star, Regex.opt, Regex.isCharWise, Regex.isNested,
      Regex.indices, hc, hn, hi, hc', hn', hi']
  · exact hr

/-- The expression of a parameter whose pattern is read as `r`, after `n` groups. -/
def expression (n : Nat) (r : Regex) (p : Parameter) : Regex :=
  modified p.outerModifier
    (Regex.seqAll (literals p.lead ++ .group (n + 1) (p.valueWith r) :: literals p.trail))

theorem isReadable_expression (hr : r.IsFlat) : (p.expression n r).IsReadable := by
  refine isReadable_modified _ (Regex.isReadable_seqAll fun q hq => ?_)
  rcases List.mem_append.mp hq with hq | hq
  · exact (isFlat_of_mem_literals hq).1
  rcases List.mem_cons.mp hq with rfl | hq
  · obtain ⟨⟨hc, hn⟩, hi⟩ := isFlat_valueWith hr p
    simp [Regex.IsReadable, Regex.isCharWise, Regex.isNested, hc, hn, hi]
  · exact (isFlat_of_mem_literals hq).1

theorem isReadable_regex (p : Parameter) (n : Nat) : (p.regex n).IsReadable := by
  unfold regex inner
  split
  · exact isReadable_expression isFlat_segment
  · exact isReadable_modified _ (Regex.isReadable_seqAll fun r hr => (isFlat_of_mem_literals hr).1)

end Parameter

namespace Template

open Regex

theorem isReadable_of_mem_expressions {parts : Template} {n : Nat} {r : Regex}
    (h : r ∈ parts.expressions n) : r.IsReadable := by
  induction parts generalizing n with
  | nil => cases h
  | cons part parts ih =>
      cases part with
      | literal text =>
          rcases List.mem_append.mp h with h | h
          · exact (isFlat_of_mem_literals h).1
          · exact ih h
      | parameter p =>
          rcases List.mem_cons.mp h with rfl | h
          · exact p.isReadable_regex n
          · exact ih h

/-- A delimiter that may follow, and the end of the text. -/
theorem spells_ending_iff {before t after : Text} {c : List (Nat × Text)} :
    Spells (seqAll [.opt true (.set delimiterSet), .assert .textEnd]) before t after c ↔
      after = [] ∧ c = [] ∧ (t = [] ∨ ∃ d ∈ usualDelimiter, t = [d]) := by
  have hend : ∀ {x y z : Text} {c : List (Nat × Text)},
      Spells (seqAll [.assert .textEnd]) x y z c ↔ y = [] ∧ z = [] ∧ c = [] := by
    intro x y z c
    constructor
    · intro h
      cases h with
      | assert h => exact ⟨rfl, (Subject.holds_textEnd _ _).mp h, rfl⟩
    · rintro ⟨rfl, rfl, rfl⟩
      exact .assert ((Subject.holds_textEnd x []).mpr rfl)
  rw [spells_seqAll_cons]
  constructor
  · rintro ⟨u, v, c₁, c₂, rfl, rfl, hopt, hlast⟩
    obtain ⟨rfl, rfl, rfl⟩ := hend.mp hlast
    rcases spells_opt_iff.mp hopt with hset | ⟨rfl, rfl⟩
    · obtain ⟨⟨d, rfl, hd⟩, rfl⟩ := (Takes.set _ ..).mp hset
      exact ⟨rfl, rfl, Or.inr ⟨d, has_delimiterSet.mp hd, by simp⟩⟩
    · exact ⟨rfl, rfl, Or.inl rfl⟩
  · rintro ⟨rfl, rfl, ht⟩
    refine ⟨t, [], [], [], by simp, rfl, ?_, hend.mpr ⟨rfl, rfl, rfl⟩⟩
    rcases ht with rfl | ⟨d, hd, rfl⟩
    · exact spells_opt_iff.mpr (Or.inr ⟨rfl, rfl⟩)
    · exact spells_opt_iff.mpr (Or.inl ((Takes.set _ ..).mpr
        ⟨⟨d, rfl, has_delimiterSet.mpr hd⟩, rfl⟩))

/-- Expressions between the anchors, with a delimiter that may follow. -/
def anchored (rs : List Regex) : List Regex :=
  .assert .textStart :: rs ++ [.opt true (.set delimiterSet), .assert .textEnd]

/-- Between the anchors expressions spell what they spell elsewhere, apart from a delimiter at the end,
and nothing follows. -/
theorem spells_anchored_iff {rs : List Regex} {P : Text → List (Nat × Text) → Prop}
    (hrs : ∀ before s after c, Spells (seqAll rs) before s after c ↔ P s c) {url after : Text}
    {c : List (Nat × Text)} :
    Spells (seqAll (anchored rs)) [] url after c ↔
      after = [] ∧ ∃ body, P body c ∧ (url = body ∨ ∃ d ∈ usualDelimiter, url = body ++ [d]) := by
  rw [anchored, List.cons_append, spells_seqAll_cons]
  constructor
  · rintro ⟨x, y, c₁, c₂, rfl, rfl, hstart, hrest⟩
    cases hstart with
    | assert _ =>
        obtain ⟨s, t, c₃, c₄, rfl, rfl, hs, ht⟩ := spells_seqAll_append.mp hrest
        obtain ⟨rfl, rfl, htail⟩ := spells_ending_iff.mp ht
        refine ⟨rfl, s, by simpa using (hrs ..).mp hs, ?_⟩
        rcases htail with rfl | ⟨d, hd, rfl⟩
        · exact Or.inl (by simp)
        · exact Or.inr ⟨d, hd, by simp⟩
  · rintro ⟨rfl, s, hs, hurl⟩
    obtain ⟨t, rfl, htail⟩ : ∃ t, url = s ++ t ∧ (t = [] ∨ ∃ d ∈ usualDelimiter, t = [d]) := by
      rcases hurl with rfl | ⟨d, hd, rfl⟩
      · exact ⟨[], by simp, Or.inl rfl⟩
      · exact ⟨[d], rfl, Or.inr ⟨d, hd, rfl⟩⟩
    refine ⟨[], s ++ t, [], c, rfl, by simp, ?_, ?_⟩
    · exact .assert ((Subject.holds_textStart [] _).mpr rfl)
    · refine spells_seqAll_append.mpr ⟨s, t, c, [], rfl, rfl, (hrs ..).mpr hs, ?_⟩
      exact spells_ending_iff.mpr ⟨rfl, rfl, htail⟩

theorem isReadable_anchored {rs : List Regex} (h : ∀ r ∈ rs, r.IsReadable) :
    (seqAll (anchored rs)).IsReadable := by
  refine isReadable_seqAll fun r hr => ?_
  rcases List.mem_append.mp hr with hr | hr
  · rcases List.mem_cons.mp hr with rfl | hr
    · exact ⟨rfl, rfl⟩
    · exact h r hr
  · rcases List.mem_cons.mp hr with rfl | hr
    · exact ⟨rfl, rfl⟩
    · obtain rfl := List.mem_singleton.mp hr
      exact ⟨rfl, rfl⟩

end Template

/-! ### Searching -/

/-- What is taken from a text, or from a text with a delimiter more at the end. -/
def Accepted (P : Text → List (Option Text) → Prop) (url : Text) (taken : List (Option Text)) : Prop :=
  ∃ body, P body taken ∧ (url = body ∨ ∃ c ∈ Template.usualDelimiter, url = body ++ [c])

namespace Pattern

/-- The pattern searches, between the anchors, for texts from which the groups take what `P` says. -/
structure Recognises (p : Pattern) (P : Text → List (Option Text) → Prop) : Prop where
  exists_program : ∃ rs, p.program = (Regex.seqAll (Template.anchored rs)).assemble ∧
    (∀ r ∈ rs, r.IsReadable) ∧ ∀ before s after c,
      Regex.Spells (Regex.seqAll rs) before s after c ↔
        ∃ taken, P s taken ∧ c = Template.captures 0 taken
  length_eq : ∀ s taken, P s taken → taken.length = p.groups

variable {p : Pattern} {P : Text → List (Option Text) → Prop} {url : Text}

/-- What is found is the whole text, and the groups have what they take. -/
theorem Recognises.exists_accepted (h : p.Recognises P) {groups : List (Option Text)}
    (hfind : p.find? url = some groups) :
    ∃ taken, Accepted P url taken ∧ groups = some url :: taken := by
  obtain ⟨rs, hprogram, hreadable, hrs⟩ := h.exists_program
  obtain ⟨hc, hn⟩ := Template.isReadable_anchored hreadable
  obtain ⟨piece, after, c, rfl, hspells, rfl⟩ :=
    find?_sound hprogram hc hn (fun i j saved hm => Regex.eq_zero_of_matches hm) hfind
  obtain ⟨rfl, body, ⟨taken, htaken, rfl⟩, hurl⟩ := (Template.spells_anchored_iff hrs).mp hspells
  rw [List.append_nil]
  refine ⟨taken, ⟨body, htaken, hurl⟩, ?_⟩
  rw [Template.groupTexts_captures (h.length_eq body taken htaken)]

/-- What is accepted is found. -/
theorem Recognises.find?_isSome (h : p.Recognises P) {taken : List (Option Text)}
    (haccepted : Accepted P url taken) : (p.find? url).isSome = true := by
  obtain ⟨rs, hprogram, -, hrs⟩ := h.exists_program
  obtain ⟨body, htaken, hurl⟩ := haccepted
  have hspells : Regex.Spells _ [] url [] _ :=
    (Template.spells_anchored_iff hrs).mpr ⟨rfl, body, ⟨taken, htaken, rfl⟩, hurl⟩
  simpa using Pattern.find?_isSome hprogram hspells

end Pattern

/-- The pattern searches for the expression of a template. -/
structure Pattern.IsOf (p : Pattern) (parts : Template) : Prop where
  program : p.program = (Regex.seqAll parts.wholeExpressions).assemble
  groups : p.groups = parts.keys.length

namespace Pattern

variable {p : Pattern} {parts : Template} {url : Text}

theorem isOf_of_compile {source : Text} (hp : parts.IsPlain)
    (hs : parts.source? .default = .ok source) (h : Pattern.compile source = .ok p) :
    p.IsOf parts := by
  unfold Pattern.compile at h
  rw [Template.read_source hp hs] at h
  cases h
  exact ⟨rfl, rfl⟩

/-- The pattern of a template without patterns of its own searches for the texts that it fits. -/
theorem IsOf.recognises (h : p.IsOf parts) (hp : parts.IsPlain) : p.Recognises parts.Fits where
  exists_program := ⟨parts.expressions 0, h.program,
    fun _ hr => Template.isReadable_of_mem_expressions hr,
    fun _ _ _ _ => Template.spells_expressions_iff hp⟩
  length_eq _ _ hfits := hfits.length_eq.trans h.groups.symm

/-- What is found is the whole text, and the groups have what the keys take. -/
theorem IsOf.exists_accepts (h : p.IsOf parts) (hp : parts.IsPlain) {groups : List (Option Text)}
    (hfind : p.find? url = some groups) :
    ∃ taken, parts.Accepts url taken ∧ groups = some url :: taken :=
  (h.recognises hp).exists_accepted hfind

/-- What is accepted is found. -/
theorem IsOf.find?_isSome (h : p.IsOf parts) (hp : parts.IsPlain) {taken : List (Option Text)}
    (haccepts : parts.Accepts url taken) : (p.find? url).isSome = true :=
  (h.recognises hp).find?_isSome haccepts

end Pattern

/-! ### Matching -/

namespace Matcher

variable {decode : Text → Text} {template : Text} {m : Matcher}

theorem ofTemplate_eq_ok (h : Matcher.ofTemplate decode template = .ok m) :
    ∃ parts source,
      Template.read Template.usualLeads Template.usualDelimiter template = .ok parts ∧
      parts.source? .default = .ok source ∧ Pattern.compile source = .ok m.pattern ∧
      m.keys = parts.keys ∧ m.decode = decode := by
  obtain ⟨parts, hread, h⟩ := exists_of_bind_eq_ok h
  obtain ⟨source, hsource, h⟩ := exists_of_bind_eq_ok h
  obtain ⟨pattern, hpattern, h⟩ := exists_of_bind_eq_ok h
  cases h
  exact ⟨parts, source, eq_ok_of_mapError hread, eq_ok_of_mapError hsource,
    eq_ok_of_mapError hpattern, rfl, rfl⟩

theorem ofTemplate_of_compile {parts : Template} {source : Text} {p : Pattern}
    (hread : Template.read Template.usualLeads Template.usualDelimiter template = .ok parts)
    (hsource : parts.source? .default = .ok source) (hp : Pattern.compile source = .ok p)
    (decode : Text → Text) : Matcher.ofTemplate decode template = .ok ⟨p, parts.keys, decode⟩ := by
  unfold ofTemplate
  dsimp only
  rw [hread]
  dsimp only [Except.mapError, bind, Except.bind]
  rw [hsource]
  dsimp only
  rw [hp]

/-- With a group for each key no key is without its group. -/
theorem exists_collect (decode : Text → Text) {keys : List Parameter} {groups : List (Option Text)}
    (h : keys.length ≤ groups.length) (params : Params) :
    ∃ params', collect decode keys groups params = .ok params' := by
  induction keys generalizing groups params with
  | nil => exact ⟨params, by unfold collect; rfl⟩
  | cons key keys ih =>
      cases groups with
      | nil => cases h
      | cons value groups =>
          have hlen : keys.length ≤ groups.length := Nat.le_of_succ_le_succ h
          cases value with
          | none => exact ih hlen params
          | some text => exact ih hlen _

section

variable {parts : Template} {url : Text}

/-- A text that is accepted in one way only gives the parameters that are taken in this way. -/
theorem apply_of_accepts (hpattern : m.pattern.IsOf parts) (hp : parts.IsPlain)
    {taken : List (Option Text)} (haccepts : parts.Accepts url taken)
    (hunique : ∀ other, parts.Accepts url other → other = taken) :
    m.apply url = (collect m.decode m.keys taken []).map some := by
  obtain ⟨groups, hfind⟩ := Option.isSome_iff_exists.mp (hpattern.find?_isSome hp haccepts)
  obtain ⟨other, hother, rfl⟩ := hpattern.exists_accepts hp hfind
  unfold apply
  rw [hfind, hunique other hother]
  rfl

/-- A text that is not accepted is not matched. -/
theorem apply_of_not_accepts (hpattern : m.pattern.IsOf parts) (hp : parts.IsPlain)
    (hrefused : ∀ taken, ¬ parts.Accepts url taken) : m.apply url = .ok none := by
  unfold apply
  cases hfind : m.pattern.find? url with
  | none => rfl
  | some groups =>
      obtain ⟨taken, haccepts, -⟩ := hpattern.exists_accepts hp hfind
      exact absurd haccepts (hrefused taken)

end

/-- Whose pattern searches for texts, with a group for each key, accepts these texts and gives the keys
what the groups take of them. -/
theorem apply_of_recognises {P : Text → List (Option Text) → Prop} (h : m.pattern.Recognises P)
    (hkeys : m.keys.length = m.pattern.groups) (url : Text) :
    ((∃ params, m.apply url = .ok (some params)) ↔ ∃ taken, Accepted P url taken) ∧
      (∀ params, m.apply url = .ok (some params) →
        ∃ taken, Accepted P url taken ∧ collect m.decode m.keys taken [] = .ok params) ∧
      ∀ e, m.apply url ≠ .error e := by
  cases hfind : m.pattern.find? url with
  | none =>
      have happly : m.apply url = .ok none := by rw [apply, hfind]
      have hrefused : ∀ taken, ¬ Accepted P url taken := by
        intro taken htaken
        have := h.find?_isSome htaken
        rw [hfind] at this
        cases this
      simp [happly, hrefused]
  | some groups =>
      obtain ⟨taken, haccepted, rfl⟩ := h.exists_accepted hfind
      obtain ⟨body, htaken, -⟩ := id haccepted
      have hlength : taken.length = m.keys.length := (h.length_eq body taken htaken).trans hkeys.symm
      obtain ⟨params, hcollect⟩ := exists_collect m.decode hlength.ge []
      have happly : m.apply url = .ok (some params) := by
        rw [apply, hfind]
        exact congrArg (Except.map some) hcollect
      rw [happly]
      refine ⟨⟨fun _ => ⟨taken, haccepted⟩, fun _ => ⟨params, rfl⟩⟩, fun params' h => ?_, fun e h => ?_⟩
      · cases h
        exact ⟨taken, haccepted, hcollect⟩
      · cases h

/-- A template without patterns of its own is matched by the texts that it stands for. -/
theorem apply_iff_fits {lexemes : List Lexeme} (hscan : Lexeme.scan template = .ok lexemes)
    (hplain : ∀ l ∈ lexemes, l.kind ≠ .pattern)
    (hm : Matcher.ofTemplate decode template = .ok m) :
    ∃ parts,
      Template.read Template.usualLeads Template.usualDelimiter template = .ok parts ∧
      m.keys = parts.keys ∧
      ∀ url,
        ((∃ params, m.apply url = .ok (some params)) ↔ ∃ taken, parts.Accepts url taken) ∧
        (∀ params, m.apply url = .ok (some params) →
          ∃ taken, parts.Accepts url taken ∧ m.pattern.find? url = some (some url :: taken) ∧
            collect decode parts.keys taken [] = .ok params) ∧
        ∀ e, m.apply url ≠ .error e := by
  obtain ⟨parts, source, hread, hsource, hcompile, hkeys, rfl⟩ := ofTemplate_eq_ok hm
  have hp := Template.isPlain_of_read hscan hplain hread
  have hof := Pattern.isOf_of_compile hp hsource hcompile
  refine ⟨parts, hread, hkeys, fun url => ?_⟩
  cases hfind : m.pattern.find? url with
  | none =>
      have happly : m.apply url = .ok none := by rw [apply, hfind]
      rw [happly]
      refine ⟨⟨?_, ?_⟩, ?_, ?_⟩
      · rintro ⟨params, h⟩
        cases h
      · rintro ⟨taken, h⟩
        have := hof.find?_isSome hp h
        rw [hfind] at this
        cases this
      · intro params h
        cases h
      · intro e h
        cases h
  | some groups =>
      obtain ⟨taken, haccepts, rfl⟩ := hof.exists_accepts hp hfind
      obtain ⟨body, hfits, -⟩ := id haccepts
      obtain ⟨params, hcollect⟩ := exists_collect m.decode hfits.length_eq.ge []
      have happly : m.apply url = .ok (some params) := by
        rw [apply, hfind, hkeys]
        exact congrArg (Except.map some) hcollect
      rw [happly]
      refine ⟨⟨fun _ => ⟨taken, haccepts⟩, fun _ => ⟨params, rfl⟩⟩, ?_, ?_⟩
      · intro params' h
        cases h
        exact ⟨taken, haccepts, rfl, hcollect⟩
      · intro e h
        cases h

/-- What is known of texts is known of URLs as they come in. -/
theorem applyRaw_of_apply {α : Type} {P : Text → α → Prop} {Q : Text → α → Params → Prop}
    (url : RawText)
    (h : ∀ text : Text, url = text →
      ((∃ params, m.apply text = .ok (some params)) ↔ ∃ taken, P text taken) ∧
        ∀ params, m.apply text = .ok (some params) → ∃ taken, Q text taken params) :
    ((∃ params, m.applyRaw url = .ok (some params)) ↔
        ∃ (text : Text) (taken : α), url = text ∧ P text taken) ∧
      ∀ params, m.applyRaw url = .ok (some params) →
        ∃ (text : Text) (taken : α), url = text ∧ Q text taken params := by
  refine ⟨⟨?_, ?_⟩, ?_⟩
  · rintro ⟨params, happly⟩
    obtain ⟨text, htext, happly⟩ := applyRaw_eq_ok_iff.mp happly
    obtain ⟨taken, htaken⟩ := (h text htext).1.mp ⟨params, happly⟩
    exact ⟨text, taken, htext, htaken⟩
  · rintro ⟨text, taken, htext, htaken⟩
    obtain ⟨params, happly⟩ := (h text htext).1.mpr ⟨taken, htaken⟩
    exact ⟨params, applyRaw_eq_ok_iff.mpr ⟨text, htext, happly⟩⟩
  · intro params happly
    obtain ⟨text, htext, happly⟩ := applyRaw_eq_ok_iff.mp happly
    obtain ⟨taken, htaken⟩ := (h text htext).2 params happly
    exact ⟨text, taken, htext, htaken⟩

/-- A template without patterns of its own is matched by the URLs that it stands for: its matcher
accepts a URL when this is a text that the template fits, apart from a delimiter at the end, and then
there is such a fit in which the keys take what the groups have captured.  It fails for URLs that hold a
surrogate, and for no other. -/
theorem accepts_iff_fits {lexemes : List Lexeme} (hscan : Lexeme.scan template = .ok lexemes)
    (hplain : ∀ l ∈ lexemes, l.kind ≠ .pattern)
    (hm : Matcher.ofTemplate decode template = .ok m) :
    ∃ parts,
      Template.read Template.usualLeads Template.usualDelimiter template = .ok parts ∧
      m.keys = parts.keys ∧
      ∀ url : RawText,
        ((∃ params, m.applyRaw url = .ok (some params)) ↔
          ∃ (text : Text) (taken : List (Option Text)), url = text ∧ parts.Accepts text taken) ∧
        (∀ params, m.applyRaw url = .ok (some params) →
          ∃ (text : Text) (taken : List (Option Text)), url = text ∧ parts.Accepts text taken ∧
            m.pattern.find? text = some (some text :: taken) ∧
            collect decode parts.keys taken [] = .ok params) ∧
        ∀ e, m.applyRaw url = .error e ↔ ∃ cause, e = .encoding cause ∧ url.toText = .error cause := by
  obtain ⟨parts, hread, hkeys, h⟩ := apply_iff_fits hscan hplain hm
  refine ⟨parts, hread, hkeys, fun url => ?_⟩
  obtain ⟨haccepts, hparams⟩ := applyRaw_of_apply url fun text _ => ⟨(h text).1, (h text).2.1⟩
  exact ⟨haccepts, hparams, fun e => applyRaw_eq_error_iff fun text => (h text).2.2⟩

/-- One parameter in a path, with a delimiter more at the end of the URL. -/
theorem accepts_iff_fits_segment :
    ∃ m, Matcher.ofTemplate id "/:a".toList = .ok m ∧
      ∃ params, m.applyRaw ("/xy/".toList : Text) = .ok (some params) := by
  have hscan : Lexeme.scan "/:a".toList =
      .ok [⟨.char, 0, ['/']⟩, ⟨.name, 1, ['a']⟩, ⟨.finish, 3, []⟩] := by decide
  obtain ⟨m, hm⟩ : ∃ m, Matcher.ofTemplate id "/:a".toList = .ok m := ⟨_, rfl⟩
  obtain ⟨parts, hread, -, h⟩ := accepts_iff_fits hscan (by decide) hm
  refine ⟨m, hm, (h _).1.mpr ?_⟩
  have hparts : parts =
      [.parameter ⟨['a'], ['/'], [], Template.segmentPattern Template.usualDelimiter, []⟩] :=
    (Except.ok.inj hread).symm
  have hslash : SameFold ['/'] ['/'] := .cons (Unicode.mem_orbit _) .nil
  have hvalue : IsSegment ['x', 'y'] := ⟨by decide, by decide⟩
  refine ⟨"/xy/".toList, [some ['x', 'y']], rfl, "/xy".toList, ?_, Or.inr ⟨'/', by decide, rfl⟩⟩
  rw [hparts]
  exact .parameter (s := "/xy".toList) (t := []) rfl
    (.single (a := ['/']) (b := []) rfl hslash hvalue .nil) .nil

/-- A surrogate is no delimiter, and still no URL is accepted that has it for a segment. -/
theorem not_accepts_surrogate :
    let segment : RawText := [.surrogate 0]
    ∃ lexemes m p, Lexeme.scan "/:a".toList = .ok lexemes ∧ (∀ l ∈ lexemes, l.kind ≠ .pattern) ∧
      Matcher.ofTemplate id "/:a".toList = .ok m ∧
      Template.read Template.usualLeads Template.usualDelimiter "/:a".toList = .ok [.parameter p] ∧
      p.isRepeated = false ∧ p.modifier = [] ∧
      segment ≠ [] ∧ (∀ d ∈ Template.usualDelimiter, .char d ∉ segment) ∧
      ∀ params, m.applyRaw (.ofText p.lead ++ segment ++ .ofText p.trail) ≠ .ok (some params) := by
  intro segment
  have hscan : Lexeme.scan "/:a".toList =
      .ok [⟨.char, 0, ['/']⟩, ⟨.name, 1, ['a']⟩, ⟨.finish, 3, []⟩] := by decide
  obtain ⟨m, hm⟩ : ∃ m, Matcher.ofTemplate id "/:a".toList = .ok m := ⟨_, rfl⟩
  refine ⟨_, m, ⟨['a'], ['/'], [], Template.segmentPattern Template.usualDelimiter, []⟩, hscan,
    by decide, hm, rfl, rfl, rfl, by decide, by decide, ?_⟩
  intro params h
  obtain ⟨text, htext, -⟩ := applyRaw_eq_ok_iff.mp h
  cases RawText.toText_eq_ok_iff.mpr htext

end Matcher

end RouteMask
