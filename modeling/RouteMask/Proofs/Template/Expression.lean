import RouteMask.Proofs.Regex.Fragment
import RouteMask.Template.Reader

/-! # The expression of a template

A template without patterns of its own (`Template.IsPlain`) is written as a regular expression whose
syntax is known: `Template.expressions` lists the expressions that its parts are read as.

* `Template.read_source`: what is written is read back, with one group for each key. -/

namespace RouteMask

open Regex (Flags)

/-- The modifiers that a template can have. -/
def IsModifier (m : Text) : Prop :=
  m = [] ∨ m = ['?'] ∨ m = ['*'] ∨ m = ['+']

/-- An expression behind which a modifier is written. -/
def modified (m : Text) (r : Regex) : Regex :=
  if m = ['?'] then .opt true r
  else if m = ['*'] then .star true r
  else if m = ['+'] then .plus true r
  else r

/-- The expressions of a text that stands for itself, in any case. -/
def literals (text : Text) : List Regex :=
  text.map fun c => .set (.single true c.toNat)

@[simp] theorem literals_append (s t : Text) : literals (s ++ t) = literals s ++ literals t := by
  simp [literals]

/-- The characters of a delimiter, in any case. -/
def delimiterSet : CharSet :=
  .union (.union (.union .none (.closed true (.ranges [(47, 47)])))
    (.closed true (.ranges [(35, 35)]))) (.closed true (.ranges [(63, 63)]))

/-- The expression of a segment. -/
def segment : Regex :=
  .plus false (.set (.compl delimiterSet))

namespace Parameter

/-- The expression of what a parameter captures. -/
def valueRegex (p : Parameter) : Regex :=
  if p.isRepeated then
    .seq segment (.star true (Regex.seqAll (literals (p.trail ++ p.lead) ++ [segment])))
  else segment

/-- The modifier that is written behind the expression of a parameter.  A parameter that captures
repeats its value, not its expression. -/
def outerModifier (p : Parameter) : Text :=
  if p.isCapturing && p.isRepeated then if p.modifier = ['*'] then ['?'] else [] else p.modifier

/-- The expressions of a parameter without its modifier, after `n` groups. -/
def inner (n : Nat) (p : Parameter) : List Regex :=
  if p.isCapturing then literals p.lead ++ .group (n + 1) p.valueRegex :: literals p.trail
  else literals (p.lead ++ p.trail)

/-- The expression of a parameter, after `n` groups. -/
def regex (n : Nat) (p : Parameter) : Regex :=
  modified p.outerModifier (Regex.seqAll (p.inner n))

/-- A parameter without pattern of its own. -/
def IsPlain (p : Parameter) : Prop :=
  (p.pattern = [] ∨ p.pattern = Template.segmentPattern Template.usualDelimiter) ∧
    IsModifier p.modifier

end Parameter

namespace Template

/-- A template without patterns of its own. -/
def IsPlain (parts : Template) : Prop :=
  ∀ p, .parameter p ∈ parts → p.IsPlain

/-- The expressions of the parts of a template, after `n` groups. -/
def expressions : (n : Nat) → Template → List Regex
  | _, [] => []
  | n, .literal text :: parts => literals text ++ expressions n parts
  | n, .parameter p :: parts =>
    p.regex n :: expressions (if p.isCapturing then n + 1 else n) parts

end Template

namespace Regex.Reader

/-! ### Fragments of the source -/

theorem ne_of_escapable {c d : Char} (hc : escapable c = true) (hd : escapable d = false) : c ≠ d := by
  rintro rfl
  rw [hc] at hd
  cases hd

theorem shorthand?_of_escapable {c : Char} (hesc : escapable c = true) :
    CharSet.shorthand? c = none := by
  unfold CharSet.shorthand?
  split
  · exact absurd rfl (ne_of_escapable hesc (d := 'd') (by decide))
  · exact absurd rfl (ne_of_escapable hesc (d := 'D') (by decide))
  · exact absurd rfl (ne_of_escapable hesc (d := 's') (by decide))
  · exact absurd rfl (ne_of_escapable hesc (d := 'S') (by decide))
  · exact absurd rfl (ne_of_escapable hesc (d := 'w') (by decide))
  · exact absurd rfl (ne_of_escapable hesc (d := 'W') (by decide))
  · rfl

theorem readEscape_of_escapable {c : Char} (hesc : escapable c = true) (start rest : Text) :
    readEscape start (c :: rest) = .ok (c.toNat, rest) := by
  unfold readEscape
  split
  · next h => cases h
  · next h => exact absurd (List.cons.inj h).1 (ne_of_escapable hesc (by decide))
  · next h =>
      obtain ⟨rfl, rfl⟩ := List.cons.inj h
      rw [if_pos hesc]

theorem readBackslash_of_escapable (flags : Flags) {c : Char} (hesc : escapable c = true)
    (rest : Text) :
    Construct.readBackslash flags (c :: rest) =
      some (.piece (.set (.single flags.ignoreCase c.toNat)), rest) := by
  have hne : ∀ d, escapable d = false → c ≠ d := fun d hd => ne_of_escapable hesc hd
  rw [Construct.readBackslash]
  · simp only [List.head?_cons, Option.bind_some, shorthand?_of_escapable hesc,
      readEscape_of_escapable hesc]
    rfl
  · exact fun _ h => hne 'b' (by decide) (List.cons.inj h).1
  · exact fun _ h => hne 'B' (by decide) (List.cons.inj h).1
  · exact fun _ h => hne 'A' (by decide) (List.cons.inj h).1
  · exact fun _ h => hne 'z' (by decide) (List.cons.inj h).1
  · exact fun _ h => hne 'C' (by decide) (List.cons.inj h).1
  · exact fun _ h => hne 'Q' (by decide) (List.cons.inj h).1
  · exact fun _ h => hne 'p' (by decide) (List.cons.inj h).1
  · exact fun _ h => hne 'P' (by decide) (List.cons.inj h).1

theorem escapable_of_mem_specialChars : ∀ c ∈ Template.specialChars, escapable c = true := by
  decide

/-- A special character behind a backslash stands for itself. -/
theorem Atom.escaped {flags : Flags} {n : Nat} {c : Char} (hc : c ∈ Template.specialChars) :
    Atom flags n ['\\', c] (.set (.single flags.ignoreCase c.toNat)) n :=
  .of_read fun rest => readBackslash_of_escapable flags (escapable_of_mem_specialChars c hc) rest

theorem operators_subset_specialChars :
    ∀ c ∈ Construct.operators, c ∈ Template.specialChars := by
  decide

theorem escape_cons (c : Char) (text : Text) :
    Template.escape (c :: text) =
      (if c ∈ Template.specialChars then ['\\', c] else [c]) ++ Template.escape text := rfl

theorem head?_escape (text : Text) : (Template.escape text).head? ≠ some '?' := by
  cases text with
  | nil => simp [Template.escape]
  | cons c text =>
      rw [escape_cons]
      split
      · simp
      · next hc =>
          intro h
          obtain rfl : c = '?' := by simpa using h
          exact hc (by decide)

theorem Yields.escape {n : Nat} (text : Text) :
    Yields .caseless n (Template.escape text) (literals text) n := by
  induction text with
  | nil => exact .nil
  | cons c text ih =>
      have hchar : Yields .caseless n (if c ∈ Template.specialChars then ['\\', c] else [c])
          [.set (.single true c.toNat)] n := by
        split
        · next hc => exact (Atom.escaped hc).yields
        · next hc =>
            have hop : c ∉ Construct.operators := fun h => hc (operators_subset_specialChars c h)
            exact (Atom.char hop).yields
      exact hchar.append ih (head?_escape text)

/-- A modifier behind an atom. -/
theorem Atom.modified {n m : Nat} {text modifier : Text} {r : Regex}
    (h : Atom .caseless n text r m) (hm : IsModifier modifier) :
    Yields .caseless n (text ++ modifier) [modified modifier r] m := by
  rcases hm with rfl | rfl | rfl | rfl
  · simpa [RouteMask.modified] using h.yields
  · exact h.repeated '?' 0 (some 1) (fun _ => rfl) (by decide) (by decide)
  · exact h.repeated '*' 0 none (fun _ => rfl) (by decide) (by decide)
  · exact h.repeated '+' 1 none (fun _ => rfl) (by decide) (by decide)

theorem Yields.segmentPattern {n : Nat} :
    Yields .caseless n (Template.segmentPattern Template.usualDelimiter) [segment] n := by
  have hset : Atom .caseless n "[^\\/#\\?]".toList (.set (.compl delimiterSet)) n :=
    .of_read fun rest => rfl
  exact hset.repeated_turned '+' 1 none (fun _ => rfl) (by decide) (by decide)

/-- A segment that is repeated, each time behind `gap`. -/
theorem Yields.segments {n : Nat} (gap : Text) :
    Yields .caseless n
      ("(?:".toList ++ Template.segmentPattern Template.usualDelimiter ++ ")(?:".toList ++
        Template.escape gap ++ "(?:".toList ++
        Template.segmentPattern Template.usualDelimiter ++ "))*".toList)
      [segment, .star true (seqAll (literals gap ++ [segment]))] n := by
  have hseg : Atom .caseless n
      ('(' :: '?' :: ':' :: Template.segmentPattern Template.usualDelimiter ++ [')']) segment n :=
    Yields.segmentPattern.enclosed
  have hgap := ((Yields.escape (n := n) gap).append hseg.yields (by simp)).enclosed
  have hstar : Yields .caseless n _ [.star true (seqAll (literals gap ++ [segment]))] n :=
    hgap.repeated '*' 0 none (fun _ => rfl) (by decide) (by decide)
  have hboth := hseg.yields.append hstar (by simp)
  simpa using hboth

end Regex.Reader

namespace Parameter

open Regex.Reader

variable {p : Parameter} {src : Text} {n : Nat}

/-- A literal group. -/
theorem yields_of_not_capturing (hp : p.IsPlain) (hc : p.isCapturing = false)
    (h : Template.parameterSource p = .ok src) :
    Yields .caseless n src [p.regex n] n ∧ src.head? ≠ some '?' := by
  have hsrc : "(?:".toList ++ Template.escape p.lead ++ Template.escape p.trail ++
      ')' :: p.modifier = src := by
    simpa [Template.parameterSource, hc] using h
  have hinner : p.inner n = literals p.lead ++ literals p.trail := by simp [inner, hc]
  have houter : p.outerModifier = p.modifier := by simp [outerModifier, hc]
  have hbody := (Yields.escape (n := n) p.lead).append (Yields.escape p.trail)
    (head?_escape p.trail)
  have hmod := hbody.enclosed.modified hp.2
  rw [regex, hinner, houter, ← hsrc]
  exact ⟨by simpa using hmod, by simp⟩

/-- The text around what a parameter captures. -/
theorem yields_around {value : Text} {r : Regex}
    (h : Atom .caseless n ('(' :: value ++ [')']) r (n + 1)) (lead trail : Text) :
    Atom .caseless n
      ("(?:".toList ++ Template.escape lead ++ '(' :: value ++ ')' :: Template.escape trail ++ [')'])
      (Regex.seqAll (literals lead ++ r :: literals trail)) (n + 1) := by
  have hleft := (Yields.escape (n := n) lead).append h.yields (by simp)
  have hboth := hleft.append (Yields.escape (n := n + 1) trail) (head?_escape trail)
  simpa using hboth.enclosed

/-- A parameter that takes one value, with a pattern that is read as `r`. -/
theorem yields_of_pattern {r : Regex} (hr : Yields .caseless (n + 1) p.pattern [r] (n + 1))
    (hhead : p.pattern.head? ≠ some '?') (hm : IsModifier p.modifier) (hc : p.isCapturing = true)
    (hsingle : p.isRepeated = false) (h : Template.parameterSource p = .ok src) :
    Yields .caseless n src
        [modified p.outerModifier
          (Regex.seqAll (literals p.lead ++ .group (n + 1) r :: literals p.trail))] (n + 1) ∧
      src.head? ≠ some '?' := by
  have houter : p.outerModifier = p.modifier := by simp [outerModifier, hsingle]
  have hgroup : Atom .caseless n ('(' :: p.pattern ++ [')']) (.group (n + 1) r) (n + 1) :=
    hr.captured hhead
  rw [houter]
  by_cases hempty : p.lead = [] ∧ p.trail = []
  · have hsrc : '(' :: p.pattern ++ ')' :: p.modifier = src := by
      simpa [Template.parameterSource, hc, hsingle, hempty.1, hempty.2] using h
    have hmod := hgroup.modified hm
    rw [← hsrc, hempty.1, hempty.2]
    exact ⟨by simpa [Regex.seqAll, literals] using hmod, by simp⟩
  · have hsrc : "(?:".toList ++ Template.escape p.lead ++ '(' :: p.pattern ++ ')' ::
        Template.escape p.trail ++ ')' :: p.modifier = src := by
      simpa [Template.parameterSource, hc, hsingle, hempty] using h
    have hmod := (yields_around hgroup p.lead p.trail).modified hm
    rw [← hsrc]
    exact ⟨by simpa using hmod, by simp⟩

/-- A parameter that takes one segment. -/
theorem yields_of_single (hp : p.pattern = Template.segmentPattern Template.usualDelimiter)
    (hm : IsModifier p.modifier) (hc : p.isCapturing = true) (hr : p.isRepeated = false)
    (h : Template.parameterSource p = .ok src) :
    Yields .caseless n src [p.regex n] (n + 1) ∧ src.head? ≠ some '?' := by
  have hinner : p.inner n = literals p.lead ++ .group (n + 1) segment :: literals p.trail := by
    simp [inner, hc, valueRegex, hr]
  have hsegment : Yields .caseless (n + 1) p.pattern [segment] (n + 1) := by
    rw [hp]
    exact Yields.segmentPattern
  have hhead : p.pattern.head? ≠ some '?' := by
    rw [hp]
    decide
  rw [regex, hinner]
  exact yields_of_pattern hsegment hhead hm hc hr h

/-- A parameter that takes several values. -/
theorem yields_of_repeated (hp : p.pattern = Template.segmentPattern Template.usualDelimiter)
    (hc : p.isCapturing = true) (hr : p.isRepeated = true)
    (h : Template.parameterSource p = .ok src) :
    Yields .caseless n src [p.regex n] (n + 1) ∧ src.head? ≠ some '?' := by
  have hinner : p.inner n = literals p.lead ++ .group (n + 1) p.valueRegex :: literals p.trail := by
    simp [inner, hc]
  have houter : p.outerModifier = if p.modifier = ['*'] then ['?'] else [] := by
    simp [outerModifier, hc, hr]
  have hm : IsModifier (if p.modifier = ['*'] then ['?'] else []) := by
    split
    · exact Or.inr (Or.inl rfl)
    · exact Or.inl rfl
  rw [regex, hinner, houter]
  by_cases hempty : p.lead = [] ∧ p.trail = []
  · simp [Template.parameterSource, hc, hr, hempty.1, hempty.2] at h
  · have hsrc : "(?:".toList ++ Template.escape p.lead ++ "((?:".toList ++ p.pattern ++
        ")(?:".toList ++ Template.escape p.trail ++ Template.escape p.lead ++ "(?:".toList ++
        p.pattern ++ "))*)".toList ++ Template.escape p.trail ++ ')' ::
        (if p.modifier = ['*'] then ['?'] else []) = src := by
      simpa [Template.parameterSource, hc, hr, hempty] using h
    have hvalue := (Yields.segments (n := n + 1) (p.trail ++ p.lead)).captured (by simp)
    have hseq : Regex.seqAll [segment, .star true
        (Regex.seqAll (literals (p.trail ++ p.lead) ++ [segment]))] = p.valueRegex := by
      simp [Regex.seqAll, valueRegex, hr]
    rw [hseq] at hvalue
    have hmod := (yields_around hvalue p.lead p.trail).modified hm
    have hesc : Template.escape (p.trail ++ p.lead) =
        Template.escape p.trail ++ Template.escape p.lead := by simp [Template.escape]
    rw [hesc] at hmod
    rw [← hsrc, hp]
    exact ⟨by simpa using hmod, by simp⟩

/-- The source of a parameter is read as its expression. -/
theorem yields_source (hp : p.IsPlain) (h : Template.parameterSource p = .ok src) :
    Yields .caseless n src [p.regex n] (if p.isCapturing then n + 1 else n) ∧
      src.head? ≠ some '?' := by
  cases hc : p.isCapturing with
  | false => exact yields_of_not_capturing hp hc h
  | true =>
      have hpat : p.pattern = Template.segmentPattern Template.usualDelimiter := by
        rcases hp.1 with hnil | hseg
        · simp [isCapturing, hnil] at hc
        · exact hseg
      cases hr : p.isRepeated with
      | false => exact yields_of_single hpat hp.2 hc hr h
      | true => exact yields_of_repeated hpat hc hr h

end Parameter

namespace Template

open Regex.Reader

@[simp] theorem keys_literal (text : Text) (parts : Template) :
    keys (.literal text :: parts) = keys parts := rfl

theorem keys_parameter (p : Parameter) (parts : Template) :
    keys (.parameter p :: parts) = if p.isCapturing then p :: keys parts else keys parts := by
  unfold keys
  rw [List.filterMap_cons]
  cases h : p.isCapturing <;> simp [h]

/-- The sources of the parts are read as their expressions. -/
theorem yields_sources {parts : Template} {srcs : List Text} {n : Nat} (hp : parts.IsPlain)
    (h : parts.mapM partSource = .ok srcs) :
    Yields .caseless n srcs.flatten (parts.expressions n) (n + parts.keys.length) ∧
      srcs.flatten.head? ≠ some '?' := by
  induction parts generalizing srcs n with
  | nil =>
      cases h
      exact ⟨.nil, by simp⟩
  | cons part parts ih =>
      obtain ⟨src, srcs, hsrc, hsrcs, rfl⟩ := mapM_cons_eq_ok h
      have hparts : IsPlain parts := fun p hmem => hp p (List.mem_cons_of_mem _ hmem)
      have hhead : ∀ {x y : Text}, x.head? ≠ some '?' → y.head? ≠ some '?' →
          (x ++ y).head? ≠ some '?' := by
        intro x y hx hy
        cases x with
        | nil => exact hy
        | cons c x => exact hx
      cases part with
      | literal text =>
          cases hsrc
          obtain ⟨hrest, hne⟩ := ih (n := n) hparts hsrcs
          exact ⟨(Yields.escape text).append hrest hne, hhead (head?_escape text) hne⟩
      | parameter p =>
          obtain ⟨hsource, hne⟩ := p.yields_source (hp p (by simp)) hsrc (n := n)
          obtain ⟨hrest, hne'⟩ := ih (n := if p.isCapturing then n + 1 else n) hparts hsrcs
          refine ⟨?_, hhead hne hne'⟩
          have hboth := hsource.append hrest hne'
          have hcount : (if p.isCapturing then n + 1 else n) + (keys parts).length =
              n + (keys (.parameter p :: parts)).length := by
            rw [keys_parameter]
            split
            · rw [List.length_cons]
              omega
            · rfl
          rw [hcount] at hboth
          exact hboth

/-- What stands behind the sources of the parts. -/
def ending : Text :=
  '[' :: escape usualDelimiter ++ "]?$".toList

/-- A delimiter may follow, and then the text ends. -/
theorem yields_ending {n : Nat} :
    Yields .caseless n ending [.opt true (.set delimiterSet), .assert .textEnd] n := by
  have hset : Atom .caseless n "[\\/#\\?]".toList (.set delimiterSet) n := .of_read fun rest => rfl
  have hopt : Yields .caseless n ("[\\/#\\?]".toList ++ ['?']) [.opt true (.set delimiterSet)] n :=
    hset.repeated '?' 0 (some 1) (fun _ => rfl) (by decide) (by decide)
  have hend : Yields .caseless n ['$'] [.assert .textEnd] n :=
    (Atom.of_read fun rest => rfl).yields
  have hending : ending = "[\\/#\\?]".toList ++ ['?'] ++ ['$'] := by decide
  rw [hending]
  exact hopt.append hend (by simp)

/-- The source of a template: its anchors, its parts, and what stands behind them. -/
theorem source_eq {parts : Template} {source : Text} (h : parts.source? .default = .ok source) :
    ∃ srcs, parts.mapM partSource = .ok srcs ∧
      source = "(?i)".toList ++ '^' :: (srcs.flatten ++ ending) := by
  obtain ⟨srcs, hsrcs, h⟩ := exists_of_bind_eq_ok h
  refine ⟨srcs, hsrcs, ?_⟩
  have hsource := Except.ok.inj h
  rw [← hsource]
  simp [Style.default, ending]

/-- A template has a source when each of its parts has one. -/
theorem exists_source {parts : Template}
    (h : ∀ part ∈ parts, ∃ src, partSource part = .ok src) :
    ∃ source, parts.source? .default = .ok source := by
  obtain ⟨srcs, hsrcs⟩ : ∃ srcs, parts.mapM partSource = .ok srcs := by
    induction parts with
    | nil => exact ⟨[], rfl⟩
    | cons part parts ih =>
        obtain ⟨src, hsrc⟩ := h part List.mem_cons_self
        obtain ⟨srcs, hsrcs⟩ := ih fun q hq => h q (List.mem_cons_of_mem part hq)
        refine ⟨src :: srcs, ?_⟩
        rw [List.mapM_cons, hsrc, hsrcs]
        rfl
  unfold source?
  rw [hsrcs]
  exact ⟨_, rfl⟩

theorem yields_start {n : Nat} : Yields .caseless n ['^'] [.assert .textStart] n :=
  (Atom.of_read fun _ => rfl).yields

/-- The expressions of a whole template: between its anchors, with a delimiter that may follow. -/
def wholeExpressions (parts : Template) : List Regex :=
  .assert .textStart :: parts.expressions 0 ++
    [.opt true (.set delimiterSet), .assert .textEnd]

/-- The source of a template is read as its expressions, with one group for each key. -/
theorem read_source {parts : Template} {source : Text} (hp : parts.IsPlain)
    (h : parts.source? .default = .ok source) :
    Regex.read source = .ok ⟨Regex.seqAll parts.wholeExpressions, parts.keys.length, []⟩ := by
  obtain ⟨srcs, hsrcs, rfl⟩ := source_eq h
  obtain ⟨hbody, hne⟩ := yields_sources (n := 0) hp hsrcs
  rw [Nat.zero_add] at hbody
  have hending : ending.head? ≠ some '?' := by decide
  have hall := (yields_start.append hbody hne).append yields_ending hending
  exact Regex.read_of_yields (by simpa [wholeExpressions] using hall)

end Template

end RouteMask
