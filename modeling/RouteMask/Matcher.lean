import RouteMask.Mask.Normal
import RouteMask.Regex.Pattern
import RouteMask.Template.Reader

/-! # Matchers

A mask is a text or a regular expression.  Compiled, it is a `Matcher`: a pattern and the parameters
that its capturing groups belong to.  `Matcher.apply` matches a URL and gives the values of the
parameters that took part, decoded.  `Matcher.applyRaw` takes a URL as it comes in, which cannot be
matched when it holds a surrogate.

* `Mask.compile` makes a matcher from a template or from a regular expression; `CompileError` says
  why that is impossible.
* Groups of a regular expression without name are numbered from zero, apart from the named ones. -/

namespace RouteMask

/-- A regular expression that is used as a mask.  Two of them are the same mask when they have the
same source and the same serial number. -/
structure RegexMask where
  source : Text
  serial : Nat
  pattern : Pattern
  compiled : Pattern.compile source = .ok pattern

namespace RegexMask

theorem eq_of_source_eq {a b : RegexMask} (hs : a.source = b.source) (hn : a.serial = b.serial) :
    a = b := by
  obtain ⟨_, _, p, hp⟩ := a
  obtain ⟨_, _, q, hq⟩ := b
  cases hs
  cases hn
  obtain rfl : p = q := Except.ok.inj (hp.symm.trans hq)
  rfl

instance : DecidableEq RegexMask := fun a b =>
  if h : a.source = b.source ∧ a.serial = b.serial then isTrue (eq_of_source_eq h.1 h.2)
  else isFalse fun hab => h ⟨congrArg source hab, congrArg serial hab⟩

/-- Compile a source; `serial` tells masks of the same source apart. -/
def compile (source : Text) (serial : Nat) : Except Regex.SyntaxError RegexMask :=
  match h : Pattern.compile source with
  | .ok pattern => .ok ⟨source, serial, pattern, h⟩
  | .error e => .error e

end RegexMask

/-- A mask. -/
inductive Mask where
  | text (s : Text)
  | regex (r : RegexMask)
deriving DecidableEq

/-- The value of a parameter: one text, or the texts of its repetitions. -/
inductive ParamValue where
  | one (text : Text)
  | many (texts : List Text)
deriving DecidableEq

/-- Parameters by name, in the order in which they were first given. -/
abbrev Params := List (Text × ParamValue)

/-- Give a parameter a value; an earlier value is replaced. -/
def Params.set (name : Text) (value : ParamValue) : Params → Params
  | [] => [(name, value)]
  | (n, v) :: rest => if n = name then (name, value) :: rest else (n, v) :: set name value rest

/-- What made a mask impossible to compile. -/
inductive CompileFault where
  | template (e : Template.Error)
  | regex (e : Regex.SyntaxError)
deriving DecidableEq

/-- The wording of a fault. -/
def CompileFault.reason : CompileFault → Text
  | .template e => e.message.toList
  | .regex e => Text.quotedBytes e.message

/-- A mask that cannot be compiled, and why. -/
structure CompileError where
  pattern : Text
  fault : CompileFault
deriving DecidableEq

/-- The wording of an error. -/
def CompileError.message (e : CompileError) : Text :=
  "cannot compile mask pattern ".toList ++ Text.quoted e.pattern ++ ": ".toList ++ e.fault.reason

/-- What can go wrong when a URL is matched against a mask. -/
inductive MatchError where
  | url (e : UrlError)
  | compile (e : CompileError)
  /-- The URL cannot be encoded, which it has to be for the search. -/
  | encoding (e : EncodingError)
  /-- A parameter has no capturing group. -/
  | noGroup
deriving DecidableEq

/-- A compiled mask. -/
structure Matcher where
  pattern : Pattern
  keys : List Parameter
  /-- How captured texts are decoded, which never fails. -/
  decode : Text → Text

namespace Matcher

/-- The value of a parameter that has captured a text. -/
def valueOf (decode : Text → Text) (key : Parameter) (captured : Text) : ParamValue :=
  if key.isRepeated then
    .many ((Text.splitOn (key.lead ++ key.trail) captured).map decode)
  else .one (decode captured)

/-- The parameters from the texts of the capturing groups, which stand in the order of the keys.
Groups that took no part are left out. -/
def collect (decode : Text → Text) :
    List Parameter → List (Option Text) → Params → Except MatchError Params
  | [], _, params => .ok params
  | _ :: _, [], _ => .error .noGroup
  | _ :: keys, none :: groups, params => collect decode keys groups params
  | key :: keys, some captured :: groups, params =>
    collect decode keys groups (params.set key.name (valueOf decode key captured))

/-- The parameters of a URL, or nothing when it does not match. -/
def apply (m : Matcher) (url : Text) : Except MatchError (Option Params) :=
  match m.pattern.find? url with
  | none => .ok none
  | some groups => (collect m.decode m.keys groups.tail []).map some

/-- The parameters of a URL as it comes in. -/
def applyRaw (m : Matcher) (url : RawText) : Except MatchError (Option Params) := do
  let url ← url.toText.mapError .encoding
  m.apply url

theorem applyRaw_ofText (m : Matcher) (url : Text) : m.applyRaw url = m.apply url := by
  rw [applyRaw, RawText.toText_ofText]
  rfl

theorem applyRaw_of_error (m : Matcher) {url : RawText} {e : EncodingError} (h : url.toText = .error e) :
    m.applyRaw url = .error (.encoding e) := by
  rw [applyRaw, h]
  rfl

/-- Only texts are matched. -/
theorem applyRaw_eq_ok_iff {m : Matcher} {url : RawText} {params : Option Params} :
    m.applyRaw url = .ok params ↔ ∃ text : Text, url = text ∧ m.apply text = .ok params := by
  constructor
  · intro h
    cases htext : url.toText with
    | error e =>
      rw [applyRaw_of_error m htext] at h
      cases h
    | ok text =>
      obtain rfl := RawText.toText_eq_ok_iff.mp htext
      exact ⟨text, rfl, m.applyRaw_ofText text ▸ h⟩
  · rintro ⟨text, rfl, h⟩
    rw [applyRaw_ofText, h]

/-- A matcher that fails for no text fails for surrogates only. -/
theorem applyRaw_eq_error_iff {m : Matcher} (hm : ∀ text e, m.apply text ≠ .error e) {url : RawText}
    {e : MatchError} :
    m.applyRaw url = .error e ↔ ∃ cause, e = .encoding cause ∧ url.toText = .error cause := by
  constructor
  · intro h
    cases htext : url.toText with
    | error cause =>
      rw [applyRaw_of_error m htext] at h
      exact ⟨cause, (Except.error.inj h).symm, rfl⟩
    | ok text =>
      obtain rfl := RawText.toText_eq_ok_iff.mp htext
      rw [applyRaw_ofText] at h
      exact absurd h (hm text e)
  · rintro ⟨cause, rfl, htext⟩
    exact applyRaw_of_error m htext

/-- The parameter of a name that a regular expression gives. -/
def namedKey (name : Text) : Parameter := ⟨name, [], [], [], []⟩

/-- The parameters of the groups of a regular expression, from group `index` on, when `unnamed` of
those before have no name. -/
def regexKeys (p : Pattern) : (count index unnamed : Nat) → List Parameter
  | 0, _, _ => []
  | count + 1, index, unnamed =>
    match p.name? index with
    | some name => namedKey name :: regexKeys p count (index + 1) unnamed
    | none =>
      namedKey (toString unnamed).toList :: regexKeys p count (index + 1) (unnamed + 1)

/-- The matcher of a regular expression. -/
def ofPattern (decode : Text → Text) (p : Pattern) : Matcher :=
  ⟨p, regexKeys p p.groups 1 0, decode⟩

/-- The matcher of a template. -/
def ofTemplate (decode : Text → Text) (template : Text) : Except CompileError Matcher := do
  let fail (fault : CompileFault) : CompileError := ⟨template, fault⟩
  let parts ← (Template.read Template.usualLeads Template.usualDelimiter template).mapError
    (fail ∘ .template)
  let source ← (Template.source? .default parts).mapError (fail ∘ .template)
  let pattern ← (Pattern.compile source).mapError (fail ∘ .regex)
  .ok ⟨pattern, parts.keys, decode⟩

end Matcher

namespace Mask

/-- Compile a mask whose text is a template already. -/
def compile (decode : Text → Text) : Mask → Except CompileError Matcher
  | .text template => Matcher.ofTemplate decode template
  | .regex r => .ok (Matcher.ofPattern decode r.pattern)

/-- The normal form of a mask.  A regular expression is taken as it is. -/
def normalize (base : Option Text) : Mask → Except UrlError Mask
  | .text s => (MaskText.normalize s base).map .text
  | .regex r => .ok (.regex r)

/-- The mask in normal form with its text made into a template. -/
def prepare (base : Option Text) (m : Mask) : Except UrlError Mask :=
  (m.normalize base).map fun
    | .text s => .text (MaskText.template s)
    | .regex r => .regex r

end Mask

end RouteMask
