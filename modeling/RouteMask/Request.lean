import RouteMask.Cache
import RouteMask.Matcher
import RouteMask.Url.Canonical

/-! # Matching requests

A request matches a mask when its canonical URL matches the compiled mask.  `Mask.matcher` and
`Mask.outcome` do this without memory; `MatcherCache.matcher` and `MatcherCache.outcome` keep
compiled masks in a cache.  The mask is compiled before the URL is looked at, so of two faults that of
the mask is reported.  `Mask.outcomeRaw` and `MatcherCache.outcomeRaw` take the URL as it comes in.

* `MatcherCache.outcomeFor` is what matching with a cache comes to when the request is given by the outcome
  that it has with each compiled mask.
* `Outcome.make` refuses parameters for a URL that does not match. -/

namespace RouteMask

/-- The outcome of matching. -/
structure Outcome where
  matched : Bool
  params : Params
deriving DecidableEq

/-- A URL that does not match cannot have parameters. -/
structure OutcomeError where
  params : Params
deriving DecidableEq

namespace ParamValue

/-- A value as messages show it. -/
def shown : ParamValue → Text
  | one text => text.quoted
  | many texts => '[' :: List.intercalate ", ".toList (texts.map Text.quoted) ++ [']']

end ParamValue

/-- Parameters as messages show them. -/
def Params.shown (params : Params) : Text :=
  '\x7b' :: List.intercalate ", ".toList
    (params.map fun (name, value) => name.quoted ++ ": ".toList ++ value.shown) ++ ['\x7d']

/-- The wording of an error. -/
def OutcomeError.message (e : OutcomeError) : Text :=
  "a non-matching result cannot carry params, got ".toList ++ e.params.shown

namespace Outcome

/-- The outcome with the given parameters. -/
def make (matched : Bool) (params : Params) : Except OutcomeError Outcome :=
  if !matched && !params.isEmpty then .error ⟨params⟩ else .ok ⟨matched, params⟩

/-- The outcome for a URL that does not match. -/
def refused : Outcome := ⟨false, []⟩

/-- The outcome from the answer of a matcher. -/
def ofParams? : Option Params → Outcome
  | some params => ⟨true, params⟩
  | none => refused

end Outcome

/-- Match the URL of a request against a compiled mask. -/
def Matcher.outcome (m : Matcher) (url : Text) : Except MatchError Outcome := do
  let url ← (Url.canonical url).mapError .url
  let params ← m.apply url
  .ok (.ofParams? params)

/-- Match the URL of a request as it comes in against a compiled mask. -/
def Matcher.outcomeRaw (m : Matcher) (url : RawText) : Except MatchError Outcome := do
  let url ← (Url.canonicalRaw url).mapError .url
  let params ← m.applyRaw url
  .ok (.ofParams? params)

theorem Matcher.outcomeRaw_ofText (m : Matcher) (url : Text) : m.outcomeRaw url = m.outcome url := by
  rw [outcomeRaw, outcome, Url.canonicalRaw_ofText]
  cases Url.canonical url with
  | error e => rfl
  | ok canonical =>
    change (m.applyRaw canonical >>= _) = (m.apply canonical >>= _)
    rw [applyRaw_ofText]

namespace Mask

/-- The matcher of a mask as the user gives it. -/
def matcher (base : Option Text) (m : Mask) : Except MatchError Matcher := do
  let prepared ← (m.prepare base).mapError .url
  (prepared.compile Percent.decode).mapError .compile

/-- Match the URL of a request against a mask. -/
def outcome (base : Option Text) (m : Mask) (url : Text) : Except MatchError Outcome := do
  let matcher ← m.matcher base
  matcher.outcome url

/-- Match the URL of a request as it comes in against a mask. -/
def outcomeRaw (base : Option Text) (m : Mask) (url : RawText) : Except MatchError Outcome := do
  let matcher ← m.matcher base
  matcher.outcomeRaw url

end Mask

/-- A cache of compiled masks that all decode captured texts in the same way, which never fails. -/
structure MatcherCache where
  decode : Text → Text
  memo : Cache Mask Matcher

namespace MatcherCache

/-- The number of compiled masks that are kept when nothing else is said. -/
def defaultCapacity : Int := 1024

/-- An empty cache. -/
def make (capacity : Int) (decode : Text → Text) : Except CapacityError MatcherCache :=
  (Cache.make capacity).map (⟨decode, ·⟩)

/-- An empty cache of the usual capacity. -/
def default : MatcherCache :=
  ⟨Percent.decode, .empty defaultCapacity.toNat⟩

/-- The matcher of a mask whose text is a template already. -/
def get (c : MatcherCache) (m : Mask) : Except CompileError (Stored Matcher) × MatcherCache :=
  let (found, memo) := c.memo.get (Mask.compile c.decode) m
  (found, { c with memo := memo })

/-- The matcher of a mask as the user gives it. -/
def matcher (c : MatcherCache) (base : Option Text) (m : Mask) :
    Except MatchError (Stored Matcher) × MatcherCache :=
  match m.prepare base with
  | .error e => (.error (.url e), c)
  | .ok prepared =>
    let (found, c) := c.get prepared
    (found.mapError .compile, c)

/-- Match a request against a mask, when `attempt` is its outcome with a compiled mask. -/
def outcomeFor (c : MatcherCache) (base : Option Text) (m : Mask)
    (attempt : Matcher → Except MatchError Outcome) : Except MatchError Outcome × MatcherCache :=
  match c.matcher base m with
  | (.ok found, c) => (attempt found.value, c)
  | (.error e, c) => (.error e, c)

/-- Match the URL of a request against a mask. -/
def outcome (c : MatcherCache) (base : Option Text) (m : Mask) (url : Text) :
    Except MatchError Outcome × MatcherCache :=
  c.outcomeFor base m (·.outcome url)

/-- Match the URL of a request as it comes in against a mask. -/
def outcomeRaw (c : MatcherCache) (base : Option Text) (m : Mask) (url : RawText) :
    Except MatchError Outcome × MatcherCache :=
  c.outcomeFor base m (·.outcomeRaw url)

end MatcherCache

end RouteMask
