import RouteMask.Config

/-! # Loading configurations

Loading makes a handler table from a configuration and compiles every mask, so that a mask that cannot
be compiled is found at once.  The order of checks is fixed: the length of every mask and the syntax of
every regular expression, in the order of the handlers; the number of handlers; the masks, in the
order of the handlers.

Compiling one source twice may give the same regular expression or two that a cache tells apart, and
that is not for loading to say: it is given the serial numbers, by the places of the handlers.

* `Config.build` makes the handlers, as far as that goes.
* `Config.load` is the whole of loading and gives the cache as it is left. -/

namespace RouteMask

/-- What can go wrong in loading. -/
inductive LoadError where
  | tooLong (length max : Nat)
  | tooMany (e : TableSizeError)
  | mask (e : MatchError)
deriving DecidableEq

/-- The wording for a mask that is too long. -/
def tooLongMessage (length max : Nat) : String :=
  s!"mask length {length} exceeds maximum {max}"

/-- The most characters of a path. -/
def maxPathLength : Nat := 8192

/-- The most characters of a regular expression. -/
def maxRegexLength : Nat := 4096

namespace Config

/-- The rule for a method that may be absent. -/
def methodRule : Option Text → MethodRule
  | some method => .named method
  | none => .any

/-- The handler that a configuration describes.  The base applies to paths only, and the serial number
to regular expressions. -/
def buildHandler (base : Option Text) (serial : Nat) (h : HandlerSpec) :
    Except LoadError (Handler Value) :=
  match h.kind with
  | .path =>
    if maxPathLength < h.mask.length then .error (.tooLong h.mask.length maxPathLength)
    else .ok ⟨.text h.mask, h.action, methodRule h.method, base⟩
  | .regex =>
    if maxRegexLength < h.mask.length then .error (.tooLong h.mask.length maxRegexLength)
    else
      match RegexMask.compile h.mask serial with
      | .ok r => .ok ⟨.regex r, h.action, methodRule h.method, none⟩
      | .error e => .error (.mask (.compile ⟨h.mask, .regex e⟩))

/-- The handlers from `place` on, up to the first that cannot be made, and what is wrong with that
one. -/
def build (base : Option Text) (serial : Nat → Nat) :
    (place : Nat) → List HandlerSpec → List (Handler Value) × Option LoadError
  | _, [] => ([], none)
  | place, h :: rest =>
    match buildHandler base (serial place) h with
    | .ok handler =>
      (handler :: (build base serial (place + 1) rest).1, (build base serial (place + 1) rest).2)
    | .error e => ([], some e)

/-- Compile the masks of handlers into a cache, up to the first that cannot be compiled. -/
def compileAll : List (Handler Value) → MatcherCache → Except LoadError Unit × MatcherCache
  | [], c => (.ok (), c)
  | h :: rest, c =>
    match c.matcher h.base h.mask with
    | (.ok _, c) => compileAll rest c
    | (.error e, c) => (.error (.mask e), c)

/-- The fallback, when there is one. -/
def fallback? : Value → Option Value
  | .null => none
  | action => some action

/-- Load a configuration with the given cache. -/
def load (config : Config) (serial : Nat → Nat) (c : MatcherCache) :
    Except LoadError (Table Value) × MatcherCache :=
  match build config.base serial 0 config.handlers with
  | (_, some e) => (.error e, c)
  | (handlers, none) =>
    match Table.make handlers (fallback? config.fallback) with
    | .error e => (.error (.tooMany e), c)
    | .ok table =>
      match compileAll table.handlers c with
      | (.ok (), c) => (.ok table, c)
      | (.error e, c) => (.error e, c)

/-- The redundant queries of the handlers that are made in loading, in order. -/
def redundantQueries (config : Config) (serial : Nat → Nat) : List (Text × Text) :=
  (build config.base serial 0 config.handlers).1.filterMap (·.redundantQuery?)

end Config

end RouteMask
