import RouteMask.Request
import RouteMask.Text.Case

/-! # Handlers

A handler takes the requests whose method and URL it accepts and stands for an action.
`Handler.outcome` decides about one request; the URL is looked at only when the method is accepted.
`Handler.redundantQuery?` finds masks with a query, which matching would ignore. -/

namespace RouteMask

/-- The methods that a handler accepts. -/
inductive MethodRule where
  | any
  /-- The method of that name, in any case. -/
  | named (method : Text)
  /-- The methods in which a regular expression is found. -/
  | found (p : Pattern)

namespace MethodRule

/-- The rule as messages show it. -/
def label : MethodRule → Text
  | any => ['*']
  | named method => method.upper
  | found p => p.source

/-- Whether a method is accepted. -/
def accepts (rule : MethodRule) (method : Text) : Bool :=
  match rule with
  | any => true
  | named own => own.foldCase == method.foldCase
  | found p => p.matches? method

end MethodRule

/-- A handler with an action of any kind. -/
structure Handler (α : Type) where
  mask : Mask
  action : α
  method : MethodRule
  base : Option Text

namespace Handler

variable {α : Type}

/-- Whether a mask has a question mark before those at its end. -/
def hasQuery (mask : Text) : Bool :=
  (mask.reverse.dropWhile (· == '?')).contains '?'

/-- The label of the method and the mask, when a part of the mask is a query. -/
def redundantQuery? (h : Handler α) : Option (Text × Text) :=
  match h.mask with
  | .text mask => if hasQuery mask then some (h.method.label, mask) else none
  | .regex _ => none

/-- The handler's matcher, without memory. -/
def matcher (h : Handler α) : Except MatchError Matcher :=
  h.mask.matcher h.base

/-- Decide about a request, without memory. -/
def outcome (h : Handler α) (method url : Text) : Except MatchError Outcome :=
  if h.method.accepts method then h.mask.outcome h.base url else .ok .refused

/-- Decide about a request as it comes in, without memory. -/
def outcomeRaw (h : Handler α) (method : Text) (url : RawText) : Except MatchError Outcome :=
  if h.method.accepts method then h.mask.outcomeRaw h.base url else .ok .refused

/-- Decide about a request whose outcome with a compiled mask is `attempt`, keeping compiled masks in a
cache. -/
def outcomeFor (h : Handler α) (c : MatcherCache) (method : Text)
    (attempt : Matcher → Except MatchError Outcome) : Except MatchError Outcome × MatcherCache :=
  if h.method.accepts method then c.outcomeFor h.base h.mask attempt else (.ok .refused, c)

end Handler

end RouteMask
