import RouteMask.Handler

/-! # Handler tables

A table is a list of handlers with a fallback.  The first handler that accepts a request answers it;
when none does, the fallback answers, if there is one.  `Table.answer` keeps compiled masks in a
cache; `Table.plainAnswer` is the same without memory.  `Table.answerRaw` answers a request as it comes
in. -/

namespace RouteMask

/-- The most handlers of a table. -/
def maxHandlers : Nat := 256

/-- A table with too many handlers. -/
structure TableSizeError where
  count : Nat
deriving DecidableEq

/-- The wording of an error. -/
def TableSizeError.message (e : TableSizeError) : String :=
  s!"too many handlers: {e.count} exceeds maximum {maxHandlers}"

/-- A table of handlers. -/
structure Table (α : Type) where
  handlers : List (Handler α)
  /-- The action when no handler accepts a request. -/
  fallback : Option α

/-- The answer to a request. -/
structure Answer (α : Type) where
  action : α
  params : Params
  /-- The place of the handler that answered, or nothing for the fallback. -/
  handler : Option Nat

namespace Table

variable {α : Type}

/-- The table of the given handlers, which may not be too many. -/
def make (handlers : List (Handler α)) (fallback : Option α) : Except TableSizeError (Table α) :=
  if maxHandlers < handlers.length then .error ⟨handlers.length⟩ else .ok ⟨handlers, fallback⟩

/-- The answer of the fallback. -/
def fallbackAnswer (fallback : Option α) : Option (Answer α) :=
  fallback.map fun action => ⟨action, [], none⟩

/-- The answer of the first of the handlers, counted from `place` on, that accepts a request whose
outcome with a compiled mask is `attempt`. -/
def answerFrom (fallback : Option α) (method : Text) (attempt : Matcher → Except MatchError Outcome) :
    (place : Nat) → List (Handler α) → MatcherCache →
      Except MatchError (Option (Answer α)) × MatcherCache
  | _, [], c => (.ok (fallbackAnswer fallback), c)
  | place, h :: rest, c =>
    match h.outcomeFor c method attempt with
    | (.error e, c) => (.error e, c)
    | (.ok outcome, c) =>
      if outcome.matched then (.ok (some ⟨h.action, outcome.params, some place⟩), c)
      else answerFrom fallback method attempt (place + 1) rest c

/-- The answer to a request whose outcome with a compiled mask is `attempt`. -/
def answerFor (t : Table α) (c : MatcherCache) (method : Text)
    (attempt : Matcher → Except MatchError Outcome) :
    Except MatchError (Option (Answer α)) × MatcherCache :=
  answerFrom t.fallback method attempt 0 t.handlers c

/-- The answer to a request. -/
def answer (t : Table α) (c : MatcherCache) (method url : Text) :
    Except MatchError (Option (Answer α)) × MatcherCache :=
  t.answerFor c method (·.outcome url)

/-- The answer to a request as it comes in. -/
def answerRaw (t : Table α) (c : MatcherCache) (method : Text) (url : RawText) :
    Except MatchError (Option (Answer α)) × MatcherCache :=
  t.answerFor c method (·.outcomeRaw url)

theorem answerRaw_ofText (t : Table α) (c : MatcherCache) (method url : Text) :
    t.answerRaw c method url = t.answer c method url := by
  simp only [answerRaw, answer, Matcher.outcomeRaw_ofText]

/-- The answer of the first of the handlers, without memory. -/
def plainAnswerFrom (fallback : Option α) (method url : Text) :
    (place : Nat) → List (Handler α) → Except MatchError (Option (Answer α))
  | _, [] => .ok (fallbackAnswer fallback)
  | place, h :: rest => do
    let outcome ← h.outcome method url
    if outcome.matched then .ok (some ⟨h.action, outcome.params, some place⟩)
    else plainAnswerFrom fallback method url (place + 1) rest

/-- The answer to a request, without memory. -/
def plainAnswer (t : Table α) (method url : Text) : Except MatchError (Option (Answer α)) :=
  plainAnswerFrom t.fallback method url 0 t.handlers

end Table

end RouteMask
