import RouteMask.Proofs.Url.Query
import RouteMask.Table

/-! # Requests that are the same for every mask

Of the URL of a request only the canonical form is looked at.  So texts with one canonical form, or with
the same fault, are the same request for every mask, for every cache and for every table
(`SameRequest.of_canonical_eq`), and the cache is left in the same state.  A text is the same request with
a query or a fragment behind it (`sameRequest_query_fragment`). -/

namespace RouteMask

/-- Nothing tells the texts apart as URLs of a request. -/
structure SameRequest (s t : Text) : Prop where
  /-- The canonical forms, or the faults, are the same. -/
  canonical : Url.canonical s = Url.canonical t
  outcome : ∀ (base : Option Text) (m : Mask), m.outcome base s = m.outcome base t
  /-- With any cache the outcome is the same, and the cache is left in the same state. -/
  cachedOutcome : ∀ (c : MatcherCache) (base : Option Text) (m : Mask),
    c.outcome base m s = c.outcome base m t
  plainAnswer : ∀ {α : Type} (table : Table α) (method : Text),
    table.plainAnswer method s = table.plainAnswer method t
  /-- With any cache the answer is the same, and the cache is left in the same state. -/
  answer : ∀ {α : Type} (table : Table α) (c : MatcherCache) (method : Text),
    table.answer c method s = table.answer c method t

section

variable {s t : Text} {α : Type}

theorem Matcher.outcome_congr (h : Url.canonical s = Url.canonical t) (m : Matcher) :
    m.outcome s = m.outcome t := by
  unfold outcome
  rw [h]

theorem Mask.outcome_congr (h : Url.canonical s = Url.canonical t) (base : Option Text) (m : Mask) :
    m.outcome base s = m.outcome base t := by
  unfold outcome
  simp only [Matcher.outcome_congr h]

theorem MatcherCache.outcome_congr (h : Url.canonical s = Url.canonical t) (c : MatcherCache)
    (base : Option Text) (m : Mask) : c.outcome base m s = c.outcome base m t := by
  simp only [outcome, Matcher.outcome_congr h]

namespace Table

theorem plainAnswerFrom_congr (h : Url.canonical s = Url.canonical t) (fallback : Option α)
    (method : Text) (place : Nat) (handlers : List (Handler α)) :
    plainAnswerFrom fallback method s place handlers =
      plainAnswerFrom fallback method t place handlers := by
  induction handlers generalizing place with
  | nil => rfl
  | cons handler rest ih =>
      have hdecision : handler.outcome method s = handler.outcome method t := by
        rw [Handler.outcome, Handler.outcome, Mask.outcome_congr h]
      simp only [plainAnswerFrom, hdecision, ih]

theorem answer_congr (h : Url.canonical s = Url.canonical t) (table : Table α) (c : MatcherCache)
    (method : Text) : table.answer c method s = table.answer c method t := by
  simp only [answer, Matcher.outcome_congr h]

end Table

/-- Texts with one canonical form are the same request. -/
theorem SameRequest.of_canonical_eq (h : Url.canonical s = Url.canonical t) : SameRequest s t where
  canonical := h
  outcome := Mask.outcome_congr h
  cachedOutcome := MatcherCache.outcome_congr h
  plainAnswer table method := Table.plainAnswerFrom_congr h table.fallback method 0 table.handlers
  answer := Table.answer_congr h

end

/-- Query and fragment of a request play no part, whatever the text in front of them is. -/
theorem sameRequest_query_fragment (url query fragment : Text) :
    SameRequest (url ++ '?' :: query) url ∧ SameRequest (url ++ '#' :: fragment) url :=
  ⟨.of_canonical_eq (Url.canonical_append_mark (Or.inl rfl) url query),
    .of_canonical_eq (Url.canonical_append_mark (Or.inr rfl) url fragment)⟩

end RouteMask
