import RouteMask.Proofs.Request.Cached
import RouteMask.Table

/-! # The first decision of a table

Handlers decide about a request one by one, and the first decision that is final is the answer of the
table: the request is matched, or something goes wrong.  `Table.first` says this of any way of
deciding, without going through the handlers.

* `Table.plainAnswer_eq_first`: the answer without memory.
* `Table.answerFor_eq_first`: the answer with a sound cache, which is sound afterwards
  (`Table.isSound_answerFor`).
* `Table.answerFor_cut`: the handlers behind the first final decision are not used, not even for the
  cache. -/

namespace RouteMask

variable {α : Type}

/-- Decide about a request without memory, decoding captured texts in the given way. -/
def Handler.outcomeBy (decode : Text → Text) (h : Handler α) (method : Text)
    (attempt : Matcher → Except MatchError Outcome) : Except MatchError Outcome :=
  if h.method.accepts method then h.mask.outcomeBy decode h.base attempt else .ok .refused

theorem Handler.outcomeBy_decode (h : Handler α) (method url : Text) :
    h.outcomeBy Percent.decode method (·.outcome url) = h.outcome method url := by
  rw [outcomeBy, Mask.outcomeBy_decode, outcome]

/-- Whether no further handler is asked. -/
def isFinal : Except MatchError Outcome → Bool
  | .ok outcome => outcome.matched
  | .error _ => true

namespace Table

/-- The answer from the first final decision of the handlers, which come with their places. -/
def firstOf (fallback : Option α) (decide : Handler α → Except MatchError Outcome)
    (handlers : List (Handler α × Nat)) : Except MatchError (Option (Answer α)) :=
  match handlers.find? fun h => isFinal (decide h.1) with
  | some (h, place) => (decide h).map fun outcome => some ⟨h.action, outcome.params, some place⟩
  | none => .ok (fallback.map fun action => ⟨action, [], none⟩)

/-- The answer from the first final decision of a table's handlers. -/
def first (t : Table α) (decide : Handler α → Except MatchError Outcome) :
    Except MatchError (Option (Answer α)) :=
  firstOf t.fallback decide t.handlers.zipIdx

section First

variable {fallback : Option α} {decide : Handler α → Except MatchError Outcome} {h : Handler α}
  {place : Nat} {rest : List (Handler α × Nat)}

theorem firstOf_error {e : MatchError} (he : decide h = .error e) :
    firstOf fallback decide ((h, place) :: rest) = .error e := by
  simp [firstOf, isFinal, he, Except.map]

theorem firstOf_matched {outcome : Outcome} (ho : decide h = .ok outcome)
    (hm : outcome.matched = true) :
    firstOf fallback decide ((h, place) :: rest) =
      .ok (some ⟨h.action, outcome.params, some place⟩) := by
  simp [firstOf, isFinal, ho, hm, Except.map]

theorem firstOf_skip {outcome : Outcome} (ho : decide h = .ok outcome)
    (hm : ¬outcome.matched = true) :
    firstOf fallback decide ((h, place) :: rest) = firstOf fallback decide rest := by
  simp [firstOf, isFinal, ho, hm]

/-- An error of the answer is an error of a decision. -/
theorem exists_of_first_eq_error {t : Table α} {e : MatchError} (he : t.first decide = .error e) :
    ∃ h ∈ t.handlers, decide h = .error e := by
  unfold first firstOf at he
  split at he
  · next h place hfind =>
      refine ⟨h, List.fst_mem_of_mem_zipIdx (List.mem_of_find?_eq_some hfind), ?_⟩
      cases hd : decide h with
      | ok outcome => simp [hd, Except.map] at he
      | error e' => simpa [hd, Except.map] using he
  · cases he

end First

theorem plainAnswerFrom_eq_firstOf (fallback : Option α) (method url : Text) (place : Nat)
    (handlers : List (Handler α)) :
    plainAnswerFrom fallback method url place handlers =
      firstOf fallback (fun h => h.outcome method url) (handlers.zipIdx place) := by
  induction handlers generalizing place with
  | nil => rfl
  | cons h rest ih =>
      rw [plainAnswerFrom, List.zipIdx_cons]
      cases hd : h.outcome method url with
      | error e => exact (firstOf_error hd).symm
      | ok outcome =>
          change (if outcome.matched = true then _ else _) = _
          split
          · next hm => exact (firstOf_matched hd hm).symm
          · next hm => rw [ih, firstOf_skip hd hm]

theorem plainAnswer_eq_first (t : Table α) (method url : Text) :
    t.plainAnswer method url = t.first fun h => h.outcome method url :=
  plainAnswerFrom_eq_firstOf t.fallback method url 0 t.handlers

/-! ### With a cache -/

section Cached

variable {decode : Text → Text} {c : MatcherCache} {attempt : Matcher → Except MatchError Outcome}

/-- What asking the first of the handlers comes to. -/
theorem exists_answerFrom_cons (hc : c.IsSound decode) (h : Handler α) (method : Text)
    (attempt : Matcher → Except MatchError Outcome) :
    ∃ c' : MatcherCache, c'.IsSound decode ∧ ∀ fallback place rest,
      answerFrom fallback method attempt place (h :: rest) c =
        match h.outcomeBy decode method attempt with
        | .error e => (.error e, c')
        | .ok outcome =>
          if outcome.matched then (.ok (some ⟨h.action, outcome.params, some place⟩), c')
          else answerFrom fallback method attempt (place + 1) rest c' := by
  refine ⟨(h.outcomeFor c method attempt).2, ?_, fun fallback place rest => ?_⟩
  · unfold Handler.outcomeFor
    split
    · exact hc.outcomeFor h.base h.mask attempt
    · exact hc
  · have hd : h.outcomeBy decode method attempt = (h.outcomeFor c method attempt).1 := by
      unfold Handler.outcomeFor Handler.outcomeBy
      split
      · exact (hc.outcomeFor_eq h.base h.mask attempt).symm
      · rfl
    rw [answerFrom, hd]
    rcases h.outcomeFor c method attempt with ⟨e | outcome, c'⟩ <;> rfl

theorem answerFrom_eq_firstOf (fallback : Option α) (method : Text)
    (attempt : Matcher → Except MatchError Outcome) (place : Nat) (handlers : List (Handler α))
    (hc : c.IsSound decode) :
    (answerFrom fallback method attempt place handlers c).1 =
        firstOf fallback (fun h => h.outcomeBy decode method attempt) (handlers.zipIdx place) ∧
      (answerFrom fallback method attempt place handlers c).2.IsSound decode := by
  induction handlers generalizing place c with
  | nil => exact ⟨rfl, hc⟩
  | cons h rest ih =>
      obtain ⟨c', hc', hcons⟩ := exists_answerFrom_cons hc h method attempt
      rw [hcons, List.zipIdx_cons]
      cases hd : h.outcomeBy decode method attempt with
      | error e => exact ⟨(firstOf_error hd).symm, hc'⟩
      | ok outcome =>
          dsimp only
          split
          · next hm => exact ⟨(firstOf_matched hd hm).symm, hc'⟩
          · next hm =>
              rw [firstOf_skip hd hm]
              exact ih (place + 1) hc'

theorem answerFor_eq_first (hc : c.IsSound decode) (t : Table α) (method : Text)
    (attempt : Matcher → Except MatchError Outcome) :
    (t.answerFor c method attempt).1 = t.first fun h => h.outcomeBy decode method attempt :=
  (answerFrom_eq_firstOf t.fallback method attempt 0 t.handlers hc).1

theorem isSound_answerFor (hc : c.IsSound decode) (t : Table α) (method : Text)
    (attempt : Matcher → Except MatchError Outcome) :
    (t.answerFor c method attempt).2.IsSound decode :=
  (answerFrom_eq_firstOf t.fallback method attempt 0 t.handlers hc).2

theorem answerFrom_cut (fallback : Option α) {method : Text} (place : Nat)
    (before : List (Handler α)) {h : Handler α} (after : List (Handler α)) (hc : c.IsSound decode)
    (hfinal : isFinal (h.outcomeBy decode method attempt) = true) :
    answerFrom fallback method attempt place (before ++ h :: after) c =
      answerFrom fallback method attempt place (before ++ [h]) c := by
  induction before generalizing place c with
  | nil =>
      obtain ⟨c', -, hcons⟩ := exists_answerFrom_cons hc h method attempt
      rw [List.nil_append, List.nil_append, hcons, hcons]
      cases hd : h.outcomeBy decode method attempt with
      | error e => rfl
      | ok outcome =>
          have hm : outcome.matched = true := by rwa [hd] at hfinal
          dsimp only
          rw [if_pos hm, if_pos hm]
  | cons b before ih =>
      obtain ⟨c', hc', hcons⟩ := exists_answerFrom_cons hc b method attempt
      rw [List.cons_append, List.cons_append, hcons, hcons]
      cases b.outcomeBy decode method attempt with
      | error e => rfl
      | ok outcome =>
          dsimp only
          split
          · rfl
          · exact ih (place + 1) hc'

/-- The answer and the cache are as if the table ended with the first final decision. -/
theorem answerFor_cut (hc : c.IsSound decode) {t : Table α} {before after : List (Handler α)}
    {h : Handler α} (ht : t.handlers = before ++ h :: after) {method : Text}
    (hfinal : isFinal (h.outcomeBy decode method attempt) = true) :
    t.answerFor c method attempt =
      (⟨before ++ [h], t.fallback⟩ : Table α).answerFor c method attempt := by
  unfold answerFor
  rw [ht]
  exact answerFrom_cut t.fallback 0 before after hc hfinal

end Cached

end Table

end RouteMask
