import RouteMask.Config.Load
import RouteMask.Proofs.Table.Answer

/-! # Tables whose cache has a history

A cache may be shared by many tables and used in other ways as well.  Whatever has been done with it,
it is sound (`MatcherCache.IsSound.after`), so that a table gives the same answers as without memory
(`Table.answer_after`). -/

namespace RouteMask

/-- What a cache can be used for. -/
inductive CacheUse : Type 1 where
  | answer {α : Type} (t : Table α) (method : Text) (url : RawText)
  | outcome (base : Option Text) (m : Mask) (url : RawText)
  | matcher (base : Option Text) (m : Mask)
  | get (m : Mask)
  | load (config : Config) (serial : Nat → Nat)
  | clear

namespace MatcherCache

/-- The cache as it is left by a use. -/
def use (c : MatcherCache) : CacheUse → MatcherCache
  | .answer t method url => (t.answerRaw c method url).2
  | .outcome base m url => (c.outcomeRaw base m url).2
  | .matcher base m => (c.matcher base m).2
  | .get m => (c.get m).2
  | .load config serial => (config.load serial c).2
  | .clear => c.clear

/-- The cache as it is left by a sequence of uses. -/
def after (c : MatcherCache) (history : List CacheUse) : MatcherCache :=
  history.foldl use c

variable {decode : Text → Text} {c : MatcherCache}

theorem IsSound.compileAll (hc : c.IsSound decode) (handlers : List (Handler Value)) :
    (Config.compileAll handlers c).2.IsSound decode := by
  induction handlers generalizing c with
  | nil => exact hc
  | cons h rest ih =>
      have hsound := hc.matcher h.base h.mask
      rw [Config.compileAll]
      rcases hm : c.matcher h.base h.mask with ⟨e | found, c'⟩
      · rw [hm] at hsound
        exact hsound
      · rw [hm] at hsound
        exact ih hsound

theorem IsSound.load (hc : c.IsSound decode) (config : Config) (serial : Nat → Nat) :
    (config.load serial c).2.IsSound decode := by
  unfold Config.load
  split
  · exact hc
  · next handlers _ =>
      split
      · exact hc
      · next table _ =>
          have hsound := hc.compileAll table.handlers
          rcases hall : Config.compileAll table.handlers c with ⟨e | ⟨⟩, c'⟩
          · rw [hall] at hsound
            exact hsound
          · rw [hall] at hsound
            exact hsound

theorem IsSound.use (hc : c.IsSound decode) (u : CacheUse) : (c.use u).IsSound decode := by
  cases u with
  | answer t method url => exact Table.isSound_answerFor hc t method _
  | outcome base m url => exact hc.outcomeFor base m _
  | matcher base m => exact hc.matcher base m
  | get m => exact hc.get m
  | load config serial => exact hc.load config serial
  | clear => exact hc.clear

/-- Every history leaves a sound cache. -/
theorem IsSound.after (hc : c.IsSound decode) (history : List CacheUse) :
    (c.after history).IsSound decode := by
  induction history generalizing c with
  | nil => exact hc
  | cons u history ih => exact ih (hc.use u)

end MatcherCache

/-- Whatever has been done with its cache, a table gives the answer that it gives without memory: the
first final decision of its handlers.  The handlers behind that one are not used. -/
theorem Table.answer_after {α : Type} {capacity : Int} (hcapacity : 1 ≤ capacity)
    (history : List CacheUse) (t : Table α) (method url : Text) :
    ∃ start, MatcherCache.make capacity Percent.decode = .ok start ∧
      (t.answer (start.after history) method url).1 = t.plainAnswer method url ∧
      t.plainAnswer method url = t.first (fun h => h.outcome method url) ∧
      ∀ before h after, t.handlers = before ++ h :: after →
        isFinal (h.outcome method url) = true →
        t.answer (start.after history) method url =
          (⟨before ++ [h], t.fallback⟩ : Table α).answer (start.after history) method url := by
  have hsound := (MatcherCache.IsSound.empty Percent.decode capacity.toNat).after history
  refine ⟨_, MatcherCache.make_of_pos hcapacity _, ?_, plainAnswer_eq_first t method url, ?_⟩
  · rw [answer, answerFor_eq_first hsound, plainAnswer_eq_first]
    simp only [Handler.outcomeBy_decode]
  · intro before h after ht hfinal
    rw [← h.outcomeBy_decode] at hfinal
    exact answerFor_cut hsound ht hfinal

/-- The mask of the second handler has been dropped from the cache; the mask of the first one, which
takes other methods, cannot be compiled. -/
theorem Table.answer_after_eviction :
    let t : Table Bool :=
      ⟨[⟨.text "/(".toList, false, .named "POST".toList, none⟩,
        ⟨.text "https://a.b/user/:id".toList, true, .any, none⟩], none⟩
    let url := "https://a.b/user/7".toList
    let history : List CacheUse :=
      [.answer t "GET".toList url, .answer t "POST".toList url, .get (.text "/a".toList)]
    (1 : Int) ≤ 1 ∧ ∃ start, MatcherCache.make 1 Percent.decode = .ok start ∧
      (t.answer (start.after history) "GET".toList url).1 = t.plainAnswer "GET".toList url ∧
      (t.plainAnswer "GET".toList url).toOption.map
          (Option.map fun a => (a.params, a.handler)) =
        some (some ([("id".toList, .one "7".toList)], some 1)) := by
  intro t url history
  obtain ⟨start, hstart, hanswer, -⟩ :=
    Table.answer_after (Int.le_refl 1) history t "GET".toList url
  exact ⟨Int.le_refl 1, start, hstart, hanswer, by decide +kernel⟩

end RouteMask
