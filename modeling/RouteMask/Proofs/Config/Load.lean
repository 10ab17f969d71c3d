import RouteMask.Proofs.Config.Order
import RouteMask.Proofs.Template.Splitting

/-! # Masks of a loaded table

Loading compiles the mask of every handler (`Config.exists_matcher_of_load`).  A request compiles a
mask again when it has been dropped from the cache meanwhile, with the same result, whatever the
cache has been used for.  What is left to go wrong on a request is its URL, which may be malformed or
hold a surrogate, and a matcher with fewer groups than keys (`Matcher.eq_of_outcomeRaw_eq_error`).  The
values of a repeated parameter are told apart by a text that is not empty
(`Mask.separates_of_matcherBy`). -/

namespace RouteMask

namespace Matcher

/-- The parameters of a URL fail only when a group is missing. -/
theorem eq_noGroup_of_collect_eq_error {decode : Text → Text} {keys : List Parameter}
    {groups : List (Option Text)} {params : Params} {e : MatchError}
    (h : collect decode keys groups params = .error e) : e = .noGroup := by
  induction keys generalizing groups params with
  | nil => cases h
  | cons key keys ih =>
      rcases groups with _ | ⟨_ | captured, groups⟩
      · cases h
        rfl
      · exact ih h
      · exact ih h

theorem eq_noGroup_of_apply_eq_error {m : Matcher} {url : Text} {e : MatchError}
    (h : m.apply url = .error e) : e = .noGroup := by
  unfold apply at h
  split at h
  · cases h
  · next groups _ =>
      cases hcollect : collect m.decode m.keys groups.tail [] with
      | ok params =>
          rw [hcollect] at h
          cases h
      | error cause =>
          rw [hcollect] at h
          cases h
          exact eq_noGroup_of_collect_eq_error hcollect

/-- What can go wrong when the URL of a request is matched against a compiled mask. -/
theorem eq_of_outcomeRaw_eq_error {m : Matcher} {url : RawText} {e : MatchError}
    (h : m.outcomeRaw url = .error e) :
    (∃ cause, e = .url cause ∧ Url.canonicalRaw url = .error cause) ∨
      (∃ canonical cause, e = .encoding cause ∧ Url.canonicalRaw url = .ok canonical ∧
        canonical.toText = .error cause) ∨
      e = .noGroup := by
  rcases eq_error_of_bind_eq_error h with h | ⟨canonical, hcanonical, h⟩
  · obtain ⟨cause, hcause, rfl⟩ := exists_of_mapError_eq_error h
    exact .inl ⟨cause, rfl, hcause⟩
  · refine .inr ?_
    rcases eq_error_of_bind_eq_error h with h | ⟨params, -, h⟩
    · rcases eq_error_of_bind_eq_error h with h | ⟨text, -, h⟩
      · obtain ⟨cause, hcause, rfl⟩ := exists_of_mapError_eq_error h
        exact .inl ⟨canonical, cause, rfl, eq_ok_of_mapError hcanonical, hcause⟩
      · exact .inr (eq_noGroup_of_apply_eq_error h)
    · cases h

end Matcher

namespace Mask

variable {decode : Text → Text} {m : Mask} {matcher : Matcher}

theorem separates_of_matcherBy {base : Option Text} (h : m.matcherBy decode base = .ok matcher) :
    matcher.Separates := by
  obtain ⟨prepared, -, h⟩ := exists_of_bind_eq_ok h
  exact separates_of_compile (eq_ok_of_mapError h)

end Mask

/-- A handler whose mask compiles fails on a request only where its matcher does. -/
theorem Handler.exists_of_outcomeBy_eq_error {α : Type} {decode : Text → Text} {h : Handler α}
    {method : Text} {attempt : Matcher → Except MatchError Outcome} {e : MatchError} {matcher : Matcher}
    (hmatcher : h.mask.matcherBy decode h.base = .ok matcher)
    (he : h.outcomeBy decode method attempt = .error e) : attempt matcher = .error e := by
  unfold Handler.outcomeBy at he
  split at he
  · rw [Mask.outcomeBy, hmatcher] at he
    exact he
  · cases he

namespace Config

variable {decode : Text → Text} {c loaded : MatcherCache} {config : Config} {serial : Nat → Nat}
  {table : Table Value}

/-- The masks of a loaded table compile. -/
theorem exists_matcher_of_load (hc : c.IsSound decode)
    (hload : config.load serial c = (.ok table, loaded)) :
    ∀ h ∈ table.handlers, ∃ matcher, h.mask.matcherBy decode h.base = .ok matcher := by
  obtain ⟨result, hloads⟩ := exists_loads config serial c
  obtain rfl := (hloads.load_eq hc).symm.trans hload
  intro h hmem
  cases hloads with
  | loaded _ _ _ hready =>
      obtain ⟨matcher, hmatcher⟩ := Handler.exists_matcher_of_isReady hready h hmem
      exact ⟨_, Mask.matcherBy_of_ok hmatcher decode⟩

end Config

end RouteMask
