import RouteMask.Proofs.Cache.Memo
import RouteMask.Request

/-! # Matching with a cache

A cache of compiled masks is sound when every mask it holds is there with the matcher that compiling
it gives.  Then asking the cache gives what matching without memory gives, and leaves a sound cache.

Captured texts are decoded as the cache says; `Mask.matcherBy` and `Mask.outcomeBy` are matching
without memory for any way of decoding, and for a request that is given by its outcome with every
compiled mask. -/

namespace RouteMask

namespace Mask

variable (decode : Text → Text)

/-- The matcher of a mask, which decodes captured texts in the given way. -/
def matcherBy (base : Option Text) (m : Mask) : Except MatchError Matcher := do
  let prepared ← (m.prepare base).mapError .url
  (prepared.compile decode).mapError .compile

/-- Match a request against a mask, decoding captured texts in the given way. -/
def outcomeBy (base : Option Text) (m : Mask) (attempt : Matcher → Except MatchError Outcome) :
    Except MatchError Outcome := do
  let matcher ← m.matcherBy decode base
  attempt matcher

theorem matcherBy_decode (base : Option Text) (m : Mask) :
    m.matcherBy Percent.decode base = m.matcher base := rfl

theorem outcomeBy_decode (base : Option Text) (m : Mask) (url : Text) :
    m.outcomeBy Percent.decode base (·.outcome url) = m.outcome base url := by
  rw [outcomeBy, matcherBy_decode, outcome]

end Mask

namespace MatcherCache

/-- Forget all masks. -/
def clear (c : MatcherCache) : MatcherCache :=
  { c with memo := c.memo.clear }

/-- The cache decodes in the given way and holds what compiling gives. -/
structure IsSound (decode : Text → Text) (c : MatcherCache) : Prop where
  decode_eq : c.decode = decode
  memo : c.memo.IsSound (Mask.compile decode)

theorem make_of_pos {capacity : Int} (h : 1 ≤ capacity) (decode : Text → Text) :
    make capacity decode = .ok ⟨decode, .empty capacity.toNat⟩ := by
  have hlt : ¬capacity < 1 := Int.not_lt.mpr h
  simp [make, Cache.make, hlt, Except.map]

example : make defaultCapacity Percent.decode = .ok default := rfl

namespace IsSound

variable {decode : Text → Text} {c : MatcherCache}

theorem empty (decode : Text → Text) (capacity : Nat) : IsSound decode ⟨decode, .empty capacity⟩ :=
  ⟨rfl, .empty _ _⟩

theorem make {capacity : Int} (h : MatcherCache.make capacity decode = .ok c) :
    c.IsSound decode := by
  unfold MatcherCache.make Cache.make at h
  split at h
  · cases h
  · cases h
    exact empty decode _

theorem clear (h : c.IsSound decode) : c.clear.IsSound decode :=
  ⟨h.decode_eq, .clear _ _⟩

theorem get (h : c.IsSound decode) (m : Mask) : (c.get m).2.IsSound decode := by
  obtain ⟨rfl, hmemo⟩ := h
  exact ⟨rfl, hmemo.get m⟩

theorem map_get (h : c.IsSound decode) (m : Mask) :
    (c.get m).1.map Stored.value = m.compile decode := by
  obtain ⟨rfl, hmemo⟩ := h
  exact hmemo.map_get m

theorem matcher (h : c.IsSound decode) (base : Option Text) (m : Mask) :
    (c.matcher base m).2.IsSound decode := by
  unfold MatcherCache.matcher
  cases m.prepare base with
  | error e => exact h
  | ok prepared => exact h.get prepared

/-- A sound cache gives the matcher of a mask. -/
theorem map_matcher (h : c.IsSound decode) (base : Option Text) (m : Mask) :
    (c.matcher base m).1.map Stored.value = m.matcherBy decode base := by
  unfold MatcherCache.matcher Mask.matcherBy
  cases m.prepare base with
  | error e => rfl
  | ok prepared =>
      have hget := h.map_get prepared
      change ((c.get prepared).1.mapError MatchError.compile).map Stored.value =
        (prepared.compile decode).mapError MatchError.compile
      rw [← hget]
      cases (c.get prepared).1 <;> rfl

theorem outcomeFor (h : c.IsSound decode) (base : Option Text) (m : Mask)
    (attempt : Matcher → Except MatchError Outcome) :
    (c.outcomeFor base m attempt).2.IsSound decode := by
  have hmatcher := h.matcher base m
  unfold MatcherCache.outcomeFor
  cases hc : c.matcher base m with
  | mk found c' =>
      rw [hc] at hmatcher
      cases found <;> exact hmatcher

/-- A sound cache gives the outcome of matching. -/
theorem outcomeFor_eq (h : c.IsSound decode) (base : Option Text) (m : Mask)
    (attempt : Matcher → Except MatchError Outcome) :
    (c.outcomeFor base m attempt).1 = m.outcomeBy decode base attempt := by
  have hmatcher := h.map_matcher base m
  unfold MatcherCache.outcomeFor Mask.outcomeBy
  rw [← hmatcher]
  cases hc : c.matcher base m with
  | mk found c' => cases found <;> rfl

end IsSound

end MatcherCache

end RouteMask
