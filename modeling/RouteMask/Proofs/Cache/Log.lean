import Mathlib.Data.List.DropRight
import RouteMask.Proofs.Request.Cached

/-! # First in, first out

The log of a cache of compiled masks is the keys that it has stored since it was last cleared, oldest
first.  What the cache holds is the latest part of its log, as much as there is room for: a hit does not
move an entry, and a key that has been dropped and is stored again stands in the log twice.

* `MatcherCache.serve_cases` says all that a request can do to a cache.
* `LoggedCache.IsFirstInFirstOut` collects what is meant; `LoggedCache.IsFirstInFirstOut.serve` is one
  request, `MatcherCache.isFirstInFirstOut_make` a whole history. -/

namespace RouteMask

/-- Of the latest elements and a new one, the latest are those of all elements. -/
theorem rtake_rtake_concat {α : Type} (n : Nat) (l : List α) (a : α) :
    (l.rtake n ++ [a]).rtake n = (l ++ [a]).rtake n := by
  cases n with
  | zero => rw [List.rtake_zero, List.rtake_zero]
  | succ n =>
      have htwice : (l.rtake (n + 1)).rtake n = l.rtake n := by
        simp only [List.rtake_eq_reverse_take_reverse, List.reverse_reverse, List.take_take,
          Nat.min_eq_left (Nat.le_succ n)]
      rw [List.rtake_concat_succ, List.rtake_concat_succ, htwice]

theorem length_rtake {α : Type} (n : Nat) (l : List α) : (l.rtake n).length = min n l.length := by
  rw [List.rtake, List.length_drop]
  omega

namespace Cache

variable {κ ν : Type}

theorem keys_store (c : Cache κ ν) (k : κ) (v : ν) :
    (c.store k v).keys = (c.keys ++ [k]).rtake c.capacity := by
  simp only [store, trim, keys, List.rtake, List.map_drop, List.map_append, List.map_cons,
    List.map_nil, List.length_append, List.length_map, List.length_cons, List.length_nil]

/-- Storing a result drops at most one entry, the oldest. -/
theorem exists_kept_of_store {c : Cache κ ν} (hcapacity : 1 ≤ c.capacity)
    (hsize : c.size ≤ c.capacity) (k : κ) (v : ν) :
    ∃ oldest kept, c.entries = oldest ++ kept ∧ oldest.length ≤ 1 ∧
      (c.store k v).entries = kept ++ [(k, ⟨v, c.stores⟩)] := by
  let excess := c.entries.length + 1 - c.capacity
  have hexcess : excess ≤ 1 ∧ excess ≤ c.entries.length := by
    unfold size at hsize
    omega
  refine ⟨c.entries.take excess, c.entries.drop excess, (List.take_append_drop ..).symm, ?_, ?_⟩
  · rw [List.length_take]
    omega
  · simp only [store, trim, List.length_append, List.length_cons, List.length_nil]
    exact List.drop_append_of_le_length hexcess.2

end Cache

/-! ### Requests -/

/-- What a cache of compiled masks can be asked. -/
inductive CacheRequest where
  | get (m : Mask)
  | matcher (base : Option Text) (m : Mask)
  | outcome (base : Option Text) (m : Mask) (url : RawText)
  | clear
  | size
  | contains (m : Mask)

/-- The key that is looked up.  There is none for a mask that has no normal form. -/
def CacheRequest.key? : CacheRequest → Option Mask
  | get m => some m
  | matcher base m | outcome base m _ => (m.prepare base).toOption
  | clear | size | contains _ => none

namespace MatcherCache

/-- The cache as it is left by a request. -/
def serve (c : MatcherCache) : CacheRequest → MatcherCache
  | .get m => (c.get m).2
  | .matcher base m => (c.matcher base m).2
  | .outcome base m url => (c.outcomeRaw base m url).2
  | .clear => c.clear
  | .size | .contains _ => c

/-- The key that a request stores: one that is looked up in vain and can be compiled. -/
def stored? (c : MatcherCache) (r : CacheRequest) : Option Mask :=
  r.key?.filter fun k => (c.memo.find? k).isNone && (k.compile c.decode).isOk

variable (c : MatcherCache)

theorem get_cases (m : Mask) :
    (∃ v, c.memo.find? m = none ∧ m.compile c.decode = .ok v ∧
        (c.get m).2 = { c with memo := c.memo.store m v }) ∨
      ((c.memo.find? m).isNone && (m.compile c.decode).isOk) = false ∧ (c.get m).2 = c := by
  unfold get Cache.get
  cases hfind : c.memo.find? m with
  | some stored => exact .inr ⟨rfl, rfl⟩
  | none =>
      cases hcompile : m.compile c.decode with
      | error e => exact .inr ⟨rfl, rfl⟩
      | ok v => exact .inl ⟨v, rfl, rfl, by simp only [Cache.settle, hfind]⟩

/-- Except for clearing, a request does to the cache what asking for its key does. -/
theorem serve_eq {r : CacheRequest} (h : r ≠ .clear) :
    c.serve r = match r.key? with
      | some k => (c.get k).2
      | none => c := by
  have hmatcher : ∀ base m, (c.matcher base m).2 = match (m.prepare base).toOption with
      | some k => (c.get k).2
      | none => c := by
    intro base m
    unfold matcher
    cases m.prepare base <;> rfl
  cases r with
  | get m => rfl
  | matcher base m => exact hmatcher base m
  | outcome base m url =>
      have hsame : (c.outcomeRaw base m url).2 = (c.matcher base m).2 := by
        unfold outcomeRaw outcomeFor
        rcases c.matcher base m with ⟨e | found, c'⟩ <;> rfl
      exact hsame.trans (hmatcher base m)
  | clear => exact absurd rfl h
  | size => rfl
  | contains m => rfl

/-- What a request can do: clear the cache, store a key, or nothing. -/
theorem serve_cases (r : CacheRequest) :
    (r = .clear ∧ c.serve r = c.clear) ∨
      (∃ k v, r ≠ .clear ∧ c.stored? r = some k ∧ c.memo.find? k = none ∧
        k.compile c.decode = .ok v ∧ c.serve r = { c with memo := c.memo.store k v }) ∨
      r ≠ .clear ∧ c.stored? r = none ∧ c.serve r = c := by
  by_cases hclear : r = .clear
  · subst hclear
    exact .inl ⟨rfl, rfl⟩
  · rw [c.serve_eq hclear, stored?]
    cases r.key? with
    | none => exact .inr (.inr ⟨hclear, rfl, rfl⟩)
    | some k =>
        rcases c.get_cases k with ⟨v, hfind, hcompile, hget⟩ | ⟨hnot, hget⟩
        · refine .inr (.inl ⟨k, v, hclear, ?_, hfind, hcompile, hget⟩)
          simp only [Option.filter, hfind, hcompile]
          rfl
        · refine .inr (.inr ⟨hclear, ?_, hget⟩)
          simp only [Option.filter, hnot, Bool.false_eq_true, if_false]

end MatcherCache

/-! ### Logs -/

/-- A cache and the keys that it has stored since it was last cleared, oldest first. -/
structure LoggedCache where
  cache : MatcherCache
  log : List Mask

namespace LoggedCache

/-- The cache and its log as they are left by a request. -/
def serve (s : LoggedCache) (r : CacheRequest) : LoggedCache where
  cache := s.cache.serve r
  log := match r with
    | .clear => []
    | r => s.log ++ (s.cache.stored? r).toList

/-- The cache and its log as they are left by one request after another. -/
def serveAll (s : LoggedCache) (history : List CacheRequest) : LoggedCache :=
  history.foldl serve s

/-- The keys of the cache are the latest part of its log. -/
structure HoldsLatest (decode : Text → Text) (capacity : Nat) (s : LoggedCache) : Prop where
  sound : s.cache.IsSound decode
  capacity_eq : s.cache.memo.capacity = capacity
  keys_eq : s.cache.memo.keys = s.log.rtake capacity

variable {decode : Text → Text} {capacity : Nat} {s : LoggedCache}

theorem log_serve {r : CacheRequest} (h : r ≠ .clear) :
    (s.serve r).log = s.log ++ (s.cache.stored? r).toList := by
  cases r with
  | clear => exact absurd rfl h
  | get m => rfl
  | matcher base m => rfl
  | outcome base m url => rfl
  | size => rfl
  | contains m => rfl

namespace HoldsLatest

/-- What one request keeps. -/
theorem serve (h : HoldsLatest decode capacity s) (r : CacheRequest) :
    HoldsLatest decode capacity (s.serve r) := by
  rcases s.cache.serve_cases r with ⟨rfl, hserve⟩ | ⟨k, v, hr, hstored, hfind, hcompile, hserve⟩ |
    ⟨hr, hstored, hserve⟩
  · exact ⟨h.sound.clear, h.capacity_eq, (List.rtake_nil capacity).symm⟩
  · have hlog : (s.serve r).log = s.log ++ [k] := by rw [log_serve hr, hstored]; rfl
    have hcache : (s.serve r).cache = { s.cache with memo := s.cache.memo.store k v } := hserve
    rw [h.sound.decode_eq] at hcompile
    refine ⟨?_, ?_, ?_⟩
    · rw [hcache]
      exact ⟨h.sound.decode_eq, h.sound.memo.store hfind hcompile⟩
    · rw [hcache]
      exact h.capacity_eq
    · rw [hcache, hlog, Cache.keys_store, h.keys_eq, h.capacity_eq, rtake_rtake_concat]
  · have hlog : (s.serve r).log = s.log := by rw [log_serve hr, hstored]; exact List.append_nil _
    have hcache : (s.serve r).cache = s.cache := hserve
    exact ⟨hcache ▸ h.sound, hcache ▸ h.capacity_eq, by rw [hcache, hlog, h.keys_eq]⟩

/-- What a history keeps. -/
theorem serveAll (h : HoldsLatest decode capacity s) (history : List CacheRequest) :
    HoldsLatest decode capacity (s.serveAll history) := by
  induction history generalizing s with
  | nil => exact h
  | cons r history ih => exact ih (h.serve r)

end HoldsLatest

/-- The cache holds the latest part of its log, and only clearing and storing change what it holds. -/
structure IsFirstInFirstOut (capacity : Nat) (s : LoggedCache) : Prop where
  keys_eq : s.cache.memo.keys = s.log.rtake capacity
  nodup : (s.log.rtake capacity).Nodup
  size_eq : s.cache.memo.size = min capacity s.log.length
  contains_iff : ∀ k, s.cache.memo.contains k = true ↔ k ∈ s.log.rtake capacity
  found_iff : ∀ k, (∃ stored, s.cache.memo.find? k = some stored) ↔ k ∈ s.log.rtake capacity
  /-- What is found stays where it is. -/
  hits : ∀ r k stored, r.key? = some k → s.cache.memo.find? k = some stored →
    s.cache.serve r = s.cache
  /-- What cannot be compiled changes nothing. -/
  fails : ∀ r k e, r.key? = some k → k.compile s.cache.decode = .error e →
    s.cache.serve r = s.cache
  /-- What looks up no key changes nothing, except clearing. -/
  asks : ∀ r, r.key? = none → r ≠ .clear → s.cache.serve r = s.cache
  /-- What is stored drops at most one entry, the oldest. -/
  stores : ∀ r k, s.cache.stored? r = some k → ∃ oldest kept stored,
    s.cache.memo.entries = oldest ++ kept ∧ oldest.length ≤ 1 ∧
      (s.cache.serve r).memo.entries = kept ++ [(k, stored)]

theorem HoldsLatest.isFirstInFirstOut (hcapacity : 1 ≤ capacity)
    (h : HoldsLatest decode capacity s) : IsFirstInFirstOut capacity s := by
  have hkeys := h.keys_eq
  have hquiet : ∀ r, r ≠ .clear → s.cache.stored? r = none → s.cache.serve r = s.cache := by
    intro r hr hstored
    rcases s.cache.serve_cases r with ⟨hclear, -⟩ | ⟨k, v, -, hsome, -⟩ | ⟨-, -, hserve⟩
    · exact absurd hclear hr
    · rw [hstored] at hsome
      cases hsome
    · exact hserve
  have hclear : ∀ (r : CacheRequest) k, r.key? = some k → r ≠ .clear := by
    rintro r k hkey rfl
    cases hkey
  refine ⟨hkeys, hkeys ▸ h.sound.memo.nodup_keys, ?_, fun k => ?_, fun k => ?_, ?_, ?_, ?_, ?_⟩
  · rw [← length_rtake, ← hkeys, Cache.keys, List.length_map, Cache.size]
  · rw [Cache.contains, List.contains_iff_mem, hkeys]
  · rw [← Option.ne_none_iff_exists', Ne, Cache.find?_eq_none_iff, not_not, hkeys]
  · intro r k stored hkey hfind
    refine hquiet r (hclear r k hkey) ?_
    simp only [MatcherCache.stored?, hkey, Option.filter, hfind]
    rfl
  · intro r k e hkey hcompile
    refine hquiet r (hclear r k hkey) ?_
    simp only [MatcherCache.stored?, hkey, Option.filter, hcompile, Except.isOk, Except.toBool,
      Bool.and_false, Bool.false_eq_true, if_false]
  · intro r hkey hr
    refine hquiet r hr ?_
    simp only [MatcherCache.stored?, hkey]
    rfl
  · intro r k hstored
    rcases s.cache.serve_cases r with ⟨rfl, -⟩ | ⟨k', v, -, hsome, -, -, hserve⟩ | ⟨-, hnone, -⟩
    · cases hstored
    · obtain rfl := Option.some.inj (hstored.symm.trans hsome)
      obtain ⟨oldest, kept, hentries, hlength, hstore⟩ := Cache.exists_kept_of_store
        (h.capacity_eq ▸ hcapacity) h.sound.memo.size_le k v
      exact ⟨oldest, kept, _, hentries, hlength, by rw [hserve, hstore]⟩
    · rw [hnone] at hstored
      cases hstored

end LoggedCache

namespace MatcherCache

/-- Whatever is asked of a cache, it goes on as first in, first out. -/
theorem isFirstInFirstOut_make (decode : Text → Text) {capacity : Int} (hcapacity : 1 ≤ capacity)
    (history : List CacheRequest) :
    ∃ start, make capacity decode = .ok start ∧
      (LoggedCache.serveAll ⟨start, []⟩ history).IsFirstInFirstOut capacity.toNat := by
  refine ⟨_, make_of_pos hcapacity decode, ?_⟩
  have hstart : LoggedCache.HoldsLatest decode capacity.toNat ⟨⟨decode, .empty capacity.toNat⟩, []⟩ :=
    ⟨.empty decode _, rfl, (List.rtake_nil _).symm⟩
  exact (hstart.serveAll history).isFirstInFirstOut (by omega)

/-- A key that is found does not become newer, and a key that has been dropped is stored again; the
mask that cannot be compiled is not in the log. -/
theorem isFirstInFirstOut_make_twice :
    let history : List CacheRequest :=
      [.get (.text "/".toList), .clear, .get (.text "/a".toList), .get (.text "/b".toList),
        .get (.text "/(".toList), .get (.text "/a".toList), .contains (.text "/b".toList), .size,
        .matcher (some "/".toList) (.text "*".toList), .outcome none (.text "/a".toList) "/a".toList]
    (1 : Int) ≤ 2 ∧ ∃ start, make 2 Percent.decode = .ok start ∧
      (LoggedCache.serveAll ⟨start, []⟩ history).log =
        ["/a", "/b", "(.*)", "/a"].map (fun s => Mask.text s.toList) ∧
      (LoggedCache.serveAll ⟨start, []⟩ history).IsFirstInFirstOut 2 := by
  intro history
  obtain ⟨start, hstart, h⟩ := isFirstInFirstOut_make Percent.decode (show (1 : Int) ≤ 2 by decide) history
  refine ⟨by decide, start, hstart, ?_, h⟩
  obtain rfl := Except.ok.inj hstart
  decide +kernel

end MatcherCache

end RouteMask
