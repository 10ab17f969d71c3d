import RouteMask.Cache

/-! # The plain memo

What a cache does, said without look-ups and settlements: `Cache.respond` carries a call out at once.
A stored result is given and nothing changes; otherwise the result is computed and becomes the newest
entry, and the oldest entries go as long as there are too many; a failure changes nothing.

* `Cache.respond_get`, `Cache.respond_settle`: requests and settlements are such calls.
* `Cache.IsSound`: every key is stored once, with what is computed for it, and there are not too many.
  All calls keep this (`Cache.IsSound.respond`), and a sound cache gives what is computed
  (`Cache.IsSound.map_get`). -/

namespace RouteMask

/-- Without the oldest entries, as long as there are more than `capacity`. -/
def evict {α : Type} (capacity : Nat) : List α → List α
  | [] => []
  | e :: rest => if capacity < (e :: rest).length then evict capacity rest else e :: rest

theorem evict_eq_drop {α : Type} (capacity : Nat) (entries : List α) :
    evict capacity entries = entries.drop (entries.length - capacity) := by
  induction entries with
  | nil => simp [evict]
  | cons e rest ih =>
      rw [evict]
      split
      · next h =>
          rw [List.length_cons] at h ⊢
          rw [ih, show rest.length + 1 - capacity = rest.length - capacity + 1 by omega,
            List.drop_succ_cons]
      · next h => rw [show (e :: rest).length - capacity = 0 by omega, List.drop_zero]

namespace Cache

/-- What a client asks of a cache. -/
inductive Call (κ : Type) where
  | get (k : κ)
  | clear
  | size
  | contains (k : κ)
deriving DecidableEq

/-- What a client is told. -/
inductive Reply (ν ε : Type) where
  | found (result : Except ε (Stored ν))
  | cleared
  | size (n : Nat)
  | contains (b : Bool)

variable {κ ν ε : Type}

theorem store_eq (c : Cache κ ν) (k : κ) (v : ν) :
    c.store k v =
      ⟨c.capacity, evict c.capacity (c.entries ++ [(k, ⟨v, c.stores⟩)]), c.stores + 1⟩ := by
  rw [evict_eq_drop]
  rfl

/-- Every key is stored once, with what is computed for it, and there are not too many entries. -/
structure IsSound (compute : κ → Except ε ν) (c : Cache κ ν) : Prop where
  nodup_keys : c.keys.Nodup
  size_le : c.size ≤ c.capacity
  computed : ∀ e ∈ c.entries, compute e.1 = .ok e.2.value

theorem IsSound.empty (compute : κ → Except ε ν) (capacity : Nat) :
    IsSound compute (Cache.empty capacity : Cache κ ν) :=
  ⟨List.nodup_nil, Nat.zero_le _, by simp [Cache.empty]⟩

theorem IsSound.clear (compute : κ → Except ε ν) (c : Cache κ ν) : IsSound compute c.clear :=
  ⟨List.nodup_nil, Nat.zero_le _, by simp [Cache.clear]⟩

variable [DecidableEq κ]

/-- The plain memo: the reply to a call, and the cache after it. -/
def respond (compute : κ → Except ε ν) (c : Cache κ ν) : Call κ → Reply ν ε × Cache κ ν
  | .get k =>
    match c.entries.lookup k with
    | some stored => (.found (.ok stored), c)
    | none =>
      match compute k with
      | .ok v =>
        (.found (.ok ⟨v, c.stores⟩),
          ⟨c.capacity, evict c.capacity (c.entries ++ [(k, ⟨v, c.stores⟩)]), c.stores + 1⟩)
      | .error e => (.found (.error e), c)
  | .clear => (.cleared, ⟨c.capacity, [], c.stores⟩)
  | .size => (.size c.entries.length, c)
  | .contains k => (.contains (decide (k ∈ c.entries.map Prod.fst)), c)

/-- The plain memo, call after call. -/
def replay (compute : κ → Except ε ν) (c : Cache κ ν) :
    List (Call κ) → List (Reply ν ε) × Cache κ ν
  | [] => ([], c)
  | call :: calls =>
    ((c.respond compute call).1 :: (replay compute (c.respond compute call).2 calls).1,
      (replay compute (c.respond compute call).2 calls).2)

theorem replay_append (compute : κ → Except ε ν) (c : Cache κ ν) (calls more : List (Call κ)) :
    c.replay compute (calls ++ more) =
      ((c.replay compute calls).1 ++ ((c.replay compute calls).2.replay compute more).1,
        ((c.replay compute calls).2.replay compute more).2) := by
  induction calls generalizing c with
  | nil => rfl
  | cons call calls ih => simp only [List.cons_append, replay, ih]

/-! ### Look-ups and settlements are calls -/

theorem respond_hit (compute : κ → Except ε ν) {c : Cache κ ν} {k : κ} {stored : Stored ν}
    (h : c.find? k = some stored) : c.respond compute (.get k) = (.found (.ok stored), c) := by
  unfold find? at h
  simp only [respond, h]

theorem respond_fail {compute : κ → Except ε ν} {c : Cache κ ν} {k : κ} {e : ε}
    (h : c.find? k = none) (he : compute k = .error e) :
    c.respond compute (.get k) = (.found (.error e), c) := by
  unfold find? at h
  simp only [respond, h, he]

theorem respond_store {compute : κ → Except ε ν} {c : Cache κ ν} {k : κ} {v : ν}
    (h : c.find? k = none) (hv : compute k = .ok v) :
    c.respond compute (.get k) = (.found (.ok ⟨v, c.stores⟩), c.store k v) := by
  unfold find? at h
  simp only [respond, h, hv, store_eq]

/-- A settlement with what is computed for the key is a whole request. -/
theorem respond_settle {compute : κ → Except ε ν} {k : κ} {v : ν} (hv : compute k = .ok v)
    (c : Cache κ ν) :
    c.respond compute (.get k) = (.found (.ok (c.settle k v).1), (c.settle k v).2) := by
  cases h : c.find? k with
  | some stored => simp only [respond_hit compute h, settle, h]
  | none => simp only [respond_store h hv, settle, h]

theorem respond_get (compute : κ → Except ε ν) (c : Cache κ ν) (k : κ) :
    c.respond compute (.get k) = (.found (c.get compute k).1, (c.get compute k).2) := by
  cases h : c.find? k with
  | some stored => simp only [respond_hit compute h, get, h]
  | none =>
      cases hv : compute k with
      | ok v => simp only [respond_settle hv, get, h, hv]
      | error e => simp only [respond_fail h hv, get, h, hv]

/-! ### What holds at all times -/

theorem capacity_respond (compute : κ → Except ε ν) (c : Cache κ ν) (call : Call κ) :
    (c.respond compute call).2.capacity = c.capacity := by
  cases call with
  | get k =>
      unfold respond
      dsimp only
      split
      · rfl
      · split <;> rfl
  | clear => rfl
  | size => rfl
  | contains k => rfl

theorem capacity_replay (compute : κ → Except ε ν) (c : Cache κ ν) (calls : List (Call κ)) :
    (c.replay compute calls).2.capacity = c.capacity := by
  induction calls generalizing c with
  | nil => rfl
  | cons call calls ih => rw [replay, ih, capacity_respond]

theorem mem_of_find? {c : Cache κ ν} {k : κ} {stored : Stored ν} (h : c.find? k = some stored) :
    (k, stored) ∈ c.entries := by
  obtain ⟨before, after, hentries, -⟩ := List.lookup_eq_some_iff.mp h
  simp [hentries]

theorem find?_eq_none_iff {c : Cache κ ν} {k : κ} : c.find? k = none ↔ k ∉ c.keys := by
  unfold find? keys
  rw [List.lookup_eq_none_iff]
  constructor
  · rintro h hk
    obtain ⟨e, he, rfl⟩ := List.mem_map.mp hk
    simpa using h e he
  · intro h e he
    rw [bne_iff_ne]
    rintro rfl
    exact h (List.mem_map.mpr ⟨e, he, rfl⟩)

/-- What a newly stored key is looked up as. -/
theorem find?_store {c : Cache κ ν} (hcapacity : 1 ≤ c.capacity) {k : κ} (h : c.find? k = none)
    (v : ν) : (c.store k v).find? k = some ⟨v, c.stores⟩ := by
  have hlen : (c.entries ++ [(k, (⟨v, c.stores⟩ : Stored ν))]).length - c.capacity ≤
      c.entries.length := by
    simp only [List.length_append, List.length_singleton]
    omega
  have hdropped : (c.entries.drop ((c.entries ++ [(k, (⟨v, c.stores⟩ : Stored ν))]).length -
      c.capacity)).lookup k = none := by
    rw [find?, List.lookup_eq_none_iff] at h
    exact List.lookup_eq_none_iff.mpr fun e he => h e (List.mem_of_mem_drop he)
  rw [store_eq, evict_eq_drop, List.drop_append_of_le_length hlen, find?, List.lookup_append,
    hdropped]
  simp

namespace IsSound

variable {compute : κ → Except ε ν} {c : Cache κ ν}

theorem store (h : c.IsSound compute) {k : κ} {v : ν} (hk : c.find? k = none)
    (hv : compute k = .ok v) : (c.store k v).IsSound compute := by
  let entries := c.entries ++ [(k, (⟨v, c.stores⟩ : Stored ν))]
  have hentries : (c.store k v).entries = entries.drop (entries.length - c.capacity) := rfl
  refine ⟨?_, ?_, ?_⟩
  · have hnodup : (entries.map Prod.fst).Nodup := by
      have hnew := find?_eq_none_iff.mp hk
      have hold := h.nodup_keys
      unfold keys at hnew hold
      simp only [entries, List.map_append, List.map_singleton]
      rw [List.nodup_append]
      refine ⟨hold, List.pairwise_singleton _ _, ?_⟩
      rintro a ha b hb rfl
      rw [List.mem_singleton] at hb
      exact hnew (hb ▸ ha)
    rw [keys, hentries, List.map_drop]
    exact hnodup.sublist (List.drop_sublist _ _)
  · have hcapacity : (c.store k v).capacity = c.capacity := rfl
    rw [size, hentries, hcapacity, List.length_drop]
    omega
  · intro e he
    rw [hentries] at he
    rcases List.mem_append.mp (List.mem_of_mem_drop he) with he | he
    · exact h.computed e he
    · obtain rfl := List.mem_singleton.mp he
      exact hv

theorem settle (h : c.IsSound compute) {k : κ} {v : ν} (hv : compute k = .ok v) :
    (c.settle k v).2.IsSound compute := by
  unfold Cache.settle
  split
  · exact h
  · next hk => exact h.store hk hv

theorem get (h : c.IsSound compute) (k : κ) : (c.get compute k).2.IsSound compute := by
  unfold Cache.get
  split
  · exact h
  · split
    · next hv => exact h.settle hv
    · exact h

/-- Every call keeps a cache sound. -/
theorem respond (h : c.IsSound compute) (call : Call κ) :
    (c.respond compute call).2.IsSound compute := by
  cases call with
  | get k =>
      rw [respond_get]
      exact h.get k
  | clear => exact clear compute c
  | size => exact h
  | contains k => exact h

theorem replay (h : c.IsSound compute) (calls : List (Call κ)) :
    (c.replay compute calls).2.IsSound compute := by
  induction calls generalizing c with
  | nil => exact h
  | cons call calls ih => exact ih (h.respond call)

/-- A sound cache gives what is computed for the key. -/
theorem map_get (h : c.IsSound compute) (k : κ) :
    (c.get compute k).1.map Stored.value = compute k := by
  cases hk : c.find? k with
  | some stored =>
      have hvalue := h.computed _ (mem_of_find? hk)
      simp only [Cache.get, hk, hvalue]
      rfl
  | none =>
      cases hv : compute k with
      | ok v =>
          simp only [Cache.get, hk, hv, Cache.settle]
          rfl
      | error e =>
          simp only [Cache.get, hk, hv]
          rfl

end IsSound

end Cache

end RouteMask
