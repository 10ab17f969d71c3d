import Mathlib.Data.List.Sort
import RouteMask.Proofs.Cache.Clients
import RouteMask.Proofs.Request.Cached

/-! # The clients of a cache are linearizable

Ordered by their places, the operations that have ended are a run of the plain memo on its own: it
gives the same replies, and at every time it has come to the same cache (`Shared.IsHistory.replay_order`,
`Shared.IsHistory.replay_filter`).  So the cache is sound at all times.  A result that is stored is
found at the end of the step that stores it.

* `Shared.IsLinearizable` collects what is meant by this; `Shared.isLinearizable` proves it for every
  cache that can hold an entry, `MatcherCache.isLinearizable_make` for caches of compiled masks. -/

namespace RouteMask

/-- What is placed up to `n` is what is placed before `n`, and then what is placed at `n`. -/
theorem filter_place_succ {α : Type} {place : α → Nat} {l : List α}
    (h : l.Pairwise fun a b => place a < place b) (n : Nat) :
    l.filter (place · < n + 1) = l.filter (place · < n) ++ l.filter (place · = n) := by
  induction l with
  | nil => rfl
  | cons a l ih =>
      obtain ⟨ha, hl⟩ := List.pairwise_cons.mp h
      by_cases hlt : place a < n
      · have hup : place a < n + 1 := by omega
        have hne : ¬place a = n := by omega
        simp only [List.filter_cons, hlt, hup, hne, decide_true, decide_false, if_true, if_false,
          Bool.false_eq_true, ih hl, List.cons_append]
      · have hlater : ∀ b ∈ l, n < place b := fun b hb => by
          have := ha b hb
          omega
        have hnone : ∀ p : Nat → Bool, (∀ m, n < m → ¬p m = true) →
            l.filter (fun b => p (place b)) = [] := fun p hp =>
          List.filter_eq_nil_iff.mpr fun b hb => hp (place b) (hlater b hb)
        have hup : l.filter (place · < n + 1) = [] :=
          hnone (· < n + 1) fun m hm => by simp only [decide_eq_true_eq]; omega
        have hat : l.filter (place · = n) = [] :=
          hnone (· = n) fun m hm => by simp only [decide_eq_true_eq]; omega
        have hbefore : l.filter (place · < n) = [] :=
          hnone (· < n) fun m hm => by simp only [decide_eq_true_eq]; omega
        have hiff : place a < n + 1 ↔ place a = n := by omega
        simp only [List.filter_cons, hlt, hiff, hup, hat, hbefore, decide_false, Bool.false_eq_true,
          if_false, List.nil_append]

namespace Cache

variable {ι κ ν ε : Type}

/-- The operations that have ended, by their places. -/
def Shared.order (s : Shared ι κ ν ε) : List (Operation ι κ ν ε) :=
  s.ended.insertionSort fun op op' => op.place ≤ op'.place

theorem Shared.perm_order (s : Shared ι κ ν ε) : s.order.Perm s.ended :=
  List.perm_insertionSort _ _

theorem Shared.mem_order {s : Shared ι κ ν ε} {op : Operation ι κ ν ε} :
    op ∈ s.order ↔ op ∈ s.ended :=
  s.perm_order.mem_iff

variable [DecidableEq κ] {compute : κ → Except ε ν}

namespace Shared

namespace IsHistory

variable {past : Nat → Cache κ ν} {s : Shared ι κ ν ε}

/-- No two operations have the same place. -/
theorem pairwise_order (h : IsHistory compute past s) :
    s.order.Pairwise fun op op' => op.place < op'.place := by
  have hle : s.order.Pairwise fun op op' => op.place ≤ op'.place := by
    have : Std.Total fun op op' : Operation ι κ ν ε => op.place ≤ op'.place :=
      ⟨fun op op' => Nat.le_total _ _⟩
    have : IsTrans (Operation ι κ ν ε) fun op op' => op.place ≤ op'.place :=
      ⟨fun _ _ _ => Nat.le_trans⟩
    exact List.pairwise_insertionSort _ _
  have hne : s.order.Pairwise fun op op' => op.place ≠ op'.place :=
    (s.perm_order.pairwise_iff fun h => h.symm).mpr h.places
  exact hle.imp₂ (fun _ _ hle hne => Nat.lt_of_le_of_ne hle hne) hne

/-- The plain memo, called at the places before `n`, gives the replies of the operations there and
comes to the cache of time `n`. -/
theorem replay_filter (h : IsHistory compute past s) {n : Nat} (hn : n ≤ s.time) :
    (past 0).replay compute ((s.order.filter (·.place < n)).map (·.request)) =
      ((s.order.filter (·.place < n)).map (·.reply), past n) := by
  induction n with
  | zero => simp [replay]
  | succ n ih =>
      have hsplit : s.order.filter (·.place < n + 1) =
          s.order.filter (·.place < n) ++ s.order.filter (·.place = n) :=
        filter_place_succ h.pairwise_order n
      rw [hsplit, List.map_append, List.map_append, replay_append, ih (Nat.le_of_succ_le hn)]
      rcases hat : s.order.filter (·.place = n) with _ | ⟨op, _ | ⟨op', rest⟩⟩
      · -- Nothing takes place at time `n`.
        have hquiet : past (n + 1) = past n := by
          apply h.quiet n hn
          intro op hop hplace
          simpa [hplace] using List.filter_eq_nil_iff.mp hat op (mem_order.mpr hop)
        simp [replay, hat, hquiet]
      · have hop : op ∈ s.order.filter (·.place = n) := hat ▸ List.mem_singleton_self op
        obtain ⟨hop, hplace⟩ := List.mem_filter.mp hop
        have hreply := h.replies op (mem_order.mp hop)
        rw [of_decide_eq_true hplace] at hreply
        simp [replay, hat, hreply]
      · -- Two operations cannot both have this place.
        have htwo := h.pairwise_order.filter (·.place = n)
        rw [hat] at htwo
        have hmem : ∀ o ∈ op :: op' :: rest, o.place = n := by
          intro o ho
          rw [← hat] at ho
          exact of_decide_eq_true (List.mem_filter.mp ho).2
        have hlt := (List.pairwise_cons.mp htwo).1 op' (List.mem_cons_self ..)
        rw [hmem op (by simp), hmem op' (by simp)] at hlt
        exact absurd hlt (Nat.lt_irrefl n)

/-- All operations together. -/
theorem replay_order (h : IsHistory compute past s) :
    (past 0).replay compute (s.order.map (·.request)) = (s.order.map (·.reply), s.cache) := by
  have hall : s.order.filter (·.place < s.time) = s.order := by
    apply List.filter_eq_self.mpr
    intro op hop
    obtain ⟨-, hle, hlt⟩ := h.times op (mem_order.mp hop)
    exact decide_eq_true (Nat.lt_of_le_of_lt hle hlt)
  have hreplay := h.replay_filter (Nat.le_refl s.time)
  rwa [hall, h.now] at hreplay

end IsHistory

variable [DecidableEq ι] (compute)

/-- What clients of a cache see along a schedule, and what holds of the cache then. -/
structure IsLinearizable (c : Cache κ ν) (schedule : List (ι × Call κ)) : Prop where
  perm : (run compute c schedule).order.Perm (run compute c schedule).ended
  ordered : (run compute c schedule).order.Pairwise fun op op' => op.place < op'.place
  times : ∀ op ∈ (run compute c schedule).order, op.EndsBefore schedule.length
  /-- The plain memo gives the same replies. -/
  replies : (c.replay compute ((run compute c schedule).order.map (·.request))).1 =
    (run compute c schedule).order.map (·.reply)
  /-- The plain memo has the same entries after every step. -/
  caches : ∀ n ≤ schedule.length,
    (c.replay compute
      (((run compute c schedule).order.filter (·.place < n)).map (·.request))).2 =
      (run compute c (schedule.take n)).cache
  sound : (run compute c schedule).cache.IsSound compute
  size_le : (run compute c schedule).cache.size ≤ c.capacity
  /-- A request that fails ends where it looked up, and changes nothing. -/
  fails : ∀ i call k looked e, (run compute c schedule).phase i = .computing k looked →
    compute k = .error e →
    (run compute c schedule).step compute i call =
      (run compute c schedule).finish
        ⟨i, .get k, .found (.error e), looked, looked, schedule.length⟩
        (run compute c schedule).cache
  /-- A request that computed what has been stored meanwhile gives what is stored. -/
  needless : ∀ i call k looked v stored, (run compute c schedule).phase i = .settling k looked v →
    (run compute c schedule).cache.find? k = some stored →
    (run compute c schedule).step compute i call =
      (run compute c schedule).finish
        ⟨i, .get k, .found (.ok stored), looked, schedule.length, schedule.length⟩
        (run compute c schedule).cache
  /-- What a request gives after storing it is found at the end of that step. -/
  stores : ∀ i call k looked v, (run compute c schedule).phase i = .settling k looked v →
    (run compute c schedule).cache.find? k = none →
    ∃ stored cache, stored.value = v ∧ cache.find? k = some stored ∧
      (run compute c schedule).step compute i call =
        (run compute c schedule).finish
          ⟨i, .get k, .found (.ok stored), looked, schedule.length, schedule.length⟩ cache

theorem isLinearizable {c : Cache κ ν} (hc : c.IsSound compute) (hcapacity : 1 ≤ c.capacity)
    (schedule : List (ι × Call κ)) : IsLinearizable compute c schedule := by
  have h := isHistory_run compute c schedule
  have htime := time_run compute c schedule
  have hcache : (run compute c schedule).cache =
      (c.replay compute ((run compute c schedule).order.map (·.request))).2 :=
    (congrArg Prod.snd h.replay_order).symm
  have hkept : (run compute c schedule).cache.capacity = c.capacity := by
    rw [hcache, capacity_replay]
  have hsound : (run compute c schedule).cache.IsSound compute := by
    rw [hcache]
    exact hc.replay _
  refine ⟨perm_order _, h.pairwise_order, ?_, congrArg Prod.fst h.replay_order, ?_, hsound,
    hkept ▸ hsound.size_le, ?_, ?_, ?_⟩
  · intro op hop
    exact htime ▸ h.times op (mem_order.mp hop)
  · intro n hn
    exact congrArg Prod.snd (h.replay_filter (htime ▸ hn))
  · intro i call k looked e hphase he
    simp only [step, hphase, he, htime]
  · intro i call k looked v stored hphase hfind
    simp only [step, hphase, settle, hfind, htime]
  · intro i call k looked v hphase hfind
    refine ⟨_, _, rfl, find?_store (hkept ▸ hcapacity) hfind v, ?_⟩
    simp only [step, hphase, settle, hfind, htime]

end Shared

end Cache

/-- Caches of compiled masks are linearizable, whoever uses them in whatever order. -/
theorem MatcherCache.isLinearizable_make {ι : Type} [DecidableEq ι] (decode : Text → Text)
    {capacity : Int} (hcapacity : 1 ≤ capacity) (schedule : List (ι × Cache.Call Mask)) :
    MatcherCache.make capacity decode = .ok ⟨decode, .empty capacity.toNat⟩ ∧
      Cache.Shared.IsLinearizable (Mask.compile decode) (.empty capacity.toNat) schedule := by
  constructor
  · exact MatcherCache.make_of_pos hcapacity decode
  · apply Cache.Shared.isLinearizable _ (Cache.IsSound.empty _ _)
    simp only [Cache.empty]
    omega

/-- Two clients look up the same mask before either of them has stored it. -/
def MatcherCache.race : List (Bool × Cache.Call Mask) :=
  let request := Cache.Call.get (.text "/a".toList)
  [(true, request), (false, request), (true, request), (false, request), (true, request),
    (false, request)]

theorem MatcherCache.isLinearizable_make_race :
    (1 : Int) ≤ 1 ∧
      MatcherCache.make 1 Percent.decode = .ok ⟨Percent.decode, .empty 1⟩ ∧
      Cache.Shared.IsLinearizable (Mask.compile Percent.decode) (.empty 1) race ∧
      (Cache.Shared.run (Mask.compile Percent.decode) (.empty 1) race).order.map
        (fun op => (op.client, op.place)) = [(true, 4), (false, 5)] := by
  have h := MatcherCache.isLinearizable_make Percent.decode (Int.le_refl 1) race
  exact ⟨Int.le_refl 1, h.1, h.2, by decide +kernel⟩

end RouteMask
