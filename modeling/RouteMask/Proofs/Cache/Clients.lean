import Mathlib.Logic.Function.Basic
import RouteMask.Proofs.Cache.Memo

/-! # Clients of one cache

Several clients share a cache.  A request for a key takes up to three steps of its client: a look-up,
the computation, and a settlement.  The look-up and the settlement touch the cache, and the other
clients may take any steps between them.  All other calls are one step.

`Shared.step` is the next step of one client, and `Shared.run` is a run along a schedule, which says
for every time whose step it is.  An operation is placed at the last of its steps that touches the
cache; so a request that fails is placed at its look-up, though it ends later.

* `Shared.IsHistory`: at its place, every operation that has ended was the call of a plain memo, and
  between those places the cache did not change.  `Shared.IsHistory.step` is one step,
  `Shared.isHistory_run` a whole run.
* `Shared.exists_run_getAround`: a request that runs while another one is computing is such a run. -/

namespace RouteMask.Cache

/-- What a client is doing. -/
inductive Phase (κ ν : Type) where
  | idle
  /-- The key was looked up in vain at time `looked`. -/
  | computing (k : κ) (looked : Nat)
  /-- The result has been computed. -/
  | settling (k : κ) (looked : Nat) (v : ν)

/-- A call that has been answered. -/
structure Operation (ι κ ν ε : Type) where
  client : ι
  request : Call κ
  reply : Reply ν ε
  began : Nat
  /-- The time of its last step that touched the cache. -/
  place : Nat
  finished : Nat

/-- It began, took place and finished in this order, before the given time. -/
def Operation.EndsBefore {ι κ ν ε : Type} (op : Operation ι κ ν ε) (time : Nat) : Prop :=
  op.began ≤ op.place ∧ op.place ≤ op.finished ∧ op.finished < time

/-- A cache and its clients. -/
structure Shared (ι κ ν ε : Type) where
  cache : Cache κ ν
  phase : ι → Phase κ ν
  time : Nat
  /-- The operations that have ended, latest first. -/
  ended : List (Operation ι κ ν ε)

namespace Shared

variable {ι κ ν ε : Type}

/-- Nobody has done anything yet. -/
def start (c : Cache κ ν) : Shared ι κ ν ε :=
  ⟨c, fun _ => .idle, 0, []⟩

variable [DecidableEq ι]

/-- A step after which a client goes on with its call. -/
def proceed (s : Shared ι κ ν ε) (i : ι) (phase : Phase κ ν) : Shared ι κ ν ε :=
  { s with phase := Function.update s.phase i phase, time := s.time + 1 }

/-- The last step of an operation. -/
def finish (s : Shared ι κ ν ε) (op : Operation ι κ ν ε) (cache : Cache κ ν) : Shared ι κ ν ε :=
  { cache := cache
    phase := Function.update s.phase op.client .idle
    time := s.time + 1
    ended := op :: s.ended }

/-- A call that takes one step. -/
def serve (s : Shared ι κ ν ε) (i : ι) (request : Call κ) (reply : Reply ν ε) (cache : Cache κ ν) :
    Shared ι κ ν ε :=
  s.finish ⟨i, request, reply, s.time, s.time, s.time⟩ cache

variable [DecidableEq κ] (compute : κ → Except ε ν)

/-- The next step of client `i`, who makes the given call if it is idle. -/
def step (s : Shared ι κ ν ε) (i : ι) (call : Call κ) : Shared ι κ ν ε :=
  match s.phase i with
  | .idle =>
    match call with
    | .get k =>
      match s.cache.find? k with
      | some stored => s.serve i (.get k) (.found (.ok stored)) s.cache
      | none => s.proceed i (.computing k s.time)
    | .clear => s.serve i .clear .cleared s.cache.clear
    | .size => s.serve i .size (.size s.cache.size) s.cache
    | .contains k => s.serve i (.contains k) (.contains (s.cache.contains k)) s.cache
  | .computing k looked =>
    match compute k with
    | .ok v => s.proceed i (.settling k looked v)
    | .error e => s.finish ⟨i, .get k, .found (.error e), looked, looked, s.time⟩ s.cache
  | .settling k looked v =>
    s.finish ⟨i, .get k, .found (.ok (s.cache.settle k v).1), looked, s.time, s.time⟩
      (s.cache.settle k v).2

/-- The run along a schedule. -/
def run (c : Cache κ ν) (schedule : List (ι × Call κ)) : Shared ι κ ν ε :=
  schedule.foldl (fun s next => s.step compute next.1 next.2) (start c)

theorem run_concat (c : Cache κ ν) (schedule : List (ι × Call κ)) (next : ι × Call κ) :
    run compute c (schedule ++ [next]) = (run compute c schedule).step compute next.1 next.2 := by
  simp [run]

theorem time_step (s : Shared ι κ ν ε) (i : ι) (call : Call κ) :
    (s.step compute i call).time = s.time + 1 := by
  unfold step
  cases s.phase i with
  | idle =>
      cases call with
      | get k =>
          dsimp only
          cases s.cache.find? k <;> rfl
      | clear => rfl
      | size => rfl
      | contains k => rfl
  | computing k looked =>
      dsimp only
      cases compute k <;> rfl
  | settling k looked v => rfl

/-- `past` tells what the cache was at all times up to now. -/
structure IsHistory (past : Nat → Cache κ ν) (s : Shared ι κ ν ε) : Prop where
  now : past s.time = s.cache
  times : ∀ op ∈ s.ended, op.EndsBefore s.time
  replies : ∀ op ∈ s.ended,
    (past op.place).respond compute op.request = (op.reply, past (op.place + 1))
  quiet : ∀ n < s.time, (∀ op ∈ s.ended, op.place ≠ n) → past (n + 1) = past n
  places : s.ended.Pairwise fun op op' => op.place ≠ op'.place
  computing : ∀ i k looked, s.phase i = .computing k looked →
    looked < s.time ∧ (past looked).find? k = none ∧ ∀ op ∈ s.ended, op.place ≠ looked
  apart : ∀ i j k l looked,
    s.phase i = .computing k looked → s.phase j = .computing l looked → i = j
  settling : ∀ i k looked v, s.phase i = .settling k looked v → looked < s.time ∧ compute k = .ok v

namespace IsHistory

variable {compute} {past : Nat → Cache κ ν} {s : Shared ι κ ν ε}

omit [DecidableEq ι] in
theorem start {c : Cache κ ν} (h : past 0 = c) :
    IsHistory compute past (Shared.start c : Shared ι κ ν ε) := by
  constructor <;> simp [Shared.start, h]

/-- A step that leaves the cache as it is and ends no operation. -/
theorem proceed (h : IsHistory compute past s) (hpast : past (s.time + 1) = s.cache) (i : ι)
    (phase : Phase κ ν)
    (hcomputing : ∀ k looked, phase = .computing k looked →
      looked = s.time ∧ s.cache.find? k = none)
    (hsettling : ∀ k looked v, phase = .settling k looked v →
      looked < s.time ∧ compute k = .ok v) :
    IsHistory compute past (s.proceed i phase) where
  now := hpast
  times op hop := by
    obtain ⟨hbegan, hplace, hfinished⟩ := h.times op hop
    exact ⟨hbegan, hplace, Nat.lt_succ_of_lt hfinished⟩
  replies := h.replies
  quiet n hn hnone := by
    rcases Nat.lt_succ_iff_lt_or_eq.mp hn with hn | rfl
    · exact h.quiet n hn hnone
    · rw [hpast, h.now]
  places := h.places
  computing j k looked hj := by
    by_cases hji : j = i
    · subst hji
      obtain ⟨rfl, hfind⟩ := hcomputing k looked (by simpa [Shared.proceed] using hj)
      rw [← h.now] at hfind
      refine ⟨Nat.lt_succ_self _, hfind, fun op hop hplace => ?_⟩
      obtain ⟨-, hle, hlt⟩ := h.times op hop
      omega
    · obtain ⟨hlt, hfind, hplaces⟩ := h.computing j k looked (by simpa [Shared.proceed, hji] using hj)
      exact ⟨Nat.lt_succ_of_lt hlt, hfind, hplaces⟩
  apart j j' k l looked hj hj' := by
    -- A look-up at this time is the first one at this time.
    have hfirst : ∀ a b k l, a = i → b ≠ i → (s.proceed i phase).phase a = .computing k looked →
        (s.proceed i phase).phase b = .computing l looked → False := by
      rintro a b k l rfl hb ha hlooked
      obtain ⟨rfl, -⟩ := hcomputing k looked (by simpa [Shared.proceed] using ha)
      have hlt := (h.computing b l s.time (by simpa [Shared.proceed, hb] using hlooked)).1
      omega
    by_cases hji : j = i
    · by_cases hji' : j' = i
      · rw [hji, hji']
      · exact (hfirst j j' k l hji hji' hj hj').elim
    · by_cases hji' : j' = i
      · exact (hfirst j' j l k hji' hji hj' hj).elim
      · exact h.apart j j' k l looked (by simpa [Shared.proceed, hji] using hj)
          (by simpa [Shared.proceed, hji'] using hj')
  settling j k looked v hj := by
    by_cases hji : j = i
    · subst hji
      obtain ⟨hlt, hv⟩ := hsettling k looked v (by simpa [Shared.proceed] using hj)
      exact ⟨Nat.lt_succ_of_lt hlt, hv⟩
    · obtain ⟨hlt, hv⟩ := h.settling j k looked v (by simpa [Shared.proceed, hji] using hj)
      exact ⟨Nat.lt_succ_of_lt hlt, hv⟩

/-- The last step of an operation, which is placed now or, if the step leaves the cache as it is,
earlier. -/
theorem finish (h : IsHistory compute past s) {op : Operation ι κ ν ε} {cache : Cache κ ν}
    (hpast : past (s.time + 1) = cache)
    (hbegan : op.began ≤ op.place) (hplace : op.place ≤ s.time) (hfinished : op.finished = s.time)
    (hnow : op.place = s.time ∨ cache = s.cache)
    (hreply : (past op.place).respond compute op.request = (op.reply, past (op.place + 1)))
    (hnew : ∀ op' ∈ s.ended, op.place ≠ op'.place)
    (hothers : ∀ j k, j ≠ op.client → s.phase j ≠ .computing k op.place) :
    IsHistory compute past (s.finish op cache) where
  now := hpast
  times op' hop' := by
    rcases List.mem_cons.mp hop' with rfl | hop'
    · exact ⟨hbegan, hfinished ▸ hplace, hfinished ▸ Nat.lt_succ_self _⟩
    · obtain ⟨hbegan, hplace, hfinished⟩ := h.times op' hop'
      exact ⟨hbegan, hplace, Nat.lt_succ_of_lt hfinished⟩
  replies op' hop' := by
    rcases List.mem_cons.mp hop' with rfl | hop'
    · exact hreply
    · exact h.replies op' hop'
  quiet n hn hnone := by
    rcases Nat.lt_succ_iff_lt_or_eq.mp hn with hn | rfl
    · exact h.quiet n hn fun op' hop' => hnone op' (List.mem_cons_of_mem _ hop')
    · rcases hnow with heq | rfl
      · exact absurd heq (hnone op (List.mem_cons_self ..))
      · rw [hpast, h.now]
  places := List.pairwise_cons.mpr ⟨hnew, h.places⟩
  computing j k looked hj := by
    by_cases hji : j = op.client
    · simp [Shared.finish, hji] at hj
    · have hphase : s.phase j = .computing k looked := by simpa [Shared.finish, hji] using hj
      obtain ⟨hlt, hfind, hplaces⟩ := h.computing j k looked hphase
      refine ⟨Nat.lt_succ_of_lt hlt, hfind, fun op' hop' => ?_⟩
      rcases List.mem_cons.mp hop' with rfl | hop'
      · rintro rfl
        exact hothers j k hji hphase
      · exact hplaces op' hop'
  apart j j' k l looked hj hj' := by
    by_cases hji : j = op.client
    · simp [Shared.finish, hji] at hj
    · by_cases hji' : j' = op.client
      · simp [Shared.finish, hji'] at hj'
      · exact h.apart j j' k l looked (by simpa [Shared.finish, hji] using hj)
          (by simpa [Shared.finish, hji'] using hj')
  settling j k looked v hj := by
    by_cases hji : j = op.client
    · simp [Shared.finish, hji] at hj
    · obtain ⟨hlt, hv⟩ := h.settling j k looked v (by simpa [Shared.finish, hji] using hj)
      exact ⟨Nat.lt_succ_of_lt hlt, hv⟩

/-- The last step of an operation that touches the cache in this step. -/
theorem finish_now (h : IsHistory compute past s) {i : ι} {request : Call κ} {reply : Reply ν ε}
    {began : Nat} {cache : Cache κ ν} (hpast : past (s.time + 1) = cache) (hbegan : began ≤ s.time)
    (hreply : s.cache.respond compute request = (reply, cache)) :
    IsHistory compute past (s.finish ⟨i, request, reply, began, s.time, s.time⟩ cache) := by
  apply h.finish hpast hbegan (Nat.le_refl _) rfl (.inl rfl)
  · rw [h.now, hpast, hreply]
  · intro op hop hplace
    obtain ⟨-, hle, hlt⟩ := h.times op hop
    dsimp only at hplace
    omega
  · intro j k _ hphase
    exact Nat.lt_irrefl _ (h.computing j k s.time hphase).1

/-- The last step of a request that fails. -/
theorem fail (h : IsHistory compute past s) {i : ι} {k : κ} {looked : Nat} {e : ε}
    (hpast : past (s.time + 1) = s.cache) (hphase : s.phase i = .computing k looked)
    (he : compute k = .error e) :
    IsHistory compute past
      (s.finish ⟨i, .get k, .found (.error e), looked, looked, s.time⟩ s.cache) := by
  obtain ⟨hlt, hfind, hplaces⟩ := h.computing i k looked hphase
  apply h.finish hpast (Nat.le_refl _) (Nat.le_of_lt hlt) rfl (.inr rfl)
  · rw [respond_fail hfind he, h.quiet looked hlt hplaces]
  · exact fun op hop hplace => hplaces op hop hplace.symm
  · intro j l hj hphase'
    exact hj (h.apart j i l k looked hphase' hphase)

/-- What one step of a client keeps. -/
theorem step (h : IsHistory compute past s) (i : ι) (call : Call κ)
    (hpast : past (s.time + 1) = (s.step compute i call).cache) :
    IsHistory compute past (s.step compute i call) := by
  revert hpast
  unfold Shared.step
  cases hphase : s.phase i with
  | idle =>
      cases call with
      | get k =>
          dsimp only
          cases hfind : s.cache.find? k with
          | some stored =>
              exact fun hpast => h.finish_now hpast (Nat.le_refl _) (respond_hit compute hfind)
          | none =>
              refine fun hpast => h.proceed hpast i _ ?_ (by simp)
              rintro k' looked ⟨⟩
              exact ⟨rfl, hfind⟩
      | clear => exact fun hpast => h.finish_now hpast (Nat.le_refl _) rfl
      | size => exact fun hpast => h.finish_now hpast (Nat.le_refl _) rfl
      | contains k =>
          refine fun hpast => h.finish_now hpast (Nat.le_refl _) ?_
          simp only [respond, contains, keys, List.contains_eq_mem]
  | computing k looked =>
      dsimp only
      cases hv : compute k with
      | ok v =>
          refine fun hpast => h.proceed hpast i _ (by simp) ?_
          rintro k' looked' v' ⟨⟩
          exact ⟨(h.computing i k looked hphase).1, hv⟩
      | error e => exact fun hpast => h.fail hpast hphase hv
  | settling k looked v =>
      obtain ⟨hlt, hv⟩ := h.settling i k looked v hphase
      exact fun hpast => h.finish_now hpast (Nat.le_of_lt hlt) (respond_settle hv s.cache)

end IsHistory

theorem time_run (c : Cache κ ν) (schedule : List (ι × Call κ)) :
    (run compute c schedule).time = schedule.length := by
  suffices h : ∀ s : Shared ι κ ν ε,
      (schedule.foldl (fun s next => s.step compute next.1 next.2) s).time =
        s.time + schedule.length by
    simpa [run, start] using h (start c)
  induction schedule with
  | nil => intro s; rfl
  | cons next schedule ih =>
      intro s
      rw [List.foldl_cons, ih, time_step, List.length_cons]
      omega

/-- What a whole run keeps: the caches of its beginnings are its history. -/
theorem isHistory_run (c : Cache κ ν) (schedule : List (ι × Call κ)) :
    IsHistory compute (fun n => (run compute c (schedule.take n)).cache)
      (run compute c schedule) := by
  suffices h : ∀ n ≤ schedule.length,
      IsHistory compute (fun n => (run compute c (schedule.take n)).cache)
        (run compute c (schedule.take n)) by
    simpa using h schedule.length (Nat.le_refl _)
  intro n
  induction n with
  | zero => exact fun _ => IsHistory.start rfl
  | succ n ih =>
      intro hn
      have htake : schedule.take (n + 1) = schedule.take n ++ [schedule[n]] :=
        (List.take_append_getElem hn).symm
      rw [htake, run_concat]
      apply (ih (Nat.le_of_succ_le hn)).step
      rw [time_run, List.length_take, Nat.min_eq_left (Nat.le_of_succ_le hn)]
      rw [htake, run_concat]

/-- Two clients ask for the same key.  Unless it is found at once, client `j` asks and is answered while
client `i` is computing. -/
theorem exists_run_getAround {i j : ι} (hij : i ≠ j) (c : Cache κ ν) (k : κ) :
    ∃ schedule : List ι,
      let s := run compute c (schedule.map fun client => (client, .get k))
      s.cache = (c.getAround compute k).2 ∧
        s.ended.map (fun op => (op.client, op.request, op.reply)) =
          [(i, .get k, .found ((c.getAround compute k).1.map Prod.fst)),
            (j, .get k, .found ((c.getAround compute k).1.map Prod.snd))] := by
  cases hfind : c.find? k with
  | some stored =>
      refine ⟨[j, i], ?_⟩
      simp [run, start, step, serve, finish, getAround, hfind, Except.map]
  | none =>
      cases hv : compute k with
      | error e =>
          -- Both look up, then both fail.
          refine ⟨[i, j, j, i], ?_⟩
          simp [run, start, step, proceed, finish, getAround, get, hfind, hv, hij, hij.symm, Except.map]
      | ok v =>
          -- Between the look-up of `i` and its computation `j` looks up, computes and settles.
          refine ⟨[i, j, j, j, i, i], ?_⟩
          simp [run, start, step, proceed, finish, getAround, get, hfind, hv, hij, hij.symm, Except.map]

end Shared

end RouteMask.Cache
