import Mathlib.Data.Finset.Prod
import Mathlib.Tactic.Linarith
import RouteMask.Proofs.Regex.Execution

/-! # The search finds what there is to find

The search drops a thread when its place has been visited, so that completeness is a statement about
places: when the search gives up, the visited places are closed under the steps of threads
(`Visited.Closed`), and none of them accepts.

* `Search.steps_of_run`: an answer comes from a waiting thread that reaches the accepting
  instruction.
* `Search.closed_of_run`: without an answer, the places of all waiting threads have been visited.
  The fuel suffices because each step lowers `Search.work`.
* `Search.saved?_sound` and `Search.saved?_isSome`: the search answers exactly when the program
  accepts from some offset, and its answer belongs to such a run. -/

namespace RouteMask

namespace Search

variable {program : Program} {s : Subject}

/-! ### Answers -/

/-- An answer holds what a thread saved that came from a waiting thread and accepts. -/
theorem steps_of_run {fuel : Nat} {seen : Visited} {threads : List Thread}
    {saved : List (Nat × Nat)} (h : run program s fuel seen threads = some saved) :
    ∃ t ∈ threads, ∃ u, Thread.Reaches program s t u ∧ program[u.address]? = some .accept ∧
      saved = (1, u.pos) :: u.saved := by
  fun_induction run program s fuel seen threads with
  | case1 fuel seen t threads _ ih =>
      obtain ⟨t', ht', hr⟩ := ih h
      exact ⟨t', List.mem_cons_of_mem _ ht', hr⟩
  | case2 fuel seen t threads _ hi =>
      exact ⟨t, List.mem_cons_self, t, .refl t, hi, (Option.some.inj h).symm⟩
  | case3 fuel seen t threads _ i _ hi ih =>
      obtain ⟨t', ht', u, hr, hu⟩ := ih h
      rcases List.mem_append.mp ht' with ht' | ht'
      · exact ⟨t, List.mem_cons_self, u, (Thread.Reaches.of_step hi ht').trans hr, hu⟩
      · exact ⟨t', List.mem_cons_of_mem _ ht', u, hr, hu⟩
  | case4 fuel seen t threads _ _ ih =>
      obtain ⟨t', ht', hr⟩ := ih h
      exact ⟨t', List.mem_cons_of_mem _ ht', hr⟩
  | case5 => cases h

/-! ### Giving up -/

/-- Every place to which a thread steps from a visited place has been visited, waits among the
threads, or is outside the program; and no visited place accepts. -/
def Closed (program : Program) (s : Subject) (seen : Visited) (threads : List Thread) : Prop :=
  ∀ t : Thread, seen.has t.address t.pos = true →
    program[t.address]? ≠ some .accept ∧
      ∀ u, Thread.Step program s t u →
        seen.has u.address u.pos = true ∨ (∃ w ∈ threads, w.address = u.address ∧ w.pos = u.pos) ∨
          program[u.address]? = none

theorem not_accept_of_closed {seen : Visited} (hc : Closed program s seen []) {t u : Thread}
    (ht : seen.has t.address t.pos = true) (h : Thread.Reaches program s t u) :
    program[u.address]? ≠ some .accept := by
  obtain ⟨n, h⟩ := h
  induction h with
  | refl t => exact (hc t ht).1
  | @step n t v u hs hr ih =>
      rcases (hc t ht).2 v hs with hv | ⟨w, hw, -⟩ | hv
      · exact ih hv
      · cases hw
      · cases hr with
        | refl => rw [hv]; simp
        | step hs' _ =>
            obtain ⟨i, hi, -⟩ := hs'
            rw [hv] at hi
            cases hi

/-- The steps of a thread depend on its place alone. -/
theorem step_of_place_eq {t t' u : Thread} (ha : t.address = t'.address) (hp : t.pos = t'.pos)
    (h : Thread.Step program s t u) :
    ∃ u', Thread.Step program s t' u' ∧ u'.address = u.address ∧ u'.pos = u.pos := by
  obtain ⟨a, p, saved⟩ := t
  obtain ⟨_, _, saved'⟩ := t'
  dsimp only at ha hp
  subst ha hp
  obtain ⟨i, hi, hu⟩ := h
  cases i with
  | char members =>
      simp only [Thread.after] at hu
      cases hn : s.next? members p with
      | none => rw [hn] at hu; cases hu
      | some q =>
          rw [hn] at hu
          obtain rfl := List.mem_singleton.mp hu
          exact ⟨⟨a + 1, q, saved'⟩, ⟨_, hi, by simp [Thread.after, hn, Thread.goto]⟩, rfl, rfl⟩
  | byte =>
      simp only [Thread.after] at hu
      split at hu
      · next hlt =>
          obtain rfl := List.mem_singleton.mp hu
          exact ⟨⟨a + 1, p + 1, saved'⟩, ⟨_, hi, by simp [Thread.after, hlt, Thread.goto]⟩, rfl, rfl⟩
      · cases hu
  | assert b =>
      simp only [Thread.after] at hu
      split at hu
      · next hb =>
          obtain rfl := List.mem_singleton.mp hu
          exact ⟨⟨a + 1, p, saved'⟩, ⟨_, hi, by simp [Thread.after, hb, Thread.goto]⟩, rfl, rfl⟩
      · cases hu
  | save slot =>
      obtain rfl := List.mem_singleton.mp hu
      exact ⟨⟨a + 1, p, (slot, p) :: saved'⟩, ⟨_, hi, List.mem_singleton.mpr rfl⟩, rfl, rfl⟩
  | jump target =>
      obtain rfl := List.mem_singleton.mp hu
      exact ⟨⟨target, p, saved'⟩, ⟨_, hi, List.mem_singleton.mpr rfl⟩, rfl, rfl⟩
  | fork preferred other =>
      simp only [Thread.after, Thread.goto, List.mem_cons, List.not_mem_nil, or_false] at hu
      rcases hu with rfl | rfl
      · exact ⟨⟨preferred, p, saved'⟩, ⟨_, hi, by simp [Thread.after, Thread.goto]⟩, rfl, rfl⟩
      · exact ⟨⟨other, p, saved'⟩, ⟨_, hi, by simp [Thread.after, Thread.goto]⟩, rfl, rfl⟩
  | accept => cases hu

/-- The places of the program that have not been visited. -/
def unseen (program : Program) (s : Subject) (seen : Visited) : Finset (ℕ × ℕ) :=
  (Finset.range program.size ×ˢ Finset.range (s.size + 1)).filter fun p => seen.has p.1 p.2 = false

/-- What is left to do: a visit takes one place away and adds at most one thread to those that
wait. -/
def work (program : Program) (s : Subject) (seen : Visited) (threads : List Thread) : ℕ :=
  threads.length + 2 * (unseen program s seen).card

theorem card_unseen_insert (program : Program) {seen : Visited} {address pos : ℕ}
    (hrows : seen.rows.size = s.size + 1) (ha : address < program.size) (hp : pos ≤ s.size)
    (h : seen.has address pos = false) :
    (unseen program s (seen.insert address pos)).card + 1 ≤ (unseen program s seen).card := by
  have hsub : unseen program s (seen.insert address pos) ⊂ unseen program s seen := by
    rw [Finset.ssubset_iff_of_subset]
    · refine ⟨(address, pos), ?_, ?_⟩
      · simp only [unseen, Finset.mem_filter, Finset.mem_product, Finset.mem_range]
        exact ⟨⟨ha, Nat.lt_succ_of_le hp⟩, h⟩
      · simp only [unseen, Finset.mem_filter, not_and]
        intro _
        simp [Visited.has_insert (show pos < seen.rows.size by omega)]
    · intro p hm
      simp only [unseen, Finset.mem_filter] at hm ⊢
      refine ⟨hm.1, ?_⟩
      have := hm.2
      rw [Visited.has_insert (by omega), Bool.or_eq_false_iff] at this
      exact this.1
  exact Finset.card_lt_card hsub

theorem length_after_le (t : Thread) (s : Subject) (i : Instruction) : (t.after s i).length ≤ 2 := by
  cases i <;> simp only [Thread.after] <;> try split <;> simp
  all_goals simp

theorem pos_after_le (hs : s.Bounded) {t u : Thread} {i : Instruction} (ht : t.pos ≤ s.size)
    (hu : u ∈ t.after s i) : u.pos ≤ s.size := by
  cases i with
  | char members =>
      simp only [Thread.after] at hu
      cases hn : s.next? members t.pos with
      | none => rw [hn] at hu; cases hu
      | some q =>
          rw [hn] at hu
          obtain rfl := List.mem_singleton.mp hu
          exact hs _ _ _ hn
  | byte =>
      simp only [Thread.after] at hu
      split at hu
      · next hlt => obtain rfl := List.mem_singleton.mp hu; exact hlt
      · cases hu
  | assert b =>
      simp only [Thread.after] at hu
      split at hu
      · obtain rfl := List.mem_singleton.mp hu; exact ht
      · cases hu
  | save slot => obtain rfl := List.mem_singleton.mp hu; exact ht
  | jump target => obtain rfl := List.mem_singleton.mp hu; exact ht
  | fork preferred other =>
      simp only [Thread.after, Thread.goto, List.mem_cons, List.not_mem_nil, or_false] at hu
      rcases hu with rfl | rfl <;> exact ht
  | accept => cases hu

/-- A thread that is dropped leaves the places closed, if its own was visited or is outside the
program. -/
theorem Closed.drop {seen : Visited} {t : Thread} {threads : List Thread}
    (hc : Closed program s seen (t :: threads))
    (ht : seen.has t.address t.pos = true ∨ program[t.address]? = none) :
    Closed program s seen threads := by
  intro v hv
  refine ⟨(hc v hv).1, fun u hu => ?_⟩
  rcases (hc v hv).2 u hu with h | ⟨w, hw, ha, hp⟩ | h
  · exact Or.inl h
  · rcases List.mem_cons.mp hw with rfl | hw
    · rw [ha, hp] at ht
      exact ht.imp_right Or.inr
    · exact Or.inr (Or.inl ⟨w, hw, ha, hp⟩)
  · exact Or.inr (Or.inr h)

/-- A thread that is replaced by those it leads to leaves the places closed, its own included. -/
theorem Closed.visit {seen : Visited} {t : Thread} {threads : List Thread} {i : Instruction}
    (hc : Closed program s seen (t :: threads)) (hp : t.pos < seen.rows.size)
    (hi : program[t.address]? = some i) (hne : i ≠ .accept) :
    Closed program s (seen.insert t.address t.pos) (t.after s i ++ threads) := by
  intro v hv
  rw [Visited.has_insert hp, Bool.or_eq_true, Bool.and_eq_true, beq_iff_eq, beq_iff_eq] at hv
  rcases hv with hv | ⟨ha, hp'⟩
  · refine ⟨(hc v hv).1, fun u hu => ?_⟩
    rw [Visited.has_insert hp]
    rcases (hc v hv).2 u hu with h | ⟨w, hw, ha, hq⟩ | h
    · exact Or.inl (by simp [h])
    · rcases List.mem_cons.mp hw with rfl | hw
      · exact Or.inl (by simp [ha, hq])
      · exact Or.inr (Or.inl ⟨w, List.mem_append_right _ hw, ha, hq⟩)
    · exact Or.inr (Or.inr h)
  · refine ⟨fun h => ?_, fun u hu => ?_⟩
    · rw [ha, hi] at h
      exact hne (Option.some.inj h)
    · obtain ⟨w, ⟨i', hi', hw⟩, hwa, hwp⟩ := step_of_place_eq ha hp' hu
      obtain rfl := Option.some.inj (hi.symm.trans hi')
      exact Or.inr (Or.inl ⟨w, List.mem_append_left _ hw, hwa, hwp⟩)

/-- Without an answer, all places to which the waiting threads lead have been visited. -/
theorem closed_of_run (hs : s.Bounded) {fuel : ℕ} {seen : Visited} {threads : List Thread}
    (hrows : seen.rows.size = s.size + 1) (hpos : ∀ t ∈ threads, t.pos ≤ s.size)
    (hfuel : work program s seen threads ≤ fuel) (hc : Closed program s seen threads)
    (h : run program s fuel seen threads = none) :
    ∃ seen' : Visited, (∀ a p, seen.has a p = true → seen'.has a p = true) ∧
      Closed program s seen' [] ∧
      ∀ t ∈ threads, seen'.has t.address t.pos = true ∨ program[t.address]? = none := by
  fun_induction run program s fuel seen threads with
  | case1 fuel seen t threads hseen ih =>
      have hf : work program s seen threads ≤ fuel := by
        simp only [work, List.length_cons] at hfuel ⊢
        omega
      obtain ⟨seen', hsub, hc', hall⟩ := ih hrows (fun u hu => hpos u (List.mem_cons_of_mem _ hu)) hf
        (hc.drop (Or.inl hseen)) h
      refine ⟨seen', hsub, hc', fun u hu => ?_⟩
      rcases List.mem_cons.mp hu with rfl | hu
      · exact Or.inl (hsub _ _ hseen)
      · exact hall u hu
  | case2 => cases h
  | case3 fuel seen t threads hseen i hne hi ih =>
      have ht : t.pos ≤ s.size := hpos t List.mem_cons_self
      have hlt : t.pos < seen.rows.size := by omega
      obtain ⟨ha, -⟩ := Array.getElem?_eq_some_iff.mp hi
      have hcard := card_unseen_insert program hrows ha ht (Bool.eq_false_iff.mpr hseen)
      have hlen := length_after_le t s i
      have hf : work program s (seen.insert t.address t.pos) (t.after s i ++ threads) ≤ fuel := by
        simp only [work, List.length_cons, List.length_append] at hfuel ⊢
        omega
      have hp : ∀ u ∈ t.after s i ++ threads, u.pos ≤ s.size := by
        intro u hu
        rcases List.mem_append.mp hu with hu | hu
        · exact pos_after_le hs ht hu
        · exact hpos u (List.mem_cons_of_mem _ hu)
      obtain ⟨seen', hsub, hc', hall⟩ := ih (by rw [Visited.size_insert, hrows]) hp hf
        (hc.visit hlt hi hne) h
      refine ⟨seen', fun a p hap => hsub a p ?_, hc', fun u hu => ?_⟩
      · rw [Visited.has_insert hlt, hap, Bool.true_or]
      · rcases List.mem_cons.mp hu with rfl | hu
        · exact Or.inl (hsub _ _ (by simp [Visited.has_insert hlt]))
        · exact hall u (List.mem_append_right _ hu)
  | case4 fuel seen t threads _ hi ih =>
      have hf : work program s seen threads ≤ fuel := by
        simp only [work, List.length_cons] at hfuel ⊢
        omega
      obtain ⟨seen', hsub, hc', hall⟩ := ih hrows (fun u hu => hpos u (List.mem_cons_of_mem _ hu)) hf
        (hc.drop (Or.inr hi)) h
      refine ⟨seen', hsub, hc', fun u hu => ?_⟩
      rcases List.mem_cons.mp hu with rfl | hu
      · exact Or.inr hi
      · exact hall u hu
  | case5 fuel seen threads hne =>
      cases threads with
      | nil => exact ⟨seen, fun _ _ h => h, hc, fun t ht => by cases ht⟩
      | cons t threads =>
          cases fuel with
          | zero => simp only [work, List.length_cons] at hfuel; omega
          | succ fuel => exact absurd rfl (hne fuel t threads rfl)

/-! ### The whole search -/

/-- An answer of the search comes from a run that starts at some offset and accepts. -/
theorem saved?_sound {saved : List (Nat × Nat)} (h : saved? program s = some saved) :
    ∃ i ≤ s.size, ∃ u, Thread.Reaches program s (.begin i) u ∧ program[u.address]? = some .accept ∧
      saved = (1, u.pos) :: u.saved := by
  obtain ⟨t, ht, hu⟩ := steps_of_run h
  obtain ⟨i, hi, rfl⟩ := List.mem_map.mp ht
  exact ⟨i, Nat.le_of_lt_succ (List.mem_range.mp hi), hu⟩

/-- The search answers when a run from some offset accepts. -/
theorem saved?_isSome (hs : s.Bounded) {i : ℕ} (hi : i ≤ s.size) {u : Thread}
    (hr : Thread.Reaches program s (.begin i) u) (hu : program[u.address]? = some .accept) :
    (saved? program s).isSome = true := by
  rw [Option.isSome_iff_ne_none]
  intro h
  have hcard : (unseen program s (.nothing (s.size + 1))).card ≤ program.size * (s.size + 1) := by
    refine (Finset.card_filter_le _ _).trans ?_
    rw [Finset.card_product, Finset.card_range, Finset.card_range]
  have hfuel : work program s (.nothing (s.size + 1)) (starts s) ≤
      (s.size + 1) * (2 * program.size + 1) + 1 := by
    simp only [work, starts, List.length_map, List.length_range]
    nlinarith
  have hc : Closed program s (.nothing (s.size + 1)) (starts s) := by
    intro t ht
    rw [Visited.has_nothing] at ht
    cases ht
  have hpos : ∀ t ∈ starts s, t.pos ≤ s.size := by
    intro t ht
    obtain ⟨j, hj, rfl⟩ := List.mem_map.mp ht
    exact Nat.le_of_lt_succ (List.mem_range.mp hj)
  have hrows : (Visited.nothing (s.size + 1)).rows.size = s.size + 1 := by simp [Visited.nothing]
  obtain ⟨seen, -, hc, hall⟩ := closed_of_run hs hrows hpos hfuel hc h
  have hmem : Thread.begin i ∈ starts s :=
    List.mem_map.mpr ⟨i, List.mem_range.mpr (Nat.lt_succ_of_le hi), rfl⟩
  rcases hall _ hmem with hseen | hnone
  · exact not_accept_of_closed hc hseen hr hu
  · obtain ⟨n, hr⟩ := hr
    cases hr with
    | refl => rw [hnone] at hu; cases hu
    | step hstep _ =>
        obtain ⟨j, hj, -⟩ := hstep
        rw [hnone] at hj
        cases hj

end Search

end RouteMask
