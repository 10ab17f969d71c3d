import RouteMask.Proofs.Regex.Matching
import RouteMask.Regex.Search

/-! # Running the program of an expression

A thread that enters the program of an expression leaves it where the expression has a match, and
every match is the way of some thread.

* `Regex.Matches.steps`: a match is followed by the threads of the program, from its first address
  to the address past its last.
* `Regex.isPassed`: a thread that gets out of the program has passed its end with a match behind it
  (`Regex.IsPassed`). -/

namespace RouteMask

/-- `u` is one of the threads that `t` leads to. -/
def Thread.Step (program : Program) (s : Subject) (t u : Thread) : Prop :=
  ∃ i, program[t.address]? = some i ∧ u ∈ t.after s i

/-- `Thread.Steps program s n t u`: `u` comes from `t` in `n` steps. -/
inductive Thread.Steps (program : Program) (s : Subject) : Nat → Thread → Thread → Prop where
  | refl (t : Thread) : Steps program s 0 t t
  | step {n : Nat} {t u v : Thread} :
      Thread.Step program s t u → Steps program s n u v → Steps program s (n + 1) t v

namespace Thread

variable {program : Program} {s : Subject}

theorem Steps.trans {m n : Nat} {t u v : Thread} (h₁ : Steps program s m t u)
    (h₂ : Steps program s n u v) : Steps program s (m + n) t v := by
  induction h₁ with
  | refl t => simpa using h₂
  | @step m t w u hs _ ih =>
      have e : m + 1 + n = m + n + 1 := by omega
      rw [e]
      exact .step hs (ih h₂)

/-- `u` comes from `t` in some number of steps. -/
def Reaches (program : Program) (s : Subject) (t u : Thread) : Prop :=
  ∃ n, Steps program s n t u

theorem Reaches.refl (t : Thread) : Reaches program s t t := ⟨0, .refl t⟩

theorem Reaches.trans {t u v : Thread} (h₁ : Reaches program s t u) (h₂ : Reaches program s u v) :
    Reaches program s t v := by
  obtain ⟨m, h₁⟩ := h₁
  obtain ⟨n, h₂⟩ := h₂
  exact ⟨m + n, h₁.trans h₂⟩

theorem Reaches.of_step {t u : Thread} {i : Instruction} (hi : program[t.address]? = some i)
    (hu : u ∈ t.after s i) : Reaches program s t u :=
  ⟨1, .step ⟨i, hi, hu⟩ (.refl u)⟩

end Thread

/-! ### Code in a program -/

/-- The instructions stand in the program from address `start` on. -/
def Program.Holds (program : Program) (start : Nat) (is : List Instruction) : Prop :=
  ∀ k i, is[k]? = some i → program[start + k]? = some i

namespace Program.Holds

variable {program : Program} {start : Nat}

theorem head {i : Instruction} {is : List Instruction} (h : program.Holds start (i :: is)) :
    program[start]? = some i := h 0 i rfl

theorem tail {i : Instruction} {is : List Instruction} (h : program.Holds start (i :: is)) :
    program.Holds (start + 1) is := by
  intro k j hj
  have := h (k + 1) j (by simpa using hj)
  rwa [show start + (k + 1) = start + 1 + k by omega] at this

theorem left {is js : List Instruction} (h : program.Holds start (is ++ js)) :
    program.Holds start is := by
  intro k i hi
  obtain ⟨hk, -⟩ := List.getElem?_eq_some_iff.mp hi
  exact h k i (by rw [List.getElem?_append_left hk, hi])

theorem right {is js : List Instruction} (h : program.Holds start (is ++ js)) :
    program.Holds (start + is.length) js := by
  intro k i hi
  have := h (is.length + k) i (by rw [List.getElem?_append_right (by omega)]; simpa using hi)
  rwa [← Nat.add_assoc] at this

end Program.Holds

namespace Regex

/-- The program of an expression holds its code, and the accepting instruction behind it. -/
theorem holds_assemble (r : Regex) : r.assemble.Holds 0 (r.code 0 ++ [.accept]) := by
  intro k i hi
  simpa [assemble] using hi

open Thread

variable {program : Program} {s : Subject}

/-- The threads of the program follow every match of the expression. -/
theorem Matches.steps {r : Regex} {i j : Nat} {c : List (Nat × Nat)} (h : r.Matches s i j c) :
    ∀ {start : Nat} (_ : program.Holds start (r.code start)) (saved : List (Nat × Nat)),
      Reaches program s ⟨start, i, saved⟩ ⟨start + r.size, j, c ++ saved⟩ := by
  induction h with
  | empty i => exact fun _ saved => .refl _
  | set h =>
      intro start hp saved
      exact .of_step hp.head (by simp [Thread.after, h, Thread.goto, size])
  | anyByte h =>
      intro start hp saved
      exact .of_step hp.head (by simp [Thread.after, h, Thread.goto, size])
  | assert h =>
      intro start hp saved
      exact .of_step hp.head (by simp [Thread.after, h, Thread.goto, size])
  | @seq a b i j k c d _ _ iha ihb =>
      intro start hp saved
      have hb := hp.right
      rw [length_code] at hb
      have := (iha hp.left saved).trans (ihb hb _)
      simpa [size, Nat.add_assoc] using this
  | @preferred a b i j c _ ih =>
      intro start hp saved
      have hfork : Reaches program s ⟨start, i, saved⟩ ⟨start + 1, i, saved⟩ :=
        .of_step hp.head (by simp [Thread.after, Thread.goto])
      have hjump := hp.tail.right.head
      rw [length_code] at hjump
      have hover : Reaches program s ⟨start + 1 + a.size, j, c ++ saved⟩
          ⟨start + a.size + b.size + 2, j, c ++ saved⟩ :=
        .of_step hjump (by simp [Thread.after, Thread.goto])
      have := (hfork.trans (ih hp.tail.left saved)).trans hover
      simpa [size, Nat.add_assoc] using this
  | @other a b i j c _ ih =>
      intro start hp saved
      have hfork : Reaches program s ⟨start, i, saved⟩ ⟨start + a.size + 2, i, saved⟩ :=
        .of_step hp.head (by simp [Thread.after, Thread.goto])
      have hb := hp.tail.right.tail
      rw [length_code, show start + 1 + a.size + 1 = start + a.size + 2 by omega] at hb
      have := hfork.trans (ih hb saved)
      rwa [show start + a.size + 2 + b.size = start + (a.size + b.size + 2) by omega] at this
  | @once greedy a i j c _ ih =>
      intro start hp saved
      have hfork := hp.right.head
      rw [length_code] at hfork
      refine (ih hp.left saved).trans (.of_step hfork ?_)
      cases greedy <;> simp [Thread.after, Thread.goto, size, Nat.add_assoc]
  | @again greedy a i j k c d _ _ iha ihb =>
      intro start hp saved
      have hfork := hp.right.head
      rw [length_code] at hfork
      have hback : Reaches program s ⟨start + a.size, j, c ++ saved⟩ ⟨start, j, c ++ saved⟩ := by
        refine .of_step hfork ?_
        cases greedy <;> simp [Thread.after, Thread.goto]
      have := ((iha hp.left saved).trans hback).trans (ihb hp _)
      simpa using this
  | @group index a i j c _ ih =>
      intro start hp saved
      have hopen : Reaches program s ⟨start, i, saved⟩ ⟨start + 1, i, (2 * index, i) :: saved⟩ :=
        .of_step hp.head (by simp [Thread.after, Thread.goto])
      have hclose := hp.tail.right.head
      rw [length_code] at hclose
      have hshut : Reaches program s ⟨start + 1 + a.size, j, c ++ (2 * index, i) :: saved⟩
          ⟨start + 1 + a.size + 1, j, (2 * index + 1, j) :: (c ++ (2 * index, i) :: saved)⟩ :=
        .of_step hclose (by simp [Thread.after, Thread.goto])
      have := (hopen.trans (ih hp.tail.left _)).trans hshut
      rw [show start + 1 + a.size + 1 = start + (a.size + 2) by omega] at this
      simpa [size] using this

/-! ### From threads to matches -/

/-- A thread at an instruction either is where the steps end or takes one of them. -/
theorem steps_cases {n : Nat} {t u : Thread} {i : Instruction} (hi : program[t.address]? = some i)
    (h : Steps program s n t u) (hne : u.address ≠ t.address) :
    ∃ m v, n = m + 1 ∧ v ∈ t.after s i ∧ Steps program s m v u := by
  cases h with
  | refl => exact absurd rfl hne
  | @step m _ v _ hs hr =>
      obtain ⟨i', hi', hv⟩ := hs
      obtain rfl := Option.some.inj (hi.symm.trans hi')
      exact ⟨m, v, rfl, hv, hr⟩

/-- A thread that gets out of the code of the expression goes through its end, after a match. -/
def IsPassed (program : Program) (s : Subject) (r : Regex) : Prop :=
  ∀ ⦃start n i : Nat⦄ ⦃saved : List (Nat × Nat)⦄ ⦃u : Thread⦄,
    program.Holds start (r.code start) → Steps program s n ⟨start, i, saved⟩ u →
    (u.address < start ∨ start + r.size ≤ u.address) →
    ∃ m j c, m ≤ n ∧ r.Matches s i j c ∧ Steps program s m ⟨start + r.size, j, c ++ saved⟩ u

theorem isPassed_set (members : CharSet) : IsPassed program s (.set members) := by
  intro start n i saved u hp hs hu
  dsimp only [size] at hu
  obtain ⟨m, v, rfl, hv, hr⟩ := steps_cases hp.head hs (by dsimp only; omega)
  simp only [Thread.after] at hv
  cases hn : s.next? members i with
  | none =>
      rw [hn] at hv
      cases hv
  | some j =>
      rw [hn] at hv
      obtain rfl := List.mem_singleton.mp hv
      exact ⟨m, j, [], Nat.le_succ m, .set hn, hr⟩

theorem isPassed_anyByte : IsPassed program s .anyByte := by
  intro start n i saved u hp hs hu
  dsimp only [size] at hu
  obtain ⟨m, v, rfl, hv, hr⟩ := steps_cases hp.head hs (by dsimp only; omega)
  simp only [Thread.after] at hv
  split at hv
  · next hlt =>
      obtain rfl := List.mem_singleton.mp hv
      exact ⟨m, i + 1, [], Nat.le_succ m, .anyByte hlt, hr⟩
  · cases hv

theorem isPassed_assert (a : Assertion) : IsPassed program s (.assert a) := by
  intro start n i saved u hp hs hu
  dsimp only [size] at hu
  obtain ⟨m, v, rfl, hv, hr⟩ := steps_cases hp.head hs (by dsimp only; omega)
  simp only [Thread.after] at hv
  split at hv
  · next ha =>
      obtain rfl := List.mem_singleton.mp hv
      exact ⟨m, i, [], Nat.le_succ m, .assert ha, hr⟩
  · cases hv

variable {a b : Regex}

theorem IsPassed.seq (ha : IsPassed program s a) (hb : IsPassed program s b) :
    IsPassed program s (.seq a b) := by
  intro start n i saved u hp hs hu
  dsimp only [size] at hu
  have hright := hp.right
  rw [length_code] at hright
  obtain ⟨m, j, c, hm, hfirst, hs₁⟩ := ha hp.left hs (by omega)
  obtain ⟨m', k, d, hm', hsecond, hs₂⟩ := hb hright hs₁ (by omega)
  refine ⟨m', k, d ++ c, Nat.le_trans hm' hm, .seq hfirst hsecond, ?_⟩
  simpa [size, Nat.add_assoc] using hs₂

theorem IsPassed.alt (ha : IsPassed program s a) (hb : IsPassed program s b) :
    IsPassed program s (.alt a b) := by
  intro start n i saved u hp hs hu
  dsimp only [size] at hu
  obtain ⟨m, v, rfl, hv, hr⟩ := steps_cases hp.head hs (by dsimp only; omega)
  simp only [Thread.after, Thread.goto, List.mem_cons, List.not_mem_nil, or_false] at hv
  rcases hv with rfl | rfl
  · have hjump := hp.tail.right.head
    rw [length_code] at hjump
    obtain ⟨m₁, j, c, hm₁, hfirst, hs₁⟩ := ha hp.tail.left hr (by omega)
    obtain ⟨m₂, v, rfl, hv, hs₂⟩ := steps_cases hjump hs₁ (by dsimp only; omega)
    obtain rfl := List.mem_singleton.mp hv
    refine ⟨m₂, j, c, by omega, .preferred hfirst, ?_⟩
    simpa [size, Thread.goto, Nat.add_assoc] using hs₂
  · have hright := hp.tail.right.tail
    rw [length_code, show start + 1 + a.size + 1 = start + a.size + 2 by omega] at hright
    obtain ⟨m₁, j, c, hm₁, hsecond, hs₁⟩ := hb hright hr (by omega)
    refine ⟨m₁, j, c, by omega, .other hsecond, ?_⟩
    rwa [show start + a.size + 2 + b.size = start + (a.size + b.size + 2) by omega] at hs₁

/-- A round through the body takes at least the step of the fork, so that the rounds come to an end. -/
theorem IsPassed.plus (greedy : Bool) (ha : IsPassed program s a) :
    IsPassed program s (.plus greedy a) := by
  intro start n
  induction n using Nat.strongRecOn with
  | _ n round =>
    intro i saved u hp hs hu
    dsimp only [size] at hu
    have hfork := hp.right.head
    rw [length_code] at hfork
    obtain ⟨m, j, c, hm, hbody, hs₁⟩ := ha hp.left hs (by omega)
    obtain ⟨m₁, v, rfl, hv, hs₂⟩ := steps_cases hfork hs₁ (by dsimp only; omega)
    have hv : v = ⟨start, j, c ++ saved⟩ ∨ v = ⟨start + a.size + 1, j, c ++ saved⟩ := by
      cases greedy with
      | true => simpa [Thread.after, Thread.goto] using hv
      | false => simpa [Thread.after, Thread.goto, or_comm] using hv
    rcases hv with rfl | rfl
    · obtain ⟨m₂, k, d, hm₂, hd, hs₃⟩ := round m₁ (by omega) hp hs₂ hu
      exact ⟨m₂, k, d ++ c, by omega, .again hbody hd, by simpa using hs₃⟩
    · exact ⟨m₁, j, c, by omega, .once hbody, hs₂⟩

theorem IsPassed.group (index : Nat) (ha : IsPassed program s a) :
    IsPassed program s (.group index a) := by
  intro start n i saved u hp hs hu
  dsimp only [size] at hu
  have hclose := hp.tail.right.head
  rw [length_code] at hclose
  obtain ⟨m, v, rfl, hv, hr⟩ := steps_cases hp.head hs (by dsimp only; omega)
  obtain rfl := List.mem_singleton.mp hv
  obtain ⟨m₁, j, c, hm₁, hbody, hs₁⟩ := ha hp.tail.left hr (by omega)
  obtain ⟨m₂, v, rfl, hv, hs₂⟩ := steps_cases hclose hs₁ (by dsimp only; omega)
  obtain rfl := List.mem_singleton.mp hv
  refine ⟨m₂, j, _, by omega, .group hbody, ?_⟩
  simp only [Thread.goto, show start + 1 + a.size + 1 = start + (a.size + 2) by omega] at hs₂
  simpa [size] using hs₂

/-- No thread gets out of the code of an expression in another way. -/
theorem isPassed (r : Regex) : IsPassed program s r := by
  induction r with
  | empty => exact fun start n i saved u _ hs _ => ⟨n, i, [], Nat.le_refl n, .empty i, hs⟩
  | set members => exact isPassed_set members
  | anyByte => exact isPassed_anyByte
  | assert a => exact isPassed_assert a
  | seq a b iha ihb => exact iha.seq ihb
  | alt a b iha ihb => exact iha.alt ihb
  | plus greedy a ih => exact ih.plus greedy
  | group index a ih => exact ih.group index

end Regex

end RouteMask
