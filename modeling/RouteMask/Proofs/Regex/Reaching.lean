import RouteMask.Proofs.Regex.Locality.Construct

/-! # Reading as a run

Reading an expression goes from one state of the reader to the next, each time by one construct.
`Reader.Next` is one such step on states and texts that are left, `Reader.Reaches` is any number of them.

* `Regex.read_eq_ok_iff`: an expression is read when the reader gets through its text with no group
  left open.
* `Reader.Reaches.total`: the reader has no choice. -/

namespace RouteMask.Regex

namespace Reader

/-- Read one construct and work it in. -/
def advance? (p : Reader × Text) : Option (Reader × Text) :=
  (Construct.read p.1.flags p.2).bind fun (k, rest) => (k.apply p.1).map (·, rest)

/-- One construct further. -/
def Next (p q : Reader × Text) : Prop :=
  advance? p = some q

/-- Any number of constructs further. -/
def Reaches : Reader × Text → Reader × Text → Prop :=
  Relation.ReflTransGen Next

theorem next_iff {st u : Reader} {s r : Text} :
    Next (st, s) (u, r) ↔ ∃ k, Construct.read st.flags s = some (k, r) ∧ k.apply st = some u := by
  unfold Next advance?
  constructor
  · intro h
    obtain ⟨⟨k, r'⟩, hread, happly⟩ := Option.bind_eq_some_iff.mp h
    obtain ⟨u', hu, heq⟩ := Option.map_eq_some_iff.mp happly
    cases heq
    exact ⟨k, hread, hu⟩
  · rintro ⟨k, hread, hu⟩
    rw [hread]
    simp only [Option.bind_some, hu, Option.map_some]

theorem Next.suffix {p q : Reader × Text} (h : Next p q) : q.2 <:+ p.2.tail := by
  obtain ⟨k, hread, -⟩ := next_iff.mp h
  exact Construct.read_suffix hread

theorem Next.length_lt {p q : Reader × Text} (h : Next p q) : q.2.length < p.2.length := by
  have hle := h.suffix.length_le
  rw [List.length_tail] at hle
  have hne : p.2 ≠ [] := by
    obtain ⟨k, hread, -⟩ := next_iff.mp h
    rintro hnil
    rw [hnil] at hread
    cases hread
  have := List.length_pos_iff.mpr hne
  omega

theorem not_next_nil (st : Reader) (q : Reader × Text) : ¬ Next (st, []) q := by
  intro h
  have := h.length_lt
  simp at this

theorem Reaches.suffix {p q : Reader × Text} (h : Reaches p q) : q.2 <:+ p.2 := by
  induction h with
  | refl => exact List.suffix_rfl
  | tail _ hnext ih => exact (hnext.suffix.trans (List.tail_suffix _)).trans ih

theorem Reaches.trans {p q r : Reader × Text} (h : Reaches p q) (h' : Reaches q r) : Reaches p r :=
  Relation.ReflTransGen.trans h h'

theorem Reaches.head {p q r : Reader × Text} (h : Next p q) (h' : Reaches q r) : Reaches p r :=
  Relation.ReflTransGen.head h h'

theorem Next.reaches {p q : Reader × Text} (h : Next p q) : Reaches p q :=
  Relation.ReflTransGen.single h

/-- The reader has no choice. -/
theorem Reaches.total {p q r : Reader × Text} (h : Reaches p q) (h' : Reaches p r) :
    Reaches q r ∨ Reaches r q := by
  refine Relation.ReflTransGen.total_of_right_unique ?_ h h'
  intro a b c hb hc
  exact Option.some.inj (hb.symm.trans hc)

/-- A state at a given place is the only one there. -/
theorem Reaches.eq_of_length {p q r : Reader × Text} (h : Reaches p q) (h' : Reaches p r)
    (hlen : q.2.length = r.2.length) : q = r := by
  have hstay : ∀ {a b : Reader × Text}, Reaches a b → a.2.length = b.2.length → a = b := by
    intro a b hab heq
    rcases Relation.ReflTransGen.cases_head hab with rfl | ⟨c, hac, hcb⟩
    · rfl
    · have hlt := hac.length_lt
      have hle := (Reaches.suffix hcb).length_le
      omega
  rcases h.total h' with hqr | hrq
  · exact hstay hqr hlen
  · exact (hstay hrq hlen.symm).symm

/-! ### Reading is a run -/

/-- A step of the reader goes one construct further, or there is no step. -/
theorem next_plain_iff {st : Reader} (whole : Text) {c : Char} {rest : Text} {q : Reader × Text} :
    Next (st.plain, c :: rest) q ↔
      ∃ u r, st.step whole c rest = .ok (u, r) ∧ q = (u.plain, r) := by
  have hstep := toOption_step st whole c rest
  have hadvance : advance? (st.plain, c :: rest) =
      (st.step whole c rest).toOption.map fun p => (p.1.plain, p.2) := hstep.symm
  rw [Next, hadvance]
  cases st.step whole c rest with
  | error e => simp [Except.toOption]
  | ok p =>
      obtain ⟨u, r⟩ := p
      constructor
      · intro h
        exact ⟨u, r, rfl, (Option.some.inj h).symm⟩
      · rintro ⟨u', r', heq, rfl⟩
        cases heq
        rfl

theorem reaches_of_run {whole : Text} {fuel : Nat} {st u : Reader} {s : Text}
    (hfuel : s.length ≤ fuel) (h : run whole fuel st s = .ok u) :
    Reaches (st.plain, s) (u.plain, []) := by
  induction fuel generalizing st s with
  | zero =>
      obtain rfl := List.eq_nil_of_length_eq_zero (by omega : s.length = 0)
      cases h
      exact .refl
  | succ fuel ih =>
      rcases s with _ | ⟨c, s⟩
      · cases h
        exact .refl
      · rw [run] at h
        cases hstep : st.step whole c s with
        | error e => rw [hstep] at h; cases h
        | ok p =>
            obtain ⟨v, r⟩ := p
            rw [hstep] at h
            have hnext : Next (st.plain, c :: s) (v.plain, r) :=
              (next_plain_iff whole).mpr ⟨v, r, hstep, rfl⟩
            have hlt := hnext.length_lt
            simp only [List.length_cons] at hlt hfuel
            exact .head hnext (ih (by omega) h)

theorem run_of_reaches (whole : Text) {fuel : Nat} {st u : Reader} {s : Text}
    (hfuel : s.length ≤ fuel) (h : Reaches (st.plain, s) (u, [])) :
    ∃ v, run whole fuel st s = .ok v ∧ v.plain = u := by
  induction fuel generalizing st s with
  | zero =>
      obtain rfl := List.eq_nil_of_length_eq_zero (by omega : s.length = 0)
      rcases Relation.ReflTransGen.cases_head h with heq | ⟨q, hnext, -⟩
      · cases heq
        exact ⟨st, rfl, rfl⟩
      · exact absurd hnext (not_next_nil _ q)
  | succ fuel ih =>
      rcases Relation.ReflTransGen.cases_head h with heq | ⟨q, hnext, hrest⟩
      · cases heq
        exact ⟨st, rfl, rfl⟩
      · rcases s with _ | ⟨c, s⟩
        · exact absurd hnext (not_next_nil _ q)
        · have hlt := hnext.length_lt
          obtain ⟨v, r, hstep, rfl⟩ := (next_plain_iff whole).mp hnext
          simp only [List.length_cons] at hlt hfuel
          obtain ⟨w, hw, hplain⟩ := ih (by omega) hrest
          refine ⟨w, ?_, hplain⟩
          rw [run, hstep]
          exact hw

end Reader

theorem read_of_run {source : Text} {u : Reader}
    (h : Reader.run source source.length .start source = .ok u) :
    read source =
      if u.outer.isEmpty then .ok ⟨u.level.close.regex, u.groups, u.names.reverse⟩
      else .error ⟨.missingParen, source⟩ := by
  unfold read
  rw [h]
  rfl

/-- An expression is read when the reader gets through its text with no group left open. -/
theorem read_eq_ok_iff {source : Text} {reading : Reading} :
    read source = .ok reading ↔
      ∃ st, Reader.Reaches (.start, source) (st, []) ∧ st.outer = [] ∧
        reading = ⟨st.level.close.regex, st.groups, st.names.reverse⟩ := by
  constructor
  · intro h
    cases hrun : Reader.run source source.length .start source with
    | error e =>
        unfold read at h
        rw [hrun] at h
        cases h
    | ok u =>
        rw [read_of_run hrun] at h
        have hreach := Reader.reaches_of_run (Nat.le_refl _) hrun
        split at h
        · next houter =>
            exact ⟨u.plain, hreach, List.isEmpty_iff.mp houter, (Except.ok.inj h).symm⟩
        · cases h
  · rintro ⟨st, hreach, houter, rfl⟩
    have hstart : Reader.plain .start = .start := rfl
    rw [← hstart] at hreach
    obtain ⟨u, hrun, rfl⟩ := Reader.run_of_reaches source (Nat.le_refl _) hreach
    have houter : u.outer = [] := houter
    rw [read_of_run hrun, if_pos (List.isEmpty_iff.mpr houter)]
    rfl

/-- Where the reader cannot go on, the expression is refused. -/
theorem read_ne_ok {source text : Text} {st : Reader}
    (hsource : Reader.Reaches (.start, source) (st, text)) (htext : text ≠ [])
    (hread : Construct.read st.flags text = none) (reading : Reading) : read source ≠ .ok reading := by
  intro h
  obtain ⟨u, hu, -, -⟩ := read_eq_ok_iff.mp h
  rcases hsource.total hu with hrest | hback
  · rcases Relation.ReflTransGen.cases_head hrest with heq | ⟨q, hnext, -⟩
    · exact htext (congrArg Prod.snd heq)
    · obtain ⟨k, hk, -⟩ := Reader.next_iff.mp hnext
      cases hread.symm.trans hk
  · exact htext (List.suffix_nil.mp hback.suffix)

end RouteMask.Regex
