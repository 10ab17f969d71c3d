import RouteMask.Proofs.Regex.Construct
import RouteMask.Proofs.Regex.Locality.Basic

/-! # Local readers of escape sequences

Flags, numbers and escape sequences are read locally (`isLocal_readFlags`, `isLocal_readEscape`). -/

namespace RouteMask.Regex

theorem isLocal_cut {p : Char → Bool} (h : p ')' = false) : IsLocal (Text.cut? p) := by
  refine ⟨?_, fun s => ⟨?_, ?_⟩⟩
  · intro s r a hf
    obtain ⟨c, rfl, -, -⟩ := Text.cut?_eq_some hf
    exact ⟨a ++ [c], by simp⟩
  · intro more r a hf
    cases hs : Text.cut? p s with
    | none =>
        rw [Text.cut?_append_of_forall (Text.cut?_eq_none_iff.mp hs), Text.cut?,
          if_neg (by simp [h]), Option.map_map] at hf
        obtain ⟨⟨b, t⟩, ht, heq⟩ := Option.map_eq_some_iff.mp hf
        obtain ⟨c, hc, -, -⟩ := Text.cut?_eq_some ht
        simp only [Function.comp_apply, Prod.mk.injEq] at heq
        refine absurd ?_ (not_append_cons_suffix r more ')')
        rw [← heq.2]
        exact ⟨b ++ [c], by simp [hc]⟩
    | some q =>
        obtain ⟨b, t⟩ := q
        obtain ⟨c, rfl, hc, hb⟩ := Text.cut?_eq_some hs
        rw [List.append_assoc, List.cons_append, Text.cut?_append_cons hb hc] at hf
        simp only [Option.some.injEq, Prod.mk.injEq] at hf
        rw [hf.1, List.append_cancel_right hf.2]
  · intro r a hf more
    obtain ⟨c, rfl, hc, ha⟩ := Text.cut?_eq_some hf
    rw [List.append_assoc, List.cons_append, Text.cut?_append_cons ha hc]
    exact Or.inl rfl

/-- A character that is no flag ends the flags or cannot stand there. -/
theorem toOption_readFlags_of_ne {negated seen : Bool} {flags : Flags} {c : Char}
    (h : c ∉ ['i', 'm', 's', 'U', '-']) (s : Text) :
    (Reader.readFlags [] negated seen flags (c :: s)).toOption =
      if (c = ':' ∨ c = ')') ∧ (negated = false ∨ seen = true) then some ((flags, c == ':'), s)
      else none := by
  simp only [List.mem_cons, List.not_mem_nil, or_false, not_or] at h
  obtain ⟨h₁, h₂, h₃, h₄, h₅⟩ := h
  rw [Reader.readFlags]
  · split <;> rfl
  all_goals assumption

theorem suffix_of_readFlags {negated seen : Bool} {flags : Flags} {s r : Text} {a : Flags × Bool}
    (h : (Reader.readFlags [] negated seen flags s).toOption = some (a, r)) : r <:+ s.tail := by
  fun_induction Reader.readFlags [] negated seen flags s with
  | case1 | case6 | case9 => cases h
  | case2 _ _ _ _ ih | case3 _ _ _ _ ih | case4 _ _ _ _ ih | case5 _ _ _ _ ih
  | case7 _ _ _ _ _ ih => exact (ih h).trans (List.tail_suffix _)
  | case8 =>
      cases h
      exact List.suffix_rfl

theorem isLocal_readFlags (negated seen : Bool) (flags : Flags) :
    IsLocal fun s => (Reader.readFlags [] negated seen flags s).toOption := by
  refine ⟨fun h => (suffix_of_readFlags h).trans (List.tail_suffix _), fun s => ?_⟩
  induction s generalizing negated seen flags with
  | nil => exact .nil rfl suffix_of_readFlags
  | cons c s ih =>
      refine .cons ?_
      by_cases hc : c ∈ ['i', 'm', 's', 'U', '-']
      · simp only [List.mem_cons, List.not_mem_nil, or_false] at hc
        rcases hc with rfl | rfl | rfl | rfl | rfl
        · exact ih ..
        · exact ih ..
        · exact ih ..
        · exact ih ..
        · cases negated
          · exact ih ..
          · exact IsLocal.none.local_at s
      · simp only [toOption_readFlags_of_ne hc]
        exact (IsLocal.ite (.pure _) .none).local_at s

theorem suffix_of_readBraced {code digits : Nat} {s r : Text} {a : Nat}
    (h : (readBraced [] code digits s).toOption = some (a, r)) : r <:+ s.tail := by
  induction s generalizing code digits with
  | nil =>
      rw [readBraced] at h
      split at h <;> cases h
  | cons c s ih =>
      rw [readBraced] at h
      split at h
      · split at h
        · cases h
        · exact (ih h).trans (List.tail_suffix _)
      · split at h
        · cases h
          exact List.suffix_rfl
        · cases h

theorem isLocal_readBraced (code digits : Nat) :
    IsLocal fun s => (readBraced [] code digits s).toOption := by
  refine ⟨fun h => (suffix_of_readBraced h).trans (List.tail_suffix _), fun s => ?_⟩
  induction s generalizing code digits with
  | nil =>
      refine .nil ?_ suffix_of_readBraced
      rw [readBraced]
      split <;> rfl
  | cons c s ih =>
      refine .cons ?_
      simp only [readBraced]
      cases Text.hexValue? c with
      | none =>
          dsimp only
          split
          · exact (IsLocal.pure code).local_at s
          · exact IsLocal.none.local_at s
      | some d =>
          dsimp only
          split
          · exact IsLocal.none.local_at s
          · exact ih ..

theorem toOption_readHex_pair {c : Char} (hc : c ≠ '\x7b') (d : Char) (s : Text) :
    (readHex [] (c :: d :: s)).toOption = match Text.hexValue? c, Text.hexValue? d with
      | some m, some n => some (m * 16 + n, s)
      | _, _ => none := by
  rw [readHex]
  · cases Text.hexValue? c <;> cases Text.hexValue? d <;> rfl
  · exact hc

theorem isLocal_readHex : IsLocal fun s => (readHex [] s).toOption := by
  refine .cons rfl fun c => ?_
  by_cases hc : c = '\x7b'
  · subst hc
    exact isLocal_readBraced 0 0
  · refine .cons ?_ fun d => ?_
    · rw [readHex]
      · rfl
      · exact hc
    · rw [funext (toOption_readHex_pair hc d)]
      cases Text.hexValue? c <;> cases Text.hexValue? d
      · exact .none
      · exact .none
      · exact .none
      · exact .pure _

theorem readOctal_append (limit code : Nat) (s more : Text) :
    readOctal limit code (s ++ ')' :: more) =
      ((readOctal limit code s).1, (readOctal limit code s).2 ++ ')' :: more) := by
  induction limit generalizing code s with
  | zero => rfl
  | succ limit ih =>
      cases s with
      | nil => rfl
      | cons c s =>
          rw [List.cons_append, readOctal, readOctal]
          cases octalDigit? c with
          | none => rfl
          | some d => exact ih ..

theorem readOctal_suffix (limit code : Nat) (s : Text) : (readOctal limit code s).2 <:+ s := by
  induction limit generalizing code s with
  | zero => exact List.suffix_rfl
  | succ limit ih =>
      cases s with
      | nil => exact List.suffix_rfl
      | cons c s =>
          rw [readOctal]
          cases octalDigit? c with
          | none => exact List.suffix_rfl
          | some d => exact (ih ..).trans (List.suffix_cons c s)

theorem isLocal_readOctal (limit code : Nat) : IsLocal fun s => some (readOctal limit code s) :=
  .of_total (readOctal_suffix limit code) (readOctal_append limit code)

/-- An octal number of two digits or more. -/
theorem isLocal_readOctal_of_digit (code : Nat) :
    IsLocal fun s =>
      match s with
      | e :: _ => if (octalDigit? e).isSome then some (readOctal 2 code s) else none
      | [] => none := by
  have h := isLocal_readOctal 2 code
  refine ⟨?_, fun s => ?_⟩
  · intro s r a hf
    split at hf
    · split at hf
      · exact h.suffix hf
      · cases hf
    · cases hf
  · cases s with
    | nil =>
        refine .nil rfl fun {s r a} hf => ?_
        cases hf
    | cons e s =>
        have hloc := h.local_at (e :: s)
        by_cases he : (octalDigit? e).isSome = true
        · refine ⟨fun hf => ?_, fun hf more => ?_⟩
          · rw [List.cons_append] at hf
            simp only [he, if_true] at hf ⊢
            exact hloc.shrink hf
          · rw [List.cons_append]
            simp only [he, if_true] at hf ⊢
            exact hloc.extend hf more
        · refine ⟨fun hf => ?_, fun hf more => ?_⟩
          · rw [List.cons_append] at hf
            simp [he] at hf
          · simp [he] at hf

theorem toOption_readEscape_of_ne {c : Char} (hx : c ≠ 'x') (s : Text) :
    (readEscape [] (c :: s)).toOption =
      if escapable c = true then some (c.toNat, s)
      else
        match controlLetter? c with
        | some n => some (n, s)
        | none =>
          match octalDigit? c with
          | some 0 => some (readOctal 2 0 s)
          | some d =>
            match s with
            | e :: _ => if (octalDigit? e).isSome then some (readOctal 2 d s) else none
            | [] => none
          | none => none := by
  unfold readEscape
  split
  · next h => cases h
  · next h => exact absurd (List.cons.inj h).1 hx
  next c' s' _ heq =>
  obtain ⟨rfl, rfl⟩ := List.cons.inj heq
  split
  · rfl
  cases controlLetter? c with
  | some n => rfl
  | none =>
      cases octalDigit? c with
      | none => rfl
      | some d =>
          cases d with
          | zero => rfl
          | succ d =>
              cases s with
              | nil => rfl
              | cons e s =>
                  by_cases he : (octalDigit? e).isSome = true <;>
                    simp [he, refuseEscape, Except.toOption]

theorem isLocal_readEscape_cons (c : Char) :
    IsLocal fun s => (readEscape [] (c :: s)).toOption := by
  by_cases hx : c = 'x'
  · subst hx
    exact isLocal_readHex
  rw [funext (toOption_readEscape_of_ne hx)]
  refine .ite (.pure _) ?_
  cases controlLetter? c with
  | some n => exact .pure n
  | none =>
      cases octalDigit? c with
      | none => exact .none
      | some d =>
          cases d with
          | zero => exact isLocal_readOctal 2 0
          | succ d => exact isLocal_readOctal_of_digit (d + 1)

theorem isLocal_readEscape : IsLocal fun s => (readEscape [] s).toOption :=
  .cons rfl isLocal_readEscape_cons

end RouteMask.Regex
