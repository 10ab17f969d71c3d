import RouteMask.Mask.Normal
import RouteMask.Proofs.Url.Percent

/-! # Reserved characters and decoding

Decoding all but the reserved characters makes no reserved character and takes none away
(`Percent.filter_decodeUnreserved`).  A slash ends an escape and a run of bytes, so that a text can be
decoded piece by piece there (`Percent.decodeExcept_append_slash`); what is encoded for resolving
comes back as it was (`Percent.decodeUnreserved_append_encode`). -/

namespace RouteMask

namespace Text

/-- The character that has been begun will be beyond ASCII. -/
def PartialChar.IsWide (p : PartialChar) : Prop :=
  0x80 ≤ p.lo ∧ (2 ≤ p.bits ∨ 2 ≤ p.missing ∧ (1 ≤ p.bits ∨ 0x82 ≤ p.lo))

theorem isWide_of_firstByte? {b : Nat} {p : PartialChar} (h : firstByte? b = some p) : p.IsWide := by
  unfold firstByte? at h
  split at h
  · obtain rfl := Option.some.inj h
    exact ⟨Nat.le_refl _, .inl (by dsimp only; omega)⟩
  split at h
  · obtain rfl := Option.some.inj h
    exact ⟨by decide, .inr ⟨Nat.le_refl _, .inr (by decide)⟩⟩
  split at h
  · obtain rfl := Option.some.inj h
    exact ⟨Nat.le_refl _, .inl (by decide)⟩
  split at h
  · obtain rfl := Option.some.inj h
    exact ⟨Nat.le_refl _, .inr ⟨Nat.le_refl _, .inl (by dsimp only; omega)⟩⟩
  split at h
  · obtain rfl := Option.some.inj h
    exact ⟨by decide, .inr ⟨by decide, .inr (by decide)⟩⟩
  split at h
  · obtain rfl := Option.some.inj h
    exact ⟨Nat.le_refl _, .inl (by decide)⟩
  split at h
  · obtain rfl := Option.some.inj h
    exact ⟨Nat.le_refl _, .inr ⟨by dsimp only; omega, .inl (by dsimp only; omega)⟩⟩
  · cases h

/-- Only the character itself is an ASCII byte. -/
theorem eq_toNat_of_mem_encodeChar {c : Char} {b : Nat} (h : b ∈ encodeChar c) (hb : b < 128) :
    b = c.toNat := by
  unfold encodeChar at h
  dsimp only at h
  split at h
  · exact List.mem_singleton.mp h
  split at h
  · simp only [List.mem_cons, List.not_mem_nil, or_false] at h
    omega
  split at h
  · simp only [List.mem_cons, List.not_mem_nil, or_false] at h
    omega
  · simp only [List.mem_cons, List.not_mem_nil, or_false] at h
    omega

theorem toNat_ofNat (n : Nat) : (Char.ofNat n).toNat = n ∨ (Char.ofNat n).toNat = 0 := by
  unfold Char.ofNat
  by_cases h : n.isValidChar
  · rw [dif_pos h]
    exact .inl rfl
  · rw [dif_neg h]
    exact .inr rfl

theorem toNat_ofNat_of_lt {n : Nat} (h : n < 128) : (Char.ofNat n).toNat = n := by
  unfold Char.ofNat
  rw [dif_pos (.inl (by omega))]
  rfl

theorem isWide_of_mem_begin {b : Nat} {p : PartialChar} (h : p ∈ (begin b).2) : p.IsWide := by
  unfold begin at h
  split at h
  · cases h
  · cases hfirst : firstByte? b with
    | some q =>
        simp only [hfirst] at h
        exact isWide_of_firstByte? (hfirst.trans h)
    | none =>
        simp only [hfirst] at h
        cases h

theorem isWide_of_mem_feed {begun : Option PartialChar} (hbegun : ∀ p ∈ begun, p.IsWide) {b : Nat}
    {q : PartialChar} (hq : q ∈ (feed begun b).2) : q.IsWide := by
  cases begun with
  | none => exact isWide_of_mem_begin hq
  | some p =>
      obtain ⟨hlo, hwide⟩ := hbegun p rfl
      rw [feed, advance] at hq
      split at hq
      · dsimp only at hq
        split at hq
        · cases hq
        · obtain rfl := Option.mem_some_iff.mp hq
          exact ⟨Nat.le_refl _, .inl (by dsimp only; omega)⟩
      · exact isWide_of_mem_begin hq

section Filter

/-- The characters of a kind that a single byte makes. -/
def ofByte (keep : Nat → Bool) (b : Nat) : Text :=
  if keep b then [Char.ofNat b] else []

variable {keep : Nat → Bool} (hkeep : ∀ n, keep n = true → 0 < n ∧ n < 128)
include hkeep

theorem not_replacement : keep replacement.toNat = false :=
  Bool.eq_false_iff.mpr fun h => absurd (hkeep _ h).2 (by decide)

theorem filter_abandon (begun : Option PartialChar) :
    (abandon begun).filter (keep ·.toNat) = [] := by
  cases begun with
  | none => rfl
  | some p => simp [abandon, not_replacement hkeep]

theorem filter_begin (b : Nat) : (begin b).1.filter (keep ·.toNat) = ofByte keep b := by
  unfold begin ofByte
  split
  · next h =>
      rw [List.filter_cons, toNat_ofNat_of_lt h]
      rfl
  · next h =>
      have hb : keep b = false := Bool.eq_false_iff.mpr fun hk => h (hkeep b hk).2
      rw [hb]
      cases firstByte? b with
      | some p => rfl
      | none => simp [not_replacement hkeep]

/-- A byte makes a character of the kind by itself only, whatever has been begun. -/
theorem filter_feed {begun : Option PartialChar} (hbegun : ∀ p ∈ begun, p.IsWide) (b : Nat) :
    (feed begun b).1.filter (keep ·.toNat) = ofByte keep b := by
  cases begun with
  | none => exact filter_begin hkeep b
  | some p =>
      obtain ⟨hlo, hwide⟩ := hbegun p rfl
      rw [feed, advance]
      split
      · have hb : ofByte keep b = [] :=
          if_neg fun hk => by
            have := (hkeep b hk).2
            omega
        rw [hb]
        dsimp only
        split
        · have hnot : keep (Char.ofNat (p.bits * 64 + (b - 0x80))).toNat = false := by
            refine Bool.eq_false_iff.mpr fun hk => ?_
            have := hkeep _ hk
            have := toNat_ofNat (p.bits * 64 + (b - 0x80))
            omega
          simp [hnot]
        · rfl
      · rw [List.filter_cons_of_neg (by simp [not_replacement hkeep]), filter_begin hkeep]

end Filter

/-- An ASCII byte makes its character and nothing is begun then. -/
theorem feed_of_lt {begun : Option PartialChar} (hbegun : ∀ p ∈ begun, p.IsWide) {b : Nat}
    (h : b < 128) : feed begun b = (abandon begun ++ [Char.ofNat b], none) := by
  have hbegin : begin b = ([Char.ofNat b], none) := by
    unfold begin
    rw [if_pos (by omega)]
  cases begun with
  | none => exact hbegin
  | some p =>
      have hlo := (hbegun p rfl).1
      rw [feed, advance, if_neg (by omega), hbegin]
      rfl

end Text

namespace Percent

theorem reserved_iff {b : Nat} :
    reserved b = true ↔
      b = 0x3B ∨ b = 0x2F ∨ b = 0x3F ∨ b = 0x3A ∨ b = 0x40 ∨ b = 0x26 ∨ b = 0x3D ∨ b = 0x2B ∨
        b = 0x24 ∨ b = 0x2C ∨ b = 0x23 := by
  have hlist : ";/?:@&=+$,#".toList = [';', '/', '?', ':', '@', '&', '=', '+', '$', ',', '#'] := rfl
  rw [reserved, hlist]
  simp only [List.any_cons, List.any_nil, Bool.or_eq_true, beq_iff_eq, Char.reduceToNat,
    Bool.false_eq_true, or_false]
  omega

theorem range_of_reserved (b : Nat) (h : reserved b = true) : 0 < b ∧ b < 128 := by
  have := reserved_iff.mp h
  omega

/-- A hexadecimal digit is not reserved. -/
theorem not_reserved_of_hexValue? {c : Char} {n : Nat} (h : Text.hexValue? c = some n) :
    reserved c.toNat = false := by
  refine Bool.eq_false_iff.mpr fun hr => ?_
  have hr := reserved_iff.mp hr
  unfold Text.hexValue? at h
  simp only [Char.le_def, UInt32.le_iff_toNat_le] at h
  split at h
  · next hc =>
      have : 0x30 ≤ c.toNat ∧ c.toNat ≤ 0x39 := hc
      omega
  split at h
  · next hc =>
      have : 0x41 ≤ c.toNat ∧ c.toNat ≤ 0x46 := hc
      omega
  split at h
  · next hc =>
      have : 0x61 ≤ c.toNat ∧ c.toNat ≤ 0x66 := hc
      omega
  · cases h

/-- The characters of a kind that a unit makes by itself. -/
def Octet.made (keep : Nat → Bool) : Octet → Text
  | byte b => Text.ofByte keep b
  | verbatim c => [c].filter (keep ·.toNat)

theorem filter_decodeFrom {keep : Nat → Bool} (hkeep : ∀ n, keep n = true → 0 < n ∧ n < 128)
    {begun : Option Text.PartialChar} (hbegun : ∀ p ∈ begun, p.IsWide) (units : List Octet) :
    (decodeFrom begun units).filter (keep ·.toNat) = units.flatMap (Octet.made keep) := by
  induction units generalizing begun with
  | nil => exact Text.filter_abandon hkeep begun
  | cons unit units ih =>
      cases unit with
      | byte b =>
          have hwide : ∀ p ∈ (Text.feed begun b).2, p.IsWide := fun p hp =>
            Text.isWide_of_mem_feed hbegun hp
          rw [decodeFrom, List.filter_append, Text.filter_feed hkeep hbegun, ih hwide]
          rfl
      | verbatim c =>
          have hnone : ∀ p ∈ (none : Option Text.PartialChar), p.IsWide := by simp
          rw [decodeFrom, List.filter_append, Text.filter_abandon hkeep, List.filter_cons]
          rw [ih hnone, List.flatMap_cons, Octet.made, List.filter_cons]
          cases keep c.toNat <;> rfl

theorem made_plain (keep : Nat → Bool) (c : Char) :
    (plain c).made keep = [c].filter (keep ·.toNat) := by
  unfold plain
  split
  · simp [Octet.made, Text.ofByte, List.filter_cons]
  · rfl

theorem flatMap_made_octets (s : Text) :
    (octets reserved s).flatMap (Octet.made reserved) = s.filter (reserved ·.toNat) := by
  fun_induction octets reserved s with
  | case1 h l rest m n hn hm hkept ih =>
      simp only [List.flatMap_cons, Octet.made, ih, ← List.filter_append]
      rfl
  | case2 h l rest m n hn hm hkept ih =>
      have hpercent : reserved 37 = false := by decide
      simp [List.flatMap_cons, Octet.made, Text.ofByte, hkept, ih, hpercent,
        not_reserved_of_hexValue? hn, not_reserved_of_hexValue? hm]
  | case3 h l rest _ ih =>
      rw [List.flatMap_cons, ih, made_plain, ← List.filter_append]
      rfl
  | case4 c rest _ ih =>
      rw [List.flatMap_cons, ih, made_plain, ← List.filter_append]
      rfl
  | case5 => rfl

/-- The reserved characters of a text stay as they are, and there are no new ones. -/
theorem filter_decodeUnreserved (s : Text) :
    (decodeUnreserved s).filter (reserved ·.toNat) = s.filter (reserved ·.toNat) := by
  unfold decodeUnreserved decodeExcept
  rw [filter_decodeFrom range_of_reserved (by simp), flatMap_made_octets]

/-! ### Decoding piece by piece -/

/-- What begins no escape is a unit of its own. -/
theorem octets_cons_of_not {keep : Nat → Bool} {c : Char} {t : Text}
    (h : ∀ a b u, c = '%' → t = a :: b :: u → Text.hexValue? a = none ∨ Text.hexValue? b = none) :
    octets keep (c :: t) = plain c :: octets keep t := by
  by_cases hc : c = '%'
  · subst hc
    rcases t with _ | ⟨a, _ | ⟨b, u⟩⟩
    · rfl
    · rfl
    · rw [octets]
      rcases h a b u rfl rfl with h | h
      · simp [h]
      · cases ha : Text.hexValue? a <;> simp [h]
  · exact octets_cons_of_ne hc t

/-- A percent sign without two digits behind it is a unit of its own. -/
theorem octets_percent_of_not {keep : Nat → Bool} {x y : Char}
    (h : ∀ m n, Text.hexValue? x = some m → Text.hexValue? y = some n → False) (t : Text) :
    octets keep ('%' :: x :: y :: t) = plain '%' :: octets keep (x :: y :: t) := by
  apply octets_cons_of_not
  rintro a b u - heq
  cases heq
  cases hx : Text.hexValue? x with
  | none => exact .inl rfl
  | some m => exact .inr (Option.eq_none_iff_forall_ne_some.mpr fun n hy => h m n hx hy)

/-- No escape reaches over a character that is no hexadecimal digit. -/
theorem octets_append_cons {keep : Nat → Bool} {c : Char} (hc : Text.hexValue? c = none)
    (s rest : Text) : octets keep (s ++ c :: rest) = octets keep s ++ octets keep (c :: rest) := by
  fun_induction octets keep s with
  | case1 h l s m n hn hm hkept ih => simp [octets, hn, hm, hkept, ih]
  | case2 h l s m n hn hm hkept ih => simp [octets, hn, hm, hkept, ih]
  | case3 x y s hnot ih =>
      simp only [List.cons_append] at ih ⊢
      rw [octets_percent_of_not hnot, ih]
  | case4 d s hnot ih =>
      have hplain : octets keep (d :: (s ++ c :: rest)) = plain d :: octets keep (s ++ c :: rest) := by
        apply octets_cons_of_not
        rintro a b u rfl heq
        rcases s with _ | ⟨x, _ | ⟨y, s⟩⟩
        · obtain ⟨rfl, -⟩ := List.cons.inj heq
          exact .inl hc
        · obtain ⟨-, heq⟩ := List.cons.inj heq
          obtain ⟨rfl, -⟩ := List.cons.inj heq
          exact .inr hc
        · exact (hnot x y s rfl rfl).elim
      rw [List.cons_append, hplain, ih, List.cons_append]
  | case5 => rfl

/-- A unit that makes its character whatever has been begun ends the run before it. -/
theorem decodeFrom_append_cons {unit : Octet} {c : Char} {rest : List Octet}
    (hunit : ∀ {begun : Option Text.PartialChar}, (∀ p ∈ begun, p.IsWide) →
      decodeFrom begun (unit :: rest) = Text.abandon begun ++ c :: decodeFrom none rest)
    {begun : Option Text.PartialChar} (hbegun : ∀ p ∈ begun, p.IsWide) (units : List Octet) :
    decodeFrom begun (units ++ unit :: rest) = decodeFrom begun units ++ c :: decodeFrom none rest := by
  induction units generalizing begun with
  | nil => exact hunit hbegun
  | cons first units ih =>
      cases first with
      | byte d =>
          have hwide : ∀ p ∈ (Text.feed begun d).2, p.IsWide := fun p hp =>
            Text.isWide_of_mem_feed hbegun hp
          rw [List.cons_append, decodeFrom, ih hwide, decodeFrom, List.append_assoc]
      | verbatim d =>
          rw [List.cons_append, decodeFrom, ih (by simp), decodeFrom, List.append_assoc,
            List.cons_append]

/-- An ASCII byte makes its character. -/
theorem decodeFrom_byte_cons {begun : Option Text.PartialChar} (hbegun : ∀ p ∈ begun, p.IsWide)
    {b : Nat} (hb : b < 128) (rest : List Octet) :
    decodeFrom begun (.byte b :: rest) =
      Text.abandon begun ++ Char.ofNat b :: decodeFrom none rest := by
  rw [decodeFrom, Text.feed_of_lt hbegun hb, List.append_assoc]
  rfl

theorem decodeExcept_append_slash (keep : Nat → Bool) (s rest : Text) :
    decodeExcept keep (s ++ '/' :: rest) = decodeExcept keep s ++ '/' :: decodeExcept keep rest := by
  have hslash : octets keep ('/' :: rest) = .byte 0x2F :: octets keep rest :=
    octets_cons_of_ne (by decide) rest
  unfold decodeExcept
  rw [octets_append_cons (by decide), hslash]
  exact decodeFrom_append_cons (fun hbegun => decodeFrom_byte_cons hbegun (by decide) _) (by simp) _

/-- What is encoded for resolving has no byte of a reserved character. -/
theorem not_reserved_of_not_mem_resolvable {c : Char} (hc : c ∉ MaskText.resolvable) :
    ∀ b ∈ Text.encodeChar c, reserved b = false := by
  intro b hb
  refine Bool.eq_false_iff.mpr fun hr => hc ?_
  obtain rfl := Text.eq_toNat_of_mem_encodeChar hb (range_of_reserved b hr).2
  obtain ⟨d, hd, heq⟩ := List.any_eq_true.mp hr
  obtain rfl := Char.toNat_inj.mp (beq_iff_eq.mp heq)
  have hsubset : ∀ d ∈ ";/?:@&=+$,#".toList, d ∈ MaskText.resolvable := by decide
  exact hsubset d hd

/-- What has been encoded for resolving comes back. -/
theorem decodeUnreserved_encode (s : Text) :
    decodeUnreserved (encode MaskText.resolvable s) = s :=
  decodeExcept_encode (by decide) (fun _ _ => not_reserved_of_not_mem_resolvable) s

/-- Behind a slash, what has been encoded for resolving comes back. -/
theorem decodeUnreserved_append_encode (s rest : Text) :
    decodeUnreserved (s ++ '/' :: encode MaskText.resolvable rest) =
      decodeUnreserved s ++ '/' :: rest := by
  rw [decodeUnreserved, decodeExcept_append_slash]
  exact congrArg _ (congrArg _ (decodeUnreserved_encode rest))

/-! ### Escapes that are kept -/

/-- The bytes that a text has escapes of. -/
def escaped : Text → List Nat
  | '%' :: h :: l :: rest =>
    match Text.hexValue? h, Text.hexValue? l with
    | some m, some n => (m * 16 + n) :: escaped rest
    | _, _ => escaped (h :: l :: rest)
  | _ :: rest => escaped rest
  | [] => []

/-- A character outside an escape stands for itself. -/
theorem decodeFrom_plain (c : Char) (units : List Octet) :
    decodeFrom none (plain c :: units) = c :: decodeFrom none units := by
  unfold plain
  split
  · next hc =>
      rw [decodeFrom_byte_cons (by simp) hc, Char.ofNat_toNat]
      rfl
  · rfl

/-- In front of the first escape a text stands for itself. -/
theorem decodeExcept_append {keep : Nat → Bool} {s : Text} (h : '%' ∉ s) (rest : Text) :
    decodeExcept keep (s ++ rest) = s ++ decodeExcept keep rest := by
  induction s with
  | nil => rfl
  | cons c s ih =>
      have hc : c ≠ '%' := fun hc => h (hc ▸ List.mem_cons_self)
      have hs : '%' ∉ s := fun hmem => h (List.mem_cons_of_mem c hmem)
      have hplain : octets keep (c :: (s ++ rest)) = plain c :: octets keep (s ++ rest) :=
        octets_cons_of_ne hc _
      rw [decodeExcept, List.cons_append, hplain, decodeFrom_plain]
      exact congrArg (c :: ·) (ih hs)

/-- Where all escapes are kept, decoding changes nothing. -/
theorem decodeExcept_eq_self {keep : Nat → Bool} {s : Text} (h : ∀ b ∈ escaped s, keep b = true) :
    decodeExcept keep s = s := by
  unfold decodeExcept
  fun_induction octets keep s with
  | case1 x y rest m n hm hn hkept ih =>
      rw [escaped, hm, hn] at h
      simp only [decodeFrom, ih fun b hb => h b (List.mem_cons_of_mem _ hb)]
      rfl
  | case2 x y rest m n hm hn hkept ih =>
      rw [escaped, hm, hn] at h
      exact absurd (h _ List.mem_cons_self) hkept
  | case3 x y rest hnot ih =>
      have hskip : escaped ('%' :: x :: y :: rest) = escaped (x :: y :: rest) := by
        rw [escaped]
        split
        · next m n hm hn => exact (hnot m n hm hn).elim
        · rfl
      rw [hskip] at h
      rw [decodeFrom_plain, ih h]
  | case4 c rest hnot ih =>
      have hskip : escaped (c :: rest) = escaped rest := by
        rw [escaped]
        exact hnot
      rw [hskip] at h
      rw [decodeFrom_plain, ih h]
  | case5 => rfl

end Percent

end RouteMask
