import RouteMask.Proofs.Text.Ascii
import RouteMask.Proofs.Text.Cut
import RouteMask.Url.Percent

/-! # Escapes are taken back

What `Percent.encode` writes, `Percent.decode` reads (`Percent.decode_encode`): the units of an encoded
text are the bytes of the text itself.

* `Percent.decodeExcept_encode`: so does decoding that keeps no escape that encoding writes.
* `Percent.IsMark`: a safe character that is only written for itself.  Encoding commutes with cutting
  at it (`Percent.IsMark.cut?_encode`, `Percent.IsMark.splitOn_encode`). -/

namespace RouteMask

namespace Text

theorem decodeFrom_flatMap_encodeChar (s : Text) : decodeFrom none (s.flatMap encodeChar) = s := by
  induction s with
  | nil => rfl
  | cons c s ih => rw [List.flatMap_cons, decodeFrom_encodeChar, ih]

theorem encodeChar_of_lt {c : Char} (h : c.toNat < 128) : encodeChar c = [c.toNat] := by
  unfold encodeChar
  exact if_pos h

theorem encodeChar_ne_nil (c : Char) : encodeChar c ≠ [] := by
  unfold encodeChar
  dsimp only
  split
  · exact List.cons_ne_nil _ _
  split
  · exact List.cons_ne_nil _ _
  split
  · exact List.cons_ne_nil _ _
  · exact List.cons_ne_nil _ _

/-- Bytes are numbers below 256. -/
theorem lt_of_mem_encodeChar {c : Char} {b : Nat} (h : b ∈ encodeChar c) : b < 256 := by
  have hc := toNat_range c
  unfold encodeChar at h
  dsimp only at h
  split at h
  · simp only [List.mem_singleton] at h
    omega
  split at h
  · simp only [List.mem_cons, List.not_mem_nil, or_false] at h
    omega
  split at h
  · simp only [List.mem_cons, List.not_mem_nil, or_false] at h
    omega
  · simp only [List.mem_cons, List.not_mem_nil, or_false] at h
    omega

end Text

namespace Percent

/-- The unreserved characters as ranges. -/
theorem unreserved_iff {c : Char} :
    unreserved c = true ↔
      0x41 ≤ c.toNat ∧ c.toNat ≤ 0x5A ∨ 0x61 ≤ c.toNat ∧ c.toNat ≤ 0x7A ∨
        0x30 ≤ c.toNat ∧ c.toNat ≤ 0x39 ∨ c.toNat = 0x5F ∨ c.toNat = 0x2E ∨ c.toNat = 0x2D ∨
        c.toNat = 0x7E := by
  simp only [unreserved, Bool.or_eq_true, beq_iff_eq, Text.isAlphanum_iff, Text.eq_iff_toNat,
    Char.reduceToNat]
  omega

theorem decodeFrom_map_byte (begun : Option Text.PartialChar) (bytes : List Nat) :
    decodeFrom begun (bytes.map .byte) = Text.decodeFrom begun bytes := by
  induction bytes generalizing begun with
  | nil => rfl
  | cons b bytes ih => rw [List.map_cons, decodeFrom, Text.decodeFrom, ih]

theorem octets_escapeByte {keep : Nat → Bool} {b : Nat} (h : b < 256) (hkeep : keep b = false)
    (rest : Text) : octets keep (escapeByte b ++ rest) = .byte b :: octets keep rest := by
  have hb : b / 16 * 16 + b % 16 = b := by omega
  rw [escapeByte, List.cons_append, List.cons_append, List.cons_append, List.nil_append, octets,
    Text.hexValue?_upperHexDigit (by omega), Text.hexValue?_upperHexDigit (by omega)]
  simp [hb, hkeep]

theorem octets_flatMap_escapeByte {keep : Nat → Bool} {bytes : List Nat}
    (h : ∀ b ∈ bytes, b < 256 ∧ keep b = false) (rest : Text) :
    octets keep (bytes.flatMap escapeByte ++ rest) = bytes.map .byte ++ octets keep rest := by
  induction bytes with
  | nil => rfl
  | cons b bytes ih =>
      obtain ⟨hlt, hkeep⟩ := h b (by simp)
      rw [List.flatMap_cons, List.append_assoc, octets_escapeByte hlt hkeep,
        ih fun c hc => h c (by simp [hc])]
      rfl

/-- A character that is no percent sign is a unit of its own. -/
theorem octets_cons_of_ne {keep : Nat → Bool} {c : Char} (h : c ≠ '%') (rest : Text) :
    octets keep (c :: rest) = plain c :: octets keep rest := by
  rw [octets]
  exact fun _ _ _ hc => absurd hc h

theorem encode_cons (safe : Text) (c : Char) (s : Text) :
    encode safe (c :: s) =
      (if unreserved c || safe.contains c then [c] else (Text.encodeChar c).flatMap escapeByte) ++
        encode safe s := rfl

/-- A character is left alone, or all its bytes are escaped. -/
theorem encode_cons_cases (safe : Text) (c : Char) (s : Text) :
    (unreserved c = true ∨ c ∈ safe) ∧ encode safe (c :: s) = c :: encode safe s ∨
      unreserved c = false ∧ c ∉ safe ∧
        encode safe (c :: s) = (Text.encodeChar c).flatMap escapeByte ++ encode safe s := by
  rw [encode_cons]
  split
  · next h => exact .inl ⟨by simpa using h, rfl⟩
  · next h =>
      obtain ⟨hunreserved, hmem⟩ := Bool.or_eq_false_iff.mp (Bool.eq_false_iff.mpr h)
      exact .inr ⟨hunreserved, fun hc => by simp [hc] at hmem, rfl⟩

/-- A percent sign is encoded unless it is declared safe. -/
theorem ne_percent_of_safe {safe : Text} (hsafe : ∀ c ∈ safe, c ≠ '%') {c : Char}
    (h : unreserved c = true ∨ c ∈ safe) : c ≠ '%' := by
  rcases h with h | h
  · rintro rfl
    exact absurd h (by decide)
  · exact hsafe c h

/-- The units of an encoded text are the bytes of the text, unless an escape in it is kept. -/
theorem octets_encode {keep : Nat → Bool} {safe : Text} (hsafe : ∀ c ∈ safe, c.toNat < 128 ∧ c ≠ '%')
    (hkeep : ∀ c, unreserved c = false → c ∉ safe → ∀ b ∈ Text.encodeChar c, keep b = false)
    (s : Text) : octets keep (encode safe s) = (s.flatMap Text.encodeChar).map .byte := by
  induction s with
  | nil => rfl
  | cons c s ih =>
      rw [List.flatMap_cons, List.map_append]
      rcases encode_cons_cases safe c s with ⟨hc, hencode⟩ | ⟨hunreserved, hnot, hencode⟩
      · have hascii : c.toNat < 128 := by
          rcases hc with hc | hc
          · have := unreserved_iff.mp hc
            omega
          · exact (hsafe c hc).1
        rw [hencode, octets_cons_of_ne (ne_percent_of_safe (fun d hd => (hsafe d hd).2) hc), ih,
          Text.encodeChar_of_lt hascii, plain, if_pos hascii]
        rfl
      · rw [hencode, octets_flatMap_escapeByte
          (fun b hb => ⟨Text.lt_of_mem_encodeChar hb, hkeep c hunreserved hnot b hb⟩), ih]

/-- Decoding undoes encoding, unless an escape is kept. -/
theorem decodeExcept_encode {keep : Nat → Bool} {safe : Text}
    (hsafe : ∀ c ∈ safe, c.toNat < 128 ∧ c ≠ '%')
    (hkeep : ∀ c, unreserved c = false → c ∉ safe → ∀ b ∈ Text.encodeChar c, keep b = false)
    (s : Text) : decodeExcept keep (encode safe s) = s := by
  rw [decodeExcept, octets_encode hsafe hkeep, decodeFrom_map_byte,
    Text.decodeFrom_flatMap_encodeChar]

/-- Decoding undoes encoding. -/
theorem decode_encode {safe : Text} (hsafe : ∀ c ∈ safe, c.toNat < 128 ∧ c ≠ '%') (s : Text) :
    decode (encode safe s) = s :=
  decodeExcept_encode hsafe (fun _ _ _ _ _ => rfl) s

/-- An encoded text consists of unreserved characters, safe characters of the text, percent signs and
digits. -/
theorem mem_of_mem_encode {safe s : Text} {c : Char} (h : c ∈ encode safe s) :
    unreserved c = true ∨ (c ∈ safe ∧ c ∈ s) ∨ c = '%' := by
  obtain ⟨d, hmem, hc⟩ := List.mem_flatMap.mp h
  split at hc
  · next hd =>
      obtain rfl := List.mem_singleton.mp hc
      rcases Bool.or_eq_true _ _ |>.mp hd with hd | hd
      · exact Or.inl hd
      · exact Or.inr (Or.inl ⟨List.contains_iff_mem.mp hd, hmem⟩)
  · obtain ⟨b, hb, hc⟩ := List.mem_flatMap.mp hc
    have hlt := Text.lt_of_mem_encodeChar hb
    have hdigit : ∀ n < 16, unreserved (Text.upperHexDigit n) = true := by decide
    simp only [escapeByte, List.mem_cons, List.not_mem_nil, or_false] at hc
    rcases hc with rfl | rfl | rfl
    · exact Or.inr (Or.inr rfl)
    · exact Or.inl (hdigit _ (by omega))
    · exact Or.inl (hdigit _ (by omega))

theorem of_mem_encode {safe s : Text} {c : Char} (h : c ∈ encode safe s) :
    unreserved c = true ∨ c ∈ safe ∨ c = '%' :=
  (mem_of_mem_encode h).imp_right (Or.imp_left And.left)

theorem encode_ne_nil {safe s : Text} (h : s ≠ []) : encode safe s ≠ [] := by
  cases s with
  | nil => exact absurd rfl h
  | cons c s =>
      intro hnil
      rcases encode_cons_cases safe c s with ⟨-, hencode⟩ | ⟨-, -, hencode⟩
      · rw [hencode] at hnil
        cases hnil
      · obtain ⟨b, bytes, hbytes⟩ := List.exists_cons_of_ne_nil (Text.encodeChar_ne_nil c)
        rw [hencode, hbytes] at hnil
        cases hnil

/-- A text without escapes stands for itself. -/
theorem encode_eq_self_of_not_mem {safe s : Text} (h : '%' ∉ encode safe s) : encode safe s = s := by
  induction s with
  | nil => rfl
  | cons c s ih =>
      rcases encode_cons_cases safe c s with ⟨-, hencode⟩ | ⟨-, -, hencode⟩
      · rw [hencode] at h ⊢
        rw [ih fun hmem => h (List.mem_cons_of_mem c hmem)]
      · obtain ⟨b, bytes, hbytes⟩ := List.exists_cons_of_ne_nil (Text.encodeChar_ne_nil c)
        rw [hencode, hbytes] at h
        exact absurd List.mem_cons_self h

/-- Different texts are encoded differently. -/
theorem encode_inj {safe : Text} (hsafe : ∀ c ∈ safe, c.toNat < 128 ∧ c ≠ '%') {s t : Text} :
    encode safe s = encode safe t ↔ s = t := by
  constructor
  · intro h
    rw [← decode_encode hsafe s, h, decode_encode hsafe t]
  · rintro rfl
    rfl

/-! ### Cutting an encoded text -/

/-- The character is left alone, and no other character is encoded with it. -/
def IsMark (safe : Text) (c : Char) : Prop :=
  c ∈ safe ∧ unreserved c = false ∧ c ≠ '%'

instance (safe : Text) (c : Char) : Decidable (IsMark safe c) :=
  inferInstanceAs (Decidable (_ ∧ _))

variable {safe : Text} {mark : Char}

theorem encode_eq_self_of_safe {safe s : Text} (h : ∀ c ∈ s, unreserved c = true ∨ c ∈ safe) :
    encode safe s = s := by
  induction s with
  | nil => rfl
  | cons c s ih =>
      have hc : (unreserved c || safe.contains c) = true := by simpa using h c List.mem_cons_self
      rw [encode_cons, hc, ih fun d hd => h d (List.mem_cons_of_mem c hd)]
      rfl

theorem encode_eq_self {safe s : Text} (h : ∀ c ∈ s, unreserved c = true) : encode safe s = s :=
  encode_eq_self_of_safe fun c hc => .inl (h c hc)

theorem encode_append (safe s t : Text) : encode safe (s ++ t) = encode safe s ++ encode safe t :=
  List.flatMap_append

theorem IsMark.encode_cons (h : IsMark safe mark) (s : Text) :
    encode safe (mark :: s) = mark :: encode safe s := by
  rw [Percent.encode_cons, if_pos (by simp [h.1])]
  rfl

theorem IsMark.mem_encode_iff (h : IsMark safe mark) {s : Text} : mark ∈ encode safe s ↔ mark ∈ s := by
  obtain ⟨hsafe, hunreserved, hpercent⟩ := h
  constructor
  · intro hmem
    rcases mem_of_mem_encode hmem with hmark | ⟨-, hmark⟩ | hmark
    · rw [hmark] at hunreserved
      cases hunreserved
    · exact hmark
    · exact absurd hmark hpercent
  · intro hmem
    exact List.mem_flatMap.mpr ⟨mark, hmem, by simp [hsafe]⟩

theorem IsMark.cut?_encode (h : IsMark safe mark) (s : Text) :
    Text.cut? (· == mark) (encode safe s) =
      (Text.cut? (· == mark) s).map fun (a, b) => (encode safe a, encode safe b) := by
  have hfree : ∀ {t : Text}, (∀ c ∈ t, (c == mark) = false) →
      ∀ c ∈ encode safe t, (c == mark) = false := by
    intro t ht c hc
    refine beq_eq_false_iff_ne.mpr ?_
    rintro rfl
    exact absurd rfl (beq_eq_false_iff_ne.mp (ht c (h.mem_encode_iff.mp hc)))
  cases hcut : Text.cut? (· == mark) s with
  | none => exact Text.cut?_eq_none_iff.mpr (hfree (Text.cut?_eq_none_iff.mp hcut))
  | some parts =>
      obtain ⟨c, rfl, hc, ha⟩ := Text.cut?_eq_some hcut
      obtain rfl := beq_iff_eq.mp hc
      rw [encode_append, h.encode_cons, Text.cut?_append_cons (hfree ha) hc]
      rfl

theorem IsMark.splitOn_encode (h : IsMark safe mark) (s : Text) :
    Text.splitOn [mark] (encode safe s) = (Text.splitOn [mark] s).map (encode safe) := by
  -- The text is cut at its first mark, and the rest is shorter.
  induction hlen : s.length using Nat.strongRecOn generalizing s with
  | ind n ih =>
      cases hcut : Text.cut? (· == mark) s with
      | none =>
          have hs : mark ∉ s := fun hmem => by
            simpa using Text.cut?_eq_none_iff.mp hcut mark hmem
          rw [Text.splitOn_eq_singleton hs,
            Text.splitOn_eq_singleton fun hmem => hs (h.mem_encode_iff.mp hmem)]
          rfl
      | some parts =>
          obtain ⟨a, rest⟩ := parts
          obtain ⟨c, rfl, hc, ha⟩ := Text.cut?_eq_some hcut
          obtain rfl := beq_iff_eq.mp hc
          have hfree : c ∉ a := fun hmem => by simpa using ha c hmem
          have hshort : rest.length < n := by
            rw [← hlen, List.length_append, List.length_cons]
            omega
          rw [encode_append, h.encode_cons, Text.splitOn_append_cons hfree,
            Text.splitOn_append_cons fun hmem => hfree (h.mem_encode_iff.mp hmem),
            ih rest.length hshort rest rfl]
          rfl

end Percent

end RouteMask
