import RouteMask.Proofs.Text.Cut
import RouteMask.Text.Case
import RouteMask.Unicode.Compatibility

/-! # Texts in lower case

Lower case is stable: no image of the case mapping is moved again (`Unicode.apply_of_mem_apply`), because
the images of every run of the table miss the code points of all runs.  So lowering a text that is in
lower case changes nothing (`Text.lower_lower`), although the final sigma depends on its neighbours.
Lowering makes neither ASCII marks nor characters that hide one (`Text.mem_of_mem_lower`). -/

namespace RouteMask

namespace Unicode

/-! ### Runs of the table -/

/-- The first and the last image of a run. -/
def CaseRun.images (r : CaseRun) : Nat × Nat :=
  ((r.first + r.shift).toNat, (r.last + r.shift).toNat)

/-- No image of the one run is a code point of the other: they lie apart, or they differ in parity.
All pairs of runs are checked, so the comparisons are those that are computed fast. -/
def CaseRun.misses (r r' : CaseRun) : Bool :=
  Nat.blt r.images.2 r'.first || (Nat.blt r'.last r.images.1 ||
    (r'.step == 2 && (r.step == 2 || r.first == r.last) && (r.images.1 + r'.first) % 2 == 1))

theorem CaseRun.of_image? {r : CaseRun} {n m : Nat} (hr : 0 ≤ r.first + r.shift)
    (h : r.image? n = some m) :
    r.first ≤ n ∧ n ≤ r.last ∧ (n - r.first) % r.step = 0 ∧ (m : Int) = n + r.shift := by
  unfold CaseRun.image? at h
  split at h
  · next hn =>
      have := Option.some.inj h
      exact ⟨hn.1, hn.2.1, hn.2.2, by omega⟩
  · cases h

theorem CaseRun.image?_eq_none_of_misses {r r' : CaseRun} (h : r.misses r' = true) {n m : Nat}
    (hr : 0 ≤ r.first + r.shift) (hm : r.image? n = some m) : r'.image? m = none := by
  obtain ⟨hfirst, hlast, hstep, hmoved⟩ := CaseRun.of_image? hr hm
  simp only [CaseRun.misses, CaseRun.images, Bool.or_eq_true, Bool.and_eq_true, Nat.blt_eq,
    beq_iff_eq] at h
  refine if_neg ?_
  rintro ⟨hfirst', hlast', hstep'⟩
  rcases h with h | h | ⟨⟨heven, hsame⟩, hodd⟩
  · omega
  · omega
  · rw [heven] at hstep'
    rcases hsame with hsame | hsame
    · rw [hsame] at hstep
      omega
    · omega

/-- What holds of every image of the table of small letters. -/
structure IsImage (m : Nat) : Prop where
  le : 0x61 ≤ m
  isValidChar : m.isValidChar
  not_expanded : m ≠ 0x130
  not_lookalike : ∀ range ∈ delimiterLookalikes, m < range.1 ∨ range.2 < m
  not_moved : ∀ r ∈ lowerMap.runs, r.image? m = none

theorem isImage_of_image? {r : CaseRun} (hr : r ∈ lowerMap.runs) {n m : Nat}
    (h : r.image? n = some m) : IsImage m := by
  have hbounds : ∀ r ∈ lowerMap.runs, 0x61 ≤ r.first + r.shift ∧
      (r.last + r.shift < 0xD800 ∨ 0xDFFF < r.first + r.shift ∧ r.last + r.shift < 0x110000) ∧
      (r.last + r.shift < 0x130 ∨ 0x130 < r.first + r.shift) := by decide +kernel
  have hlookalikes : ∀ r ∈ lowerMap.runs, ∀ range ∈ delimiterLookalikes,
      r.last + r.shift < range.1 ∨ range.2 < r.first + r.shift := by decide +kernel
  have hmisses : lowerMap.runs.all (fun r => lowerMap.runs.all r.misses) = true := by decide +kernel
  obtain ⟨hle, hvalid, hexpanded⟩ := hbounds r hr
  have hpositive : 0 ≤ r.first + r.shift := by omega
  obtain ⟨hfirst, hlast, -, hmoved⟩ := CaseRun.of_image? hpositive h
  refine ⟨by omega, ?_, by omega, fun range hrange => ?_,
    fun r' hr' => CaseRun.image?_eq_none_of_misses ?_ hpositive h⟩
  · unfold Nat.isValidChar
    omega
  · have := hlookalikes r hr range hrange
    omega
  · exact List.all_eq_true.mp (List.all_eq_true.mp hmisses r hr) r' hr'

/-! ### Characters in lower case -/

/-- An image of a character is the character itself, or one that is moved to it. -/
theorem eq_or_of_mem_apply {c d : Char} (h : d ∈ lowerMap.apply c) :
    (d = c ∧ lowerMap.apply c = [c]) ∨
      (0x61 ≤ d.toNat ∧ hidesDelimiter d = false ∧ lowerMap.apply d = [d]) := by
  unfold CaseMap.apply at h
  split at h
  · next m hfound =>
      obtain ⟨r, hr, hm⟩ := List.exists_of_findSome?_eq_some hfound
      have himage := isImage_of_image? hr hm
      obtain rfl := List.mem_singleton.mp h
      have htoNat : (Char.ofNat m).toNat = m := by
        rw [Char.ofNat, dif_pos himage.isValidChar]
        rfl
      refine Or.inr ⟨by rw [htoNat]; exact himage.le, ?_, ?_⟩
      · rw [hidesDelimiter, Bool.eq_false_iff, htoNat]
        intro hhas
        obtain ⟨range, hrange, hfirst, hlast⟩ := Ranges.has_iff.mp hhas
        have := himage.not_lookalike range hrange
        omega
      · have hrun : lowerMap.runs.findSome? (·.image? m) = none :=
          List.findSome?_eq_none_iff.mpr himage.not_moved
        have hexpansion : lowerMap.expansions.lookup m = none := by
          refine List.lookup_eq_none_iff.mpr fun e he => ?_
          rw [List.mem_singleton.mp he, bne_iff_ne]
          exact himage.not_expanded
        rw [CaseMap.apply, htoNat, hrun, hexpansion]
  · next hrun =>
      split at h
      · next ms hexpansion =>
          have hall : ∀ e ∈ lowerMap.expansions, ∀ d ∈ e.2.map Char.ofNat,
              0x61 ≤ d.toNat ∧ hidesDelimiter d = false ∧ lowerMap.apply d = [d] := by
            decide +kernel
          obtain ⟨before, behind, hmem, -⟩ := List.lookup_eq_some_iff.mp hexpansion
          have hlisted : (c.toNat, ms) ∈ lowerMap.expansions := hmem ▸ by simp
          exact Or.inr (hall _ hlisted d h)
      · next hexpansion =>
          obtain rfl := List.mem_singleton.mp h
          refine Or.inl ⟨rfl, ?_⟩
          rw [CaseMap.apply, hrun, hexpansion]

/-- No image is moved again. -/
theorem apply_of_mem_apply {c d : Char} (h : d ∈ lowerMap.apply c) : lowerMap.apply d = [d] := by
  rcases eq_or_of_mem_apply h with ⟨rfl, hsame⟩ | ⟨-, -, hsame⟩
  · exact hsame
  · exact hsame

end Unicode

namespace Text

open Unicode

variable {s : Text} {c : Char}

/-- A character in lower case is that of one of the text, or one of the small sigmas. -/
theorem of_mem_lowerFrom {inWord : Bool} (h : c ∈ lowerFrom inWord s) :
    (∃ d ∈ s, c ∈ lowerMap.apply d) ∨ c = 'ς' ∨ c = 'σ' := by
  induction s generalizing inWord with
  | nil => cases h
  | cons d s ih =>
      rw [lowerFrom] at h
      rcases List.mem_append.mp h with h | h
      · split at h
        · rw [List.mem_singleton] at h
          split at h
          · exact Or.inr (Or.inl h)
          · exact Or.inr (Or.inr h)
        · exact Or.inl ⟨d, List.mem_cons_self, h⟩
      · rcases ih h with ⟨e, he, hc⟩ | hsigma
        · exact Or.inl ⟨e, List.mem_cons_of_mem d he, hc⟩
        · exact Or.inr hsigma

theorem lowerFrom_eq_self (h : ∀ c ∈ s, lowerMap.apply c = [c]) (inWord : Bool) :
    lowerFrom inWord s = s := by
  induction s generalizing inWord with
  | nil => rfl
  | cons c s ih =>
      have hc := h c List.mem_cons_self
      have hsigma : c ≠ 'Σ' := by
        rintro rfl
        exact absurd hc (by decide +kernel)
      rw [lowerFrom, if_neg hsigma, hc, ih fun d hd => h d (List.mem_cons_of_mem c hd)]
      rfl

theorem apply_of_mem_lower (h : c ∈ lower s) : lowerMap.apply c = [c] := by
  rcases of_mem_lowerFrom h with ⟨d, -, hc⟩ | rfl | rfl
  · exact apply_of_mem_apply hc
  · decide +kernel
  · decide +kernel

/-- What is in lower case stays as it is. -/
theorem lower_lower (s : Text) : lower (lower s) = lower s :=
  lowerFrom_eq_self (fun _ hc => apply_of_mem_lower hc) false

/-- Lowering makes no characters in front of the small letters, and none that hides a delimiter. -/
theorem mem_of_mem_lower (h : c ∈ lower s) (hc : c.toNat < 0x61 ∨ hidesDelimiter c = true) :
    c ∈ s := by
  rcases of_mem_lowerFrom h with ⟨d, hd, himage⟩ | rfl | rfl
  · rcases eq_or_of_mem_apply himage with ⟨rfl, -⟩ | ⟨hle, hhides, -⟩
    · exact hd
    · rcases hc with hc | hc
      · omega
      · rw [hhides] at hc
        cases hc
  · exact absurd hc (by decide)
  · exact absurd hc (by decide)

end Text

end RouteMask
