import Mathlib.Data.List.Forall2
import RouteMask.Proofs.Regex.Matching
import RouteMask.Regex.Pattern

/-! # Offsets and texts

The search counts in bytes, its users in characters.  An offset that a match reaches from a place
between two characters, reading whole characters only, is again such a place: it is the size of
a text in front of it (`Text.byteSize`).

* `Subject.char?_ofText` says which character begins at an offset.
* `Pattern.texts_eq`: the texts that are cut out between such offsets are the pieces between
  them. -/

namespace RouteMask

namespace Text

/-- The number of bytes of a text. -/
def byteSize : Text → Nat
  | [] => 0
  | c :: s => c.utf8Size + byteSize s

@[simp] theorem byteSize_nil : byteSize [] = 0 := rfl

@[simp] theorem byteSize_cons (c : Char) (s : Text) :
    byteSize (c :: s) = c.utf8Size + byteSize s := rfl

@[simp] theorem byteSize_append (s t : Text) : byteSize (s ++ t) = byteSize s + byteSize t := by
  induction s with
  | nil => simp
  | cons c s ih =>
      rw [List.cons_append, byteSize_cons, byteSize_cons, ih]
      omega

theorem byteSize_eq_zero {s : Text} : byteSize s = 0 ↔ s = [] := by
  cases s with
  | nil => simp
  | cons c s =>
      have := c.utf8Size_pos
      simp only [byteSize_cons, reduceCtorEq, iff_false]
      omega

/-- Of two beginnings of a text the one with fewer bytes begins the other. -/
theorem exists_append_of_byteSize_le {x y x' y' : Text} (h : x ++ y = x' ++ y')
    (hle : byteSize x ≤ byteSize x') : ∃ m, x' = x ++ m ∧ y = m ++ y' := by
  rcases List.append_eq_append_iff.mp h with ⟨m, rfl, rfl⟩ | ⟨m, rfl, rfl⟩
  · exact ⟨m, rfl, rfl⟩
  · rw [byteSize_append] at hle
    obtain rfl := byteSize_eq_zero.mp (show byteSize m = 0 by omega)
    exact ⟨[], by simp, by simp⟩

end Text

namespace Subject

theorem length_charCells (c : Char) : (charCells c).length = c.utf8Size := by
  have := c.utf8Size_pos
  simp only [charCells, List.length_cons, List.length_replicate]
  omega

theorem size_ofText (text : Text) : (ofText text).size = text.byteSize := by
  have hcells : (text.flatMap charCells).length = text.byteSize := by
    induction text with
    | nil => rfl
    | cons c text ih =>
        rw [List.flatMap_cons, List.length_append, length_charCells, ih, Text.byteSize_cons]
  simp only [size, ofText, List.size_toArray, hcells]

theorem char?_eq_getElem? (text : Text) (i : Nat) :
    (ofText text).char? i = (text.flatMap charCells)[i]?.join := by
  simp [char?, ofText]

/-- A character begins at an offset exactly when it stands there behind as many bytes. -/
theorem char?_ofText {text : Text} {i : Nat} {c : Char} :
    (ofText text).char? i = some c ↔
      ∃ before after, text = before ++ c :: after ∧ i = before.byteSize := by
  rw [char?_eq_getElem?]
  induction text generalizing i with
  | nil => simp
  | cons d text ih =>
      have hlen := length_charCells d
      have hpos := d.utf8Size_pos
      rw [List.flatMap_cons]
      constructor
      · intro h
        rcases Nat.lt_or_ge i d.utf8Size with hlt | hge
        · rw [List.getElem?_append_left (by omega)] at h
          cases i with
          | zero =>
              simp only [charCells, List.getElem?_cons_zero, Option.join_some, Option.some.injEq] at h
              exact ⟨[], text, by rw [h]; rfl, rfl⟩
          | succ i =>
              simp only [charCells, List.getElem?_cons_succ, List.getElem?_replicate] at h
              split at h <;> simp at h
        · rw [List.getElem?_append_right (by omega), hlen] at h
          obtain ⟨before, after, rfl, hi⟩ := ih.mp h
          exact ⟨d :: before, after, rfl, by rw [Text.byteSize_cons]; omega⟩
      · rintro ⟨before, after, h, rfl⟩
        cases before with
        | nil =>
            obtain ⟨rfl, rfl⟩ := List.cons.inj h
            simp [charCells]
        | cons e before =>
            obtain ⟨rfl, rfl⟩ := List.cons.inj h
            rw [Text.byteSize_cons, List.getElem?_append_right (by omega), hlen,
              Nat.add_sub_cancel_left]
            exact ih.mpr ⟨before, after, rfl, rfl⟩

theorem bounded_ofText (text : Text) : (ofText text).Bounded := by
  intro members i j h
  obtain ⟨c, hc, -, rfl⟩ := next?_eq_some h
  obtain ⟨before, after, rfl, rfl⟩ := char?_ofText.mp hc
  rw [size_ofText, Text.byteSize_append, Text.byteSize_cons]
  omega

@[simp] theorem holds_textStart (before after : Text) :
    (ofText (before ++ after)).holds .textStart before.byteSize = true ↔ before = [] := by
  simp [holds, Text.byteSize_eq_zero]

@[simp] theorem holds_textEnd (before after : Text) :
    (ofText (before ++ after)).holds .textEnd before.byteSize = true ↔ after = [] := by
  simp [holds, size_ofText, Text.byteSize_eq_zero]

/-! ### Counting characters -/

/-- An offset behind `m` is as many characters further on. -/
theorem stepsTo_ofText (before m after : Text) (fuel : Nat) (h : m.byteSize ≤ fuel) :
    (ofText (before ++ m ++ after)).stepsTo (before ++ m).byteSize fuel before.byteSize =
      m.length := by
  induction m generalizing before fuel with
  | nil =>
      cases fuel with
      | zero => rfl
      | succ fuel => rw [List.append_nil, stepsTo, if_pos (Nat.le_refl _)]; rfl
  | cons c m ih =>
      have hpos := c.utf8Size_pos
      rw [Text.byteSize_cons] at h
      cases fuel with
      | zero => omega
      | succ fuel =>
          have hlt : ¬ (before ++ c :: m).byteSize ≤ before.byteSize := by
            simp only [Text.byteSize_append, Text.byteSize_cons]
            omega
          have hc : (ofText (before ++ c :: m ++ after)).char? before.byteSize = some c :=
            char?_ofText.mpr ⟨before, m ++ after, by simp, rfl⟩
          have hnext := ih (before ++ [c]) fuel (by omega)
          simp only [List.append_assoc, List.singleton_append, Text.byteSize_append,
            Text.byteSize_cons, Text.byteSize_nil, Nat.add_zero] at hnext hlt hc ⊢
          rw [stepsTo, if_neg hlt, hc, Option.elim_some, hnext, List.length_cons]

/-- The offset is the size of a beginning of the text, which has `count` characters. -/
def Counts (text : Text) (entry : Nat × Nat) : Prop :=
  ∃ before after, text = before ++ after ∧ entry.1 = before.byteSize ∧ entry.2 = before.length

theorem Counts.unique {text : Text} {offset m n : Nat} (hm : Counts text (offset, m))
    (hn : Counts text (offset, n)) : m = n := by
  obtain ⟨x, y, rfl, hx, rfl⟩ := hm
  obtain ⟨x', y', h, hx', rfl⟩ := hn
  obtain ⟨z, rfl, -⟩ := Text.exists_append_of_byteSize_le h (by omega)
  have hz : Text.byteSize z = 0 := by
    simp only [Text.byteSize_append] at hx'
    omega
  rw [Text.byteSize_eq_zero.mp hz, List.append_nil]

/-- Counting on through increasing offsets gives each its number of characters. -/
theorem counts_indexOffsets (text : Text) {offsets : List Nat} {pos index : Nat}
    (hstart : Counts text (pos, index)) (hsorted : (pos :: offsets).Pairwise (· ≤ ·))
    (hall : ∀ n ∈ offsets, ∃ k, Counts text (n, k)) :
    (((ofText text).indexOffsets pos index offsets).map Prod.fst = offsets) ∧
      ∀ e ∈ (ofText text).indexOffsets pos index offsets, Counts text e := by
  induction offsets generalizing pos index with
  | nil => exact ⟨rfl, fun e he => by cases he⟩
  | cons n offsets ih =>
      obtain ⟨x, y, rfl, hx, rfl⟩ := hstart
      dsimp only at hx
      subst hx
      obtain ⟨k, x', y', h, hx', hk⟩ := hall n List.mem_cons_self
      dsimp only at hx' hk
      subst hx' hk
      have hle : x.byteSize ≤ x'.byteSize := (List.pairwise_cons.mp hsorted).1 _ List.mem_cons_self
      obtain ⟨m, rfl, rfl⟩ := Text.exists_append_of_byteSize_le h hle
      have hcount := stepsTo_ofText x m y' ((x ++ m).byteSize - x.byteSize)
        (by rw [Text.byteSize_append]; omega)
      rw [List.append_assoc] at hcount
      have hhere : Counts (x ++ (m ++ y')) ((x ++ m).byteSize, x.length + m.length) :=
        ⟨x ++ m, y', by simp, rfl, by simp⟩
      obtain ⟨hfst, hmem⟩ := ih hhere (List.pairwise_cons.mp hsorted).2
        (fun n hn => hall n (List.mem_cons_of_mem _ hn))
      simp only [indexOffsets, hcount]
      refine ⟨by rw [List.map_cons, hfst], fun e he => ?_⟩
      rcases List.mem_cons.mp he with rfl | he
      · exact hhere
      · exact hmem e he

end Subject

namespace Pattern

theorem mem_insertOffset {n m : Nat} {ms : List Nat} :
    m ∈ insertOffset n ms ↔ m = n ∨ m ∈ ms := by
  induction ms with
  | nil => simp [insertOffset]
  | cons k ms ih =>
      simp only [insertOffset]
      split
      · simp
      split
      · next h => subst h; simp
      · rw [List.mem_cons, ih, List.mem_cons]
        exact or_left_comm

theorem sorted_insertOffset {n : Nat} {ms : List Nat} (h : ms.Pairwise (· < ·)) :
    (insertOffset n ms).Pairwise (· < ·) := by
  induction ms with
  | nil => simp [insertOffset]
  | cons k ms ih =>
      have hk := List.pairwise_cons.mp h
      simp only [insertOffset]
      split
      · next hlt =>
          refine List.pairwise_cons.mpr ⟨fun a ha => ?_, h⟩
          rcases List.mem_cons.mp ha with rfl | ha
          · exact hlt
          · exact Nat.lt_trans hlt (hk.1 a ha)
      split
      · exact h
      · refine List.pairwise_cons.mpr ⟨fun a ha => ?_, ih hk.2⟩
        rcases mem_insertOffset.mp ha with rfl | ha
        · omega
        · exact hk.1 a ha

/-- The offsets of the spans, in increasing order. -/
def offsets (spans : List (Nat × Nat)) (ms : List Nat) : List Nat :=
  spans.foldl (fun acc span => insertOffset span.1 (insertOffset span.2 acc)) ms

theorem sorted_offsets {spans : List (Nat × Nat)} {ms : List Nat} (h : ms.Pairwise (· < ·)) :
    (offsets spans ms).Pairwise (· < ·) := by
  induction spans generalizing ms with
  | nil => exact h
  | cons span spans ih => exact ih (sorted_insertOffset (sorted_insertOffset h))

theorem mem_offsets {spans : List (Nat × Nat)} {ms : List Nat} {n : Nat} :
    n ∈ offsets spans ms ↔ n ∈ ms ∨ ∃ span ∈ spans, n = span.1 ∨ n = span.2 := by
  induction spans generalizing ms with
  | nil => simp [offsets]
  | cons span spans ih =>
      rw [offsets, List.foldl_cons, ← offsets, ih, mem_insertOffset, mem_insertOffset]
      constructor
      · rintro ((rfl | rfl | h) | ⟨p, hp, h⟩)
        · exact Or.inr ⟨span, List.mem_cons_self, Or.inl rfl⟩
        · exact Or.inr ⟨span, List.mem_cons_self, Or.inr rfl⟩
        · exact Or.inl h
        · exact Or.inr ⟨p, List.mem_cons_of_mem _ hp, h⟩
      · rintro (h | ⟨p, hp, h⟩)
        · exact Or.inl (Or.inr (Or.inr h))
        · rcases List.mem_cons.mp hp with rfl | hp
          · exact Or.inl (h.imp_right Or.inl)
          · exact Or.inr ⟨p, hp, h⟩

/-- The span is that of a piece of the text, or there is neither. -/
def SpanOf (text : Text) : Option (Nat × Nat) → Option Text → Prop
  | none, none => True
  | some span, some piece => ∃ before after, text = before ++ piece ++ after ∧
      span.1 = before.byteSize ∧ span.2 = (before ++ piece).byteSize
  | _, _ => False

/-- Both ends of a piece's span count characters. -/
theorem counts_of_spanOf {text : Text} {spans : List (Option (Nat × Nat))}
    {pieces : List (Option Text)} (h : List.Forall₂ (SpanOf text) spans pieces) :
    ∀ span ∈ spans.filterMap id,
      (∃ k, Subject.Counts text (span.1, k)) ∧ ∃ k, Subject.Counts text (span.2, k) := by
  induction h with
  | nil => intro span hs; cases hs
  | @cons o p os ps hop _ ih =>
      intro span hs
      cases o with
      | none => exact ih span hs
      | some span' =>
          cases p with
          | none => exact hop.elim
          | some piece =>
              rcases List.mem_cons.mp hs with rfl | hs
              · obtain ⟨x, y, rfl, h₁, h₂⟩ := hop
                exact ⟨⟨x.length, x, piece ++ y, by simp, h₁, rfl⟩,
                  ⟨(x ++ piece).length, x ++ piece, y, rfl, h₂, rfl⟩⟩
              · exact ih span hs

/-- Looking up the offset of a counted beginning gives its number of characters. -/
theorem lookup_of_counts {text before after : Text} {entries : List (Nat × Nat)}
    (hall : ∀ e ∈ entries, Subject.Counts text e) (ht : text = before ++ after)
    (hb : before.byteSize ∈ entries.map Prod.fst) :
    entries.lookup before.byteSize = some before.length := by
  have hk : entries.lookup before.byteSize ≠ none := by
    intro hnone
    rw [List.lookup_eq_none_iff] at hnone
    obtain ⟨e, he, heq⟩ := List.mem_map.mp hb
    have := hnone e he
    simp [heq] at this
  obtain ⟨k, hk⟩ := Option.ne_none_iff_exists'.mp hk
  obtain ⟨l₁, l₂, rfl, -⟩ := List.lookup_eq_some_iff.mp hk
  have hc := hall (before.byteSize, k) (by simp)
  rw [hk, hc.unique ⟨before, after, ht, rfl, rfl⟩]

/-- The piece of a text between two offsets, whose numbers of characters are among the entries. -/
def cutOut (text : Text) (entries : List (Nat × Nat)) (span : Nat × Nat) : Text :=
  (text.drop ((entries.lookup span.1).getD 0)).take
    ((entries.lookup span.2).getD 0 - (entries.lookup span.1).getD 0)

theorem cutOut_eq {before piece after : Text} {entries : List (Nat × Nat)} {span : Nat × Nat}
    (hall : ∀ e ∈ entries, Subject.Counts (before ++ piece ++ after) e)
    (h₁ : span.1 = before.byteSize) (h₂ : span.2 = (before ++ piece).byteSize)
    (hm₁ : span.1 ∈ entries.map Prod.fst) (hm₂ : span.2 ∈ entries.map Prod.fst) :
    cutOut (before ++ piece ++ after) entries span = piece := by
  rw [h₁] at hm₁
  rw [h₂] at hm₂
  have e₁ := lookup_of_counts hall (List.append_assoc before piece after) hm₁
  have e₂ := lookup_of_counts hall rfl hm₂
  rw [cutOut, h₁, h₂, e₁, e₂]
  simp

theorem map_cutOut {text : Text} {entries : List (Nat × Nat)} {spans : List (Option (Nat × Nat))}
    {pieces : List (Option Text)} (h : List.Forall₂ (SpanOf text) spans pieces)
    (hall : ∀ e ∈ entries, Subject.Counts text e)
    (hmem : ∀ span ∈ spans.filterMap id,
      span.1 ∈ entries.map Prod.fst ∧ span.2 ∈ entries.map Prod.fst) :
    spans.map (·.map (cutOut text entries)) = pieces := by
  induction h with
  | nil => rfl
  | @cons o p os ps hop _ ih =>
      have htail := ih fun span hs => hmem span (by
        cases o with
        | none => exact hs
        | some span' => exact List.mem_cons_of_mem _ hs)
      rw [List.map_cons, htail]
      congr 1
      cases o with
      | none =>
          cases p with
          | none => rfl
          | some piece => exact hop.elim
      | some span =>
          cases p with
          | none => exact hop.elim
          | some piece =>
              obtain ⟨before, after, rfl, h₁, h₂⟩ := hop
              obtain ⟨hm₁, hm₂⟩ := hmem span List.mem_cons_self
              rw [Option.map_some, cutOut_eq hall h₁ h₂ hm₁ hm₂]

/-- The texts between the offsets of pieces are the pieces. -/
theorem texts_eq {text : Text} {spans : List (Option (Nat × Nat))} {pieces : List (Option Text)}
    (h : List.Forall₂ (SpanOf text) spans pieces) :
    texts (.ofText text) spans = pieces := by
  have hends := counts_of_spanOf h
  have hall : ∀ n ∈ offsets (spans.filterMap id) [], ∃ k, Subject.Counts text (n, k) := by
    intro n hn
    rcases mem_offsets.mp hn with hn | ⟨span, hs, rfl | rfl⟩
    · cases hn
    · exact (hends span hs).1
    · exact (hends span hs).2
  have hsorted : (0 :: offsets (spans.filterMap id) []).Pairwise (· ≤ ·) := by
    refine List.pairwise_cons.mpr ⟨fun _ _ => Nat.zero_le _, ?_⟩
    exact (sorted_offsets List.Pairwise.nil).imp fun h => Nat.le_of_lt h
  have hstart : Subject.Counts text (0, 0) := ⟨[], text, rfl, rfl, rfl⟩
  obtain ⟨hfst, hcounts⟩ := Subject.counts_indexOffsets text hstart hsorted hall
  refine map_cutOut h hcounts fun span hs => ?_
  change span.1 ∈ List.map Prod.fst (Subject.indexOffsets _ 0 0 (offsets _ [])) ∧
    span.2 ∈ List.map Prod.fst (Subject.indexOffsets _ 0 0 (offsets _ []))
  rw [hfst]
  exact ⟨mem_offsets.mpr (Or.inr ⟨span, hs, Or.inl rfl⟩),
    mem_offsets.mpr (Or.inr ⟨span, hs, Or.inr rfl⟩)⟩

end Pattern

end RouteMask
