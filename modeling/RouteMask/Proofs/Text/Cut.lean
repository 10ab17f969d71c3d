import RouteMask.Text

/-! # Cutting a text

Where `Text.cut?` cuts: at the first character of a kind (`Text.cut?_append_cons`), and nowhere if
there is none (`Text.cut?_eq_none_iff`).  Where texts are cut at the same character, they agree in
front of it and behind it (`Text.append_inj_of_not_mem`).  A text is what stands in front of a mark and
the part behind it (`Text.takeWhile_append_part`), and its pieces between separators are those of the
texts around any one of them (`Text.splitOn_append_sep`).  Texts that lack a character of the separator
are found again when they have been joined with it (`Text.splitOn_intercalate`). -/

namespace RouteMask

namespace Text

theorem cut?_eq_some {p : Char → Bool} {s a b : Text} (h : cut? p s = some (a, b)) :
    ∃ c, s = a ++ c :: b ∧ p c = true ∧ ∀ d ∈ a, p d = false := by
  induction s generalizing a with
  | nil => cases h
  | cons c s ih =>
      rw [cut?] at h
      split at h
      · next hc =>
          cases h
          exact ⟨c, rfl, hc, by simp⟩
      · next hc =>
          obtain ⟨⟨a', b'⟩, hs, heq⟩ := Option.map_eq_some_iff.mp h
          cases heq
          obtain ⟨d, rfl, hd, ha⟩ := ih hs
          exact ⟨d, rfl, hd, by simpa [hc] using ha⟩

theorem cut?_append_of_forall {p : Char → Bool} {a : Text} (h : ∀ c ∈ a, p c = false) (t : Text) :
    cut? p (a ++ t) = (cut? p t).map fun (b, c) => (a ++ b, c) := by
  induction a with
  | nil => simp
  | cons c a ih =>
      rw [List.cons_append, cut?, if_neg (by simp [h c]), ih fun d hd => h d (by simp [hd]),
        Option.map_map]
      rfl

theorem cut?_append_cons {p : Char → Bool} {a : Text} {c : Char} (h : ∀ d ∈ a, p d = false)
    (hc : p c = true) (t : Text) : cut? p (a ++ c :: t) = some (a, t) := by
  rw [cut?_append_of_forall h, cut?, if_pos hc]
  simp

theorem cut?_eq_none_iff {p : Char → Bool} {s : Text} :
    cut? p s = none ↔ ∀ c ∈ s, p c = false := by
  induction s with
  | nil => simp [cut?]
  | cons c s ih =>
      rw [cut?]
      split
      · next hc => simp [hc]
      · next hc => simp [hc, ih]

section Mark

variable {mark : Char} {s : Text} (h : mark ∉ s)

include h

theorem bne_of_not_mem : ∀ c ∈ s, (c != mark) = true := by
  intro c hc
  rw [bne_iff_ne]
  rintro rfl
  exact h hc

theorem cut?_of_not_mem : cut? (· == mark) s = none :=
  cut?_eq_none_iff.mpr fun c hc => by simpa using bne_of_not_mem h c hc

/-- A text is cut at the first mark. -/
theorem cut?_append_mark (t : Text) : cut? (· == mark) (s ++ mark :: t) = some (s, t) :=
  cut?_append_cons (cut?_eq_none_iff.mp (cut?_of_not_mem h)) (beq_self_eq_true mark) t

end Mark

/-- Texts that agree, each cut where a property ends, agree in both parts. -/
theorem append_inj_of_forall {p : Char → Bool} {a b s t : Text} (ha : ∀ c ∈ a, p c = true)
    (hb : ∀ c ∈ b, p c = true) (hs : ∀ c ∈ s.head?, p c = false) (ht : ∀ c ∈ t.head?, p c = false)
    (h : a ++ s = b ++ t) : a = b ∧ s = t := by
  have htake : ∀ u v : Text, (∀ c ∈ u, p c = true) → (∀ c ∈ v.head?, p c = false) →
      (u ++ v).takeWhile p = u := by
    intro u v hu hv
    rw [List.takeWhile_append_of_pos hu]
    cases v with
    | nil => simp
    | cons c v => rw [List.takeWhile_cons_of_neg (by simp [hv c rfl]), List.append_nil]
  have hab : a = b := by rw [← htake a s ha hs, h, htake b t hb ht]
  subst hab
  exact ⟨rfl, List.append_cancel_left h⟩

/-- Texts that agree, each cut at its first `c`, agree in both parts. -/
theorem append_inj_of_not_mem {c : Char} {a b s t : Text} (ha : c ∉ a) (hb : c ∉ b)
    (hs : s = [] ∨ s.head? = some c) (ht : t = [] ∨ t.head? = some c) (h : a ++ s = b ++ t) :
    a = b ∧ s = t := by
  have hbehind : ∀ {v : Text}, (v = [] ∨ v.head? = some c) → ∀ d ∈ v.head?, (d != c) = false := by
    rintro v (rfl | hv) d hd
    · cases hd
    · rw [hv] at hd
      rw [← Option.some.inj hd, bne_self_eq_false]
  exact append_inj_of_forall (bne_of_not_mem ha) (bne_of_not_mem hb) (hbehind hs) (hbehind ht) h

/-- Texts that hold a character equally often, in front of texts that begin with it. -/
theorem append_inj_of_count_eq {c : Char} {a b s t : Text} (hcount : a.count c = b.count c)
    (hs : s.head? = some c) (ht : t.head? = some c) (h : a ++ s = b ++ t) : a = b ∧ s = t := by
  have hextra : ∀ {a b s t : Text}, a.count c = b.count c → s.head? = some c →
      ∀ more, b = a ++ more → s = more ++ t → more = [] := by
    intro a b s t hcount hs more hb hmore
    cases more with
    | nil => rfl
    | cons d more =>
        rw [hmore] at hs
        obtain rfl := Option.some.inj hs
        rw [hb, List.count_append, List.count_cons_self] at hcount
        omega
  rcases List.append_eq_append_iff.mp h with ⟨more, hb, hmore⟩ | ⟨more, ha, hmore⟩
  · obtain rfl := hextra hcount hs more hb hmore
    rw [List.append_nil] at hb
    exact ⟨hb.symm, hmore⟩
  · obtain rfl := hextra hcount.symm ht more ha hmore
    rw [List.append_nil] at ha
    exact ⟨ha, hmore.symm⟩

/-! ### Parts behind a mark -/

/-- The text behind the first mark, if there is one. -/
def behind? (mark : Char) (s : Text) : Option Text :=
  (cut? (· == mark) s).map Prod.snd

/-- A part behind its mark, if there is one. -/
def part (mark : Char) : Option Text → Text
  | none => []
  | some t => mark :: t

theorem takeWhile_append_part (mark : Char) (s : Text) :
    s.takeWhile (· != mark) ++ part mark (behind? mark s) = s := by
  unfold behind?
  cases hcut : cut? (· == mark) s with
  | none =>
      have hall : ∀ c ∈ s, (c != mark) = true := fun c hc => by
        simpa using cut?_eq_none_iff.mp hcut c hc
      rw [← List.append_nil s, List.takeWhile_append_of_pos hall]
      simp [part]
  | some parts =>
      obtain ⟨c, hs, hc, ha⟩ := cut?_eq_some hcut
      obtain rfl := beq_iff_eq.mp hc
      have hall : ∀ d ∈ parts.1, (d != c) = true := fun d hd => by simpa using ha d hd
      rw [hs, List.takeWhile_append_of_pos hall]
      simp [part]

/-! ### Pieces between separators -/

theorem splitOn_ne_nil (c : Char) (s : Text) : splitOn [c] s ≠ [] :=
  splitFrom_ne_nil _ _ _

theorem splitOn_cons_self (c : Char) (s : Text) : splitOn [c] (c :: s) = [] :: splitOn [c] s :=
  if_pos (by simp)

theorem splitOn_cons_of_ne {c d : Char} (h : c ≠ d) (s : Text) :
    splitOn [c] (d :: s) = consFirst d (splitOn [c] s) :=
  if_neg (by simpa using h)

theorem splitFrom_append (sep a b : Text) : splitFrom sep a.length (a ++ b) = splitOn sep b := by
  induction a with
  | nil => rfl
  | cons c a ih => exact ih

theorem intercalate_cons (sep w : Text) (ws : List Text) :
    sep.intercalate (w :: ws) = w ++ ws.flatMap (sep ++ ·) := by
  induction ws generalizing w with
  | nil => simp [List.intercalate]
  | cons x ws ih =>
      have hjoin : sep.intercalate (w :: x :: ws) = w ++ (sep ++ sep.intercalate (x :: ws)) := by
        simp [List.intercalate]
      rw [hjoin, ih, List.flatMap_cons, List.append_assoc]

/-- Separators of the same length join several pieces to the same text only if they are the same. -/
theorem intercalate_eq_intercalate_iff {sep sep' : Text} (hlen : sep.length = sep'.length)
    {pieces : List Text} (hne : pieces ≠ []) :
    sep.intercalate pieces = sep'.intercalate pieces ↔ sep = sep' ∨ ∃ w, pieces = [w] := by
  obtain ⟨w, ws, rfl⟩ := List.exists_cons_of_ne_nil hne
  rw [intercalate_cons, intercalate_cons, List.append_cancel_left_eq]
  cases ws with
  | nil => simp
  | cons x ws =>
      constructor
      · intro h
        rw [List.flatMap_cons, List.flatMap_cons, List.append_assoc, List.append_assoc] at h
        exact Or.inl (List.append_inj_left h hlen)
      · rintro (rfl | ⟨w, h⟩)
        · rfl
        · cases h

section Mark

variable {sep a : Text} {c : Char}

/-- A text without a character of the separator that is not empty does not begin with the separator,
nor does it when the separator follows. -/
theorem not_isPrefixOf_of_not_mem (hc : c ∈ sep) (ha : c ∉ a) (hne : a ≠ []) {rest : Text}
    (hrest : rest = [] ∨ sep <+: rest) : sep.isPrefixOf (a ++ rest) = false := by
  rw [Bool.eq_false_iff, Ne, List.isPrefixOf_iff_prefix]
  rintro ⟨t, ht⟩
  obtain ⟨front, back, rfl, hfront⟩ := List.eq_append_cons_of_mem hc
  rcases hrest with rfl | ⟨more, rfl⟩
  · refine ha ?_
    rw [← List.append_nil a, ← ht]
    simp
  · -- Both texts have their first `c` where the separator has its first one.
    have hsame : front ++ c :: (back ++ t) = (a ++ front) ++ c :: (back ++ more) := by
      simpa using ht
    have hboth : c ∉ a ++ front := by simp [ha, hfront]
    obtain ⟨hnil, -⟩ := append_inj_of_not_mem hfront hboth (Or.inr rfl) (Or.inr rfl) hsame
    exact hne (List.append_left_eq_self.mp hnil.symm)

theorem splitOn_of_not_mem (hc : c ∈ sep) (ha : c ∉ a) : splitOn sep a = [a] := by
  induction a with
  | nil => rfl
  | cons d a ih =>
      have hbegins := not_isPrefixOf_of_not_mem hc ha (List.cons_ne_nil d a) (Or.inl rfl)
      rw [List.append_nil] at hbegins
      rw [splitOn, splitFrom, if_neg (by rw [hbegins]; exact Bool.false_ne_true)]
      exact congrArg (consFirst d) (ih fun h => ha (List.mem_cons_of_mem d h))

/-- A text without a character of the separator is the first piece when the separator follows. -/
theorem splitOn_append_of_not_mem (hc : c ∈ sep) (ha : c ∉ a) (rest : Text) :
    splitOn sep (a ++ (sep ++ rest)) = a :: splitOn sep rest := by
  induction a with
  | nil =>
      obtain ⟨first, sep', rfl⟩ := List.exists_cons_of_ne_nil (List.ne_nil_of_mem hc)
      have hself : (first :: sep').isPrefixOf (first :: (sep' ++ rest)) = true :=
        List.isPrefixOf_iff_prefix.mpr (List.prefix_append (first :: sep') rest)
      have hskip : splitFrom (first :: sep') sep'.length (sep' ++ rest) = _ := splitFrom_append _ _ _
      rw [List.nil_append, List.cons_append, splitOn, splitFrom, if_pos hself, ← hskip]
      rfl
  | cons d a ih =>
      have hbegins := not_isPrefixOf_of_not_mem hc ha (List.cons_ne_nil d a)
        (Or.inr (List.prefix_append sep rest))
      rw [List.cons_append] at hbegins
      rw [List.cons_append, splitOn, splitFrom, if_neg (by rw [hbegins]; exact Bool.false_ne_true)]
      exact congrArg (consFirst d) (ih fun h => ha (List.mem_cons_of_mem d h))

/-- Texts without a character of the separator are the pieces of what they are joined to. -/
theorem splitOn_intercalate (hc : c ∈ sep) {pieces : List Text} (hne : pieces ≠ [])
    (hpieces : ∀ w ∈ pieces, c ∉ w) : splitOn sep (sep.intercalate pieces) = pieces := by
  induction pieces with
  | nil => exact absurd rfl hne
  | cons w pieces ih =>
      have hw := hpieces w List.mem_cons_self
      cases pieces with
      | nil => simpa [intercalate_cons] using splitOn_of_not_mem hc hw
      | cons x pieces =>
          have hjoin : sep.intercalate (w :: x :: pieces) =
              w ++ (sep ++ sep.intercalate (x :: pieces)) := by simp [intercalate_cons]
          rw [hjoin, splitOn_append_of_not_mem hc hw,
            ih (List.cons_ne_nil x pieces) fun y hy => hpieces y (List.mem_cons_of_mem w hy)]

end Mark

theorem splitOn_eq_singleton {c : Char} {a : Text} (h : c ∉ a) : splitOn [c] a = [a] :=
  splitOn_of_not_mem List.mem_cons_self h

theorem splitOn_append_sep (c : Char) (a b : Text) :
    splitOn [c] (a ++ c :: b) = splitOn [c] a ++ splitOn [c] b := by
  induction a with
  | nil => exact splitOn_cons_self c b
  | cons d a ih =>
      rw [List.cons_append]
      by_cases hd : c = d
      · subst hd
        rw [splitOn_cons_self, splitOn_cons_self, ih, List.cons_append]
      · rw [splitOn_cons_of_ne hd, splitOn_cons_of_ne hd, ih]
        cases hsplit : splitOn [c] a with
        | nil => exact absurd hsplit (splitOn_ne_nil c a)
        | cons piece pieces => rfl

theorem splitOn_append_cons {c : Char} {a : Text} (h : c ∉ a) (rest : Text) :
    splitOn [c] (a ++ c :: rest) = a :: splitOn [c] rest :=
  splitOn_append_of_not_mem List.mem_cons_self h rest

end Text

end RouteMask
