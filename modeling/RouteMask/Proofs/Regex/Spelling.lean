import RouteMask.Proofs.Regex.Exhaustion
import RouteMask.Proofs.Regex.Offsets

/-! # What an expression spells

The reading of regular expressions in terms of texts.  `Regex.Spells r before piece after captures`
says that the expression `r` takes `piece`, which stands between `before` and `after`, and that its
groups capture the texts `captures`, the latest first.  It fits expressions that read whole
characters (`Regex.isCharWise`) and in which no group stands inside a group of the same number
(`Regex.isNested`).

* `Pattern.find?_sound`: what the search finds is spelled by the expression, and the texts of the
  groups are those that were captured last.
* `Pattern.find?_isSome`: what the expression spells is found. -/

namespace RouteMask

namespace Regex

/-- `r` takes the piece between two texts; its groups capture texts, the latest first. -/
inductive Spells : Regex → Text → Text → Text → List (Nat × Text) → Prop where
  | empty (before after : Text) : Spells .empty before [] after []
  | set {members : CharSet} {c : Char} (before after : Text) (h : members.has c.toNat = true) :
      Spells (.set members) before [c] after []
  | assert {a : Assertion} {before after : Text}
      (h : (Subject.ofText (before ++ after)).holds a before.byteSize = true) :
      Spells (.assert a) before [] after []
  | seq {a b : Regex} {before p q after : Text} {c d : List (Nat × Text)} :
      Spells a before p (q ++ after) c → Spells b (before ++ p) q after d →
        Spells (.seq a b) before (p ++ q) after (d ++ c)
  | preferred {a b : Regex} {before p after : Text} {c : List (Nat × Text)} :
      Spells a before p after c → Spells (.alt a b) before p after c
  | other {a b : Regex} {before p after : Text} {c : List (Nat × Text)} :
      Spells b before p after c → Spells (.alt a b) before p after c
  | once {greedy : Bool} {a : Regex} {before p after : Text} {c : List (Nat × Text)} :
      Spells a before p after c → Spells (.plus greedy a) before p after c
  | again {greedy : Bool} {a : Regex} {before p q after : Text} {c d : List (Nat × Text)} :
      Spells a before p (q ++ after) c → Spells (.plus greedy a) (before ++ p) q after d →
        Spells (.plus greedy a) before (p ++ q) after (d ++ c)
  | group {index : Nat} {a : Regex} {before p after : Text} {c : List (Nat × Text)} :
      Spells a before p after c → Spells (.group index a) before p after ((index, p) :: c)

/-- The expression reads whole characters only. -/
def isCharWise : Regex → Bool
  | empty | set _ | assert _ => true
  | anyByte => false
  | seq a b | alt a b => a.isCharWise && b.isCharWise
  | plus _ a | group _ a => a.isCharWise

/-- Groups are numbered from one, and none stands inside a group of the same number. -/
def isNested : Regex → Bool
  | empty | set _ | assert _ | anyByte => true
  | seq a b | alt a b => a.isNested && b.isNested
  | plus _ a => a.isNested
  | group index a => index != 0 && !a.indices.contains index && a.isNested

/-- What is spelled between two texts is matched between their offsets. -/
theorem Spells.exists_matches {r : Regex} {before p after : Text} {c : List (Nat × Text)}
    (h : Spells r before p after c) :
    ∃ saved, r.Matches (.ofText (before ++ p ++ after)) before.byteSize (before ++ p).byteSize
      saved := by
  induction h with
  | empty before after => exact ⟨[], by simpa using .empty _⟩
  | @set members c before after h =>
      refine ⟨[], .set ?_⟩
      have hc : (Subject.ofText (before ++ [c] ++ after)).char? before.byteSize = some c :=
        Subject.char?_ofText.mpr ⟨before, after, by simp, rfl⟩
      rw [Subject.next?, hc]
      simp [h]
  | assert h => exact ⟨[], by simpa using .assert h⟩
  | @seq a b before p q after c d _ _ iha ihb =>
      obtain ⟨sa, ha⟩ := iha
      obtain ⟨sb, hb⟩ := ihb
      refine ⟨sb ++ sa, ?_⟩
      rw [← List.append_assoc before p q]
      exact .seq (by simpa using ha) hb
  | preferred _ ih => obtain ⟨saved, h⟩ := ih; exact ⟨saved, .preferred h⟩
  | other _ ih => obtain ⟨saved, h⟩ := ih; exact ⟨saved, .other h⟩
  | once _ ih => obtain ⟨saved, h⟩ := ih; exact ⟨saved, .once h⟩
  | @again greedy a before p q after c d _ _ iha ihb =>
      obtain ⟨sa, ha⟩ := iha
      obtain ⟨sb, hb⟩ := ihb
      refine ⟨sb ++ sa, ?_⟩
      rw [← List.append_assoc before p q]
      exact .again (by simpa using ha) hb
  | group _ ih => obtain ⟨saved, h⟩ := ih; exact ⟨_, .group h⟩

/-! ### Saved offsets and captured texts -/

/-- Each group has saved the two ends of the text that it has captured, or there is neither. -/
def Records (text : Text) (saved : List (Nat × Nat)) (captures : List (Nat × Text)) : Prop :=
  ∀ index,
    (captures.lookup index = none ∧ saved.lookup (2 * index) = none ∧
      saved.lookup (2 * index + 1) = none) ∨
    ∃ before p after, text = before ++ p ++ after ∧ captures.lookup index = some p ∧
      saved.lookup (2 * index) = some before.byteSize ∧
      saved.lookup (2 * index + 1) = some (before ++ p).byteSize

theorem Records.nil (text : Text) : Records text [] [] :=
  fun _ => Or.inl ⟨rfl, rfl, rfl⟩

theorem Records.append {text : Text} {s s' : List (Nat × Nat)} {c c' : List (Nat × Text)}
    (h : Records text s c) (h' : Records text s' c') : Records text (s' ++ s) (c' ++ c) := by
  intro index
  simp only [List.lookup_append]
  rcases h' index with ⟨h₁, h₂, h₃⟩ | ⟨x, p, y, ht, h₁, h₂, h₃⟩
  · rw [h₁, h₂, h₃]
    exact h index
  · rw [h₁, h₂, h₃]
    exact Or.inr ⟨x, p, y, ht, rfl, rfl, rfl⟩

theorem lookup_eq_none_of_not_mem {saved : List (Nat × Nat)} {index slot : Nat} {indices : List Nat}
    (h : ∀ p ∈ saved, p.1 / 2 ∈ indices) (hne : index ∉ indices) (hs : slot / 2 = index) :
    saved.lookup slot = none := by
  rw [List.lookup_eq_none_iff]
  intro p hp
  have hm := h p hp
  by_contra heq
  simp only [bne_iff_ne, ne_eq, not_not] at heq
  exact hne (by rw [← hs, heq]; exact hm)

/-- A group that stands around groups of other numbers captures what they leave it. -/
theorem Records.group {text before p after : Text} {saved : List (Nat × Nat)}
    {captures : List (Nat × Text)} {index : Nat} {indices : List Nat}
    (h : Records text saved captures) (ht : text = before ++ p ++ after)
    (hslots : ∀ q ∈ saved, q.1 / 2 ∈ indices) (hne : index ∉ indices) :
    Records text
      ((2 * index + 1, (before ++ p).byteSize) :: (saved ++ [(2 * index, before.byteSize)]))
      ((index, p) :: captures) := by
  intro i
  by_cases hi : i = index
  · subst hi
    have hnone : saved.lookup (2 * i) = none := lookup_eq_none_of_not_mem hslots hne (by omega)
    refine Or.inr ⟨before, p, after, ht, by simp, ?_, by simp⟩
    rw [List.lookup_cons, show (2 * i == 2 * i + 1) = false by simp]
    simp [List.lookup_append, hnone]
  · have e₁ : (i == index) = false := by simpa using hi
    have e₂ : (2 * i == 2 * index + 1) = false := by simp; omega
    have e₃ : (2 * i + 1 == 2 * index + 1) = false := by simp; omega
    have e₄ : (2 * i == 2 * index) = false := by simp; omega
    have e₅ : (2 * i + 1 == 2 * index) = false := by simp; omega
    simp only [List.lookup_cons, List.lookup_append, List.lookup_nil, e₁, e₂, e₃, e₄, e₅,
      Option.or_none]
    exact h i

/-- What is matched from a place between two characters is spelled from there, and the offsets saved
are the ends of the texts captured. -/
theorem Matches.exists_spells {r : Regex} {text : Text} {i j : Nat} {saved : List (Nat × Nat)}
    (h : r.Matches (.ofText text) i j saved) (hc : r.isCharWise = true) (hn : r.isNested = true) :
    ∀ {before rest : Text}, text = before ++ rest → i = before.byteSize →
      ∃ p after captures, rest = p ++ after ∧ j = (before ++ p).byteSize ∧
        Spells r before p after captures ∧ Records text saved captures := by
  induction h with
  | empty i =>
      intro before rest ht hi
      exact ⟨[], rest, [], rfl, by simpa using hi, .empty _ _, .nil _⟩
  | @set members i j h =>
      intro before rest ht hi
      obtain ⟨c, hchar, hm, rfl⟩ := Subject.next?_eq_some h
      obtain ⟨before', after, ht', hi'⟩ := Subject.char?_ofText.mp hchar
      obtain ⟨m, rfl, hm'⟩ := Text.exists_append_of_byteSize_le (ht.symm.trans ht') (by omega)
      rw [Text.byteSize_append] at hi'
      obtain rfl := Text.byteSize_eq_zero.mp (show Text.byteSize m = 0 by omega)
      exact ⟨[c], after, [], hm', by simp [hi], .set _ _ hm, .nil _⟩
  | anyByte => cases hc
  | assert h =>
      intro before rest ht hi
      subst ht hi
      exact ⟨[], rest, [], rfl, by simp, .assert h, .nil _⟩
  | seq _ _ iha ihb =>
      intro before rest ht hi
      simp only [isCharWise, isNested, Bool.and_eq_true] at hc hn
      obtain ⟨p, rest, c, rfl, hj, ha, hra⟩ := iha hc.1 hn.1 ht hi
      obtain ⟨q, after, d, rfl, hk, hb, hrb⟩ := ihb hc.2 hn.2 (by simpa using ht) hj
      exact ⟨p ++ q, after, d ++ c, by simp, by simpa using hk, .seq ha hb, hra.append hrb⟩
  | preferred _ ih =>
      intro before rest ht hi
      simp only [isCharWise, isNested, Bool.and_eq_true] at hc hn
      obtain ⟨p, after, c, hrest, hj, ha, hr⟩ := ih hc.1 hn.1 ht hi
      exact ⟨p, after, c, hrest, hj, .preferred ha, hr⟩
  | other _ ih =>
      intro before rest ht hi
      simp only [isCharWise, isNested, Bool.and_eq_true] at hc hn
      obtain ⟨p, after, c, hrest, hj, hb, hr⟩ := ih hc.2 hn.2 ht hi
      exact ⟨p, after, c, hrest, hj, .other hb, hr⟩
  | once _ ih =>
      intro before rest ht hi
      obtain ⟨p, after, c, hrest, hj, ha, hr⟩ := ih hc hn ht hi
      exact ⟨p, after, c, hrest, hj, .once ha, hr⟩
  | again _ _ iha ihb =>
      intro before rest ht hi
      obtain ⟨p, rest, c, rfl, hj, ha, hra⟩ := iha hc hn ht hi
      obtain ⟨q, after, d, rfl, hk, hb, hrb⟩ := ihb hc hn (by simpa using ht) hj
      exact ⟨p ++ q, after, d ++ c, by simp, by simpa using hk, .again ha hb, hra.append hrb⟩
  | @group index a i j saved ha ih =>
      intro before rest ht hi
      simp only [isNested, Bool.and_eq_true, bne_iff_ne, Bool.not_eq_true',
        List.contains_eq_mem, decide_eq_false_iff_not] at hn
      obtain ⟨p, after, c, rfl, rfl, hs, hr⟩ := ih hc hn.2 ht hi
      subst hi
      exact ⟨p, after, (index, p) :: c, rfl, rfl, .group hs,
        hr.group (by simpa using ht) ha.slot_mem hn.1.2⟩

/-- Groups of the number zero capture nothing, for there are none. -/
theorem zero_not_mem_indices {r : Regex} (h : r.isNested = true) : 0 ∉ r.indices := by
  induction r with
  | empty | set _ | anyByte | assert _ => exact List.not_mem_nil
  | seq a b iha ihb | alt a b iha ihb =>
      simp only [isNested, Bool.and_eq_true] at h
      simpa [indices] using ⟨iha h.1, ihb h.2⟩
  | plus _ a ih => exact ih h
  | group index a ih =>
      simp only [isNested, Bool.and_eq_true, bne_iff_ne] at h
      simpa [indices] using ⟨Ne.symm h.1.1, ih h.2⟩

/-- Only the instruction behind the code of an expression accepts. -/
theorem accept_not_mem_code (r : Regex) (start : Nat) : .accept ∉ r.code start := by
  induction r generalizing start with
  | empty | set _ | anyByte | assert _ => simp [code]
  | seq a b iha ihb => simpa [code] using ⟨iha start, ihb _⟩
  | alt a b iha ihb => simpa [code] using ⟨iha _, ihb _⟩
  | plus greedy a ih => cases greedy <;> simpa [code] using ih start
  | group index a ih => simpa [code] using ih _

end Regex

namespace Pattern

open Regex

/-- The texts of the groups from one on, from the texts captured. -/
def groupTexts (count : Nat) (captures : List (Nat × Text)) : List (Option Text) :=
  (List.range count).map fun index => captures.lookup (index + 1)

/-- The search answers exactly when the expression has a match, and answers what it saves. -/
theorem saved?_assemble_sound {r : Regex} {s : Subject} {saved : List (Nat × Nat)}
    (h : Search.saved? r.assemble s = some saved) :
    ∃ i j c, r.Matches s i j c ∧ saved = (1, j) :: (c ++ [(0, i)]) := by
  obtain ⟨i, -, u, ⟨n, hr⟩, hu, rfl⟩ := Search.saved?_sound h
  have hlast : r.assemble[0 + r.size]? = some .accept := by
    have := r.holds_assemble.right.head
    rwa [length_code] at this
  have hout : 0 + r.size ≤ u.address := by
    by_contra hlt
    obtain ⟨x, hx⟩ : ∃ x, (r.code 0)[u.address]? = some x :=
      ⟨_, List.getElem?_eq_getElem (by rw [length_code]; omega)⟩
    have hcode := r.holds_assemble.left u.address x hx
    rw [Nat.zero_add, hu] at hcode
    obtain rfl := Option.some.inj hcode
    exact accept_not_mem_code r 0 (List.mem_of_getElem? hx)
  obtain ⟨m, j, c, -, hm, hs⟩ := isPassed r r.holds_assemble.left hr (Or.inr hout)
  refine ⟨i, j, c, hm, ?_⟩
  cases hs with
  | refl => rfl
  | step hstep _ =>
      obtain ⟨x, hx, hv⟩ := hstep
      obtain rfl := Option.some.inj (hlast.symm.trans hx)
      cases hv

theorem saved?_assemble_isSome {r : Regex} {s : Subject} (hs : s.Bounded) {i j : Nat}
    {c : List (Nat × Nat)} (hi : i ≤ s.size) (h : r.Matches s i j c) :
    (Search.saved? r.assemble s).isSome = true := by
  have hlast : r.assemble[0 + r.size]? = some .accept := by
    have := r.holds_assemble.right.head
    rwa [length_code] at this
  exact Search.saved?_isSome hs hi (h.steps r.holds_assemble.left [(0, i)]) hlast

/-- The spans of the groups are those of the texts captured. -/
theorem spanOf_of_records {text : Text} (before piece after : Text) {saved : List (Nat × Nat)}
    {captures : List (Nat × Text)} (hr : Records text saved captures)
    (ht : text = before ++ piece ++ after) (hzero : ∀ q ∈ saved, q.1 / 2 ≠ 0) (count : Nat) :
    List.Forall₂ (SpanOf text)
      ((List.range (count + 1)).map
        (span? ((1, (before ++ piece).byteSize) :: (saved ++ [(0, before.byteSize)]))))
      (some piece :: groupTexts count captures) := by
  have hlookup : ∀ slot, 2 ≤ slot →
      ((1, (before ++ piece).byteSize) :: (saved ++ [(0, before.byteSize)])).lookup slot =
        saved.lookup slot := by
    intro slot hslot
    have e₁ : (slot == 1) = false := by simp; omega
    have e₀ : (slot == 0) = false := by simp; omega
    simp only [List.lookup_cons, List.lookup_append, List.lookup_nil, e₁, e₀, Option.or_none]
  have hnone : saved.lookup 0 = none := by
    rw [List.lookup_eq_none_iff]
    intro q hq
    have := hzero q hq
    simp only [bne_iff_ne]
    omega
  rw [List.range_succ_eq_map, List.map_cons, groupTexts, List.map_map]
  refine .cons ?_ ?_
  · have hspan : span? ((1, (before ++ piece).byteSize) :: (saved ++ [(0, before.byteSize)])) 0 =
        some (before.byteSize, (before ++ piece).byteSize) := by
      simp [span?, List.lookup_append, List.lookup_cons, hnone]
    rw [hspan]
    exact ⟨before, after, ht, rfl, rfl⟩
  · rw [List.forall₂_map_left_iff, List.forall₂_map_right_iff, List.forall₂_same]
    intro index _
    simp only [Function.comp_apply, span?, hlookup (2 * index.succ) (by omega),
      hlookup (2 * index.succ + 1) (by omega)]
    rcases hr index.succ with ⟨h₁, h₂, h₃⟩ | ⟨x, p, y, htext, h₁, h₂, h₃⟩
    · rw [h₁, h₂, h₃]
      trivial
    · rw [h₁, h₂, h₃]
      exact ⟨x, y, htext, rfl, rfl⟩

/-- What is found from the beginning of the text is spelled by the expression, and the groups have
the texts captured last. -/
theorem find?_sound {p : Pattern} {r : Regex} (hp : p.program = r.assemble)
    (hc : r.isCharWise = true) (hn : r.isNested = true) {subject : Text}
    (hstart : ∀ i j c, r.Matches (.ofText subject) i j c → i = 0)
    {groups : List (Option Text)} (h : p.find? subject = some groups) :
    ∃ piece after captures, subject = piece ++ after ∧ Spells r [] piece after captures ∧
      groups = some piece :: groupTexts p.groups captures := by
  obtain ⟨saved, hs, rfl⟩ := Option.map_eq_some_iff.mp h
  rw [hp] at hs
  obtain ⟨i, j, c, hm, rfl⟩ := saved?_assemble_sound hs
  obtain rfl := hstart i j c hm
  obtain ⟨piece, after, captures, hsub, rfl, hsp, hr⟩ :=
    hm.exists_spells hc hn (List.nil_append subject).symm rfl
  refine ⟨piece, after, captures, hsub, hsp, texts_eq ?_⟩
  refine spanOf_of_records [] piece after hr (by simpa using hsub) ?_ p.groups
  intro q hq hzero
  exact zero_not_mem_indices hn (hzero ▸ hm.slot_mem q hq)

/-- What the expression spells is found. -/
theorem find?_isSome {p : Pattern} {r : Regex} (hp : p.program = r.assemble)
    {before piece after : Text} {captures : List (Nat × Text)}
    (h : Spells r before piece after captures) :
    (p.find? (before ++ piece ++ after)).isSome = true := by
  obtain ⟨saved, hm⟩ := h.exists_matches
  have hi : before.byteSize ≤ (Subject.ofText (before ++ piece ++ after)).size := by
    simp only [Subject.size_ofText, Text.byteSize_append]
    omega
  have := saved?_assemble_isSome (Subject.bounded_ofText _) hi hm
  simpa [find?, hp] using this

end Pattern

end RouteMask
