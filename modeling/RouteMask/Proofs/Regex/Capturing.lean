import RouteMask.Proofs.Regex.Fragment
import RouteMask.Proofs.Regex.Language

/-! # What groups capture, and where

A text that has been captured is spelled by the expression of its group (`Regex.Spells.exists_of_mem`).
An expression that does not look for word boundaries spells in a text alone what it spells in the middle of
a longer one (`Regex.Spells.shrink`), so that it matches the text as a whole (`Regex.matchesWhole_iff`). -/

namespace RouteMask

namespace Subject

theorem newlineAt_ofText {text : Text} {i : Nat} :
    (ofText text).newlineAt i = true ↔
      ∃ before after, text = before ++ '\n' :: after ∧ i = Text.byteSize before := by
  rw [newlineAt, beq_iff_eq, char?_ofText]

/-- Lines begin at the beginning of the text and behind line feeds. -/
theorem holds_lineStart (before after : Text) :
    (ofText (before ++ after)).holds .lineStart before.byteSize = true ↔
      before = [] ∨ before.getLast? = some '\n' := by
  have hfeed : Char.utf8Size '\n' = 1 := by decide
  rcases List.eq_nil_or_concat before with rfl | ⟨front, c, rfl⟩
  · simp [holds]
  · have hpos := c.utf8Size_pos
    rw [List.concat_eq_append]
    obtain ⟨n, hn⟩ : ∃ n, Text.byteSize (front ++ [c]) = n + 1 :=
      ⟨Text.byteSize (front ++ [c]) - 1, by simp; omega⟩
    have hholds : (ofText (front ++ [c] ++ after)).holds .lineStart (Text.byteSize (front ++ [c])) =
        (ofText (front ++ [c] ++ after)).newlineAt n := by
      rw [hn]
      rfl
    rw [hholds, newlineAt_ofText]
    constructor
    · rintro ⟨b, a, htext, hb⟩
      -- The line feed ends where the character ends, so it is this character.
      have hassoc : front ++ [c] ++ after = (b ++ ['\n']) ++ a := by simpa using htext
      have hsize : Text.byteSize (front ++ [c]) = Text.byteSize (b ++ ['\n']) := by
        rw [hn, hb, Text.byteSize_append, Text.byteSize_cons, Text.byteSize_nil, hfeed]
      obtain ⟨m, hm, -⟩ := Text.exists_append_of_byteSize_le hassoc (Nat.le_of_eq hsize)
      rw [hm, Text.byteSize_append _ m] at hsize
      obtain rfl := Text.byteSize_eq_zero.mp (show Text.byteSize m = 0 by omega)
      rw [List.append_nil] at hm
      rw [← hm]
      simp
    · intro h
      obtain rfl : c = '\n' := by simpa using h
      refine ⟨front, after, by simp, ?_⟩
      rw [Text.byteSize_append, Text.byteSize_cons, Text.byteSize_nil, hfeed] at hn
      omega

/-- Lines end at the end of the text and in front of line feeds. -/
theorem holds_lineEnd (before after : Text) :
    (ofText (before ++ after)).holds .lineEnd before.byteSize = true ↔
      after = [] ∨ after.head? = some '\n' := by
  rw [holds, Bool.or_eq_true, newlineAt_ofText]
  have hend : ((before.byteSize == (ofText (before ++ after)).size) = true) ↔ after = [] :=
    holds_textEnd before after
  rw [hend]
  refine or_congr Iff.rfl ?_
  constructor
  · rintro ⟨b, a, htext, hb⟩
    obtain ⟨m, rfl, rfl⟩ := Text.exists_append_of_byteSize_le htext (Nat.le_of_eq hb)
    rw [Text.byteSize_append] at hb
    obtain rfl := Text.byteSize_eq_zero.mp (show Text.byteSize m = 0 by omega)
    rfl
  · intro h
    obtain ⟨rest, rfl⟩ := List.head?_eq_some_iff.mp h
    exact ⟨before, rest, rfl, rfl⟩

end Subject

namespace Regex

/-- The groups in an expression, with their numbers. -/
def groupNodes : Regex → List (Nat × Regex)
  | empty | set _ | anyByte | assert _ => []
  | seq a b | alt a b => a.groupNodes ++ b.groupNodes
  | plus _ a => a.groupNodes
  | group index a => (index, a) :: a.groupNodes

variable {r : Regex} {before p after : Text} {c : List (Nat × Text)}

/-- What has been captured is spelled by the expression of a group of that number. -/
theorem Spells.exists_of_mem (h : Spells r before p after c) {index : Nat} {v : Text}
    (hv : (index, v) ∈ c) :
    ∃ a before after d, (index, a) ∈ r.groupNodes ∧ Spells a before v after d := by
  induction h with
  | empty | set | assert => cases hv
  | seq _ _ iha ihb =>
      rcases List.mem_append.mp hv with hv | hv
      · obtain ⟨a, x, y, d, hnode, hspells⟩ := ihb hv
        exact ⟨a, x, y, d, List.mem_append_right _ hnode, hspells⟩
      · obtain ⟨a, x, y, d, hnode, hspells⟩ := iha hv
        exact ⟨a, x, y, d, List.mem_append_left _ hnode, hspells⟩
  | preferred _ ih =>
      obtain ⟨a, x, y, d, hnode, hspells⟩ := ih hv
      exact ⟨a, x, y, d, List.mem_append_left _ hnode, hspells⟩
  | other _ ih =>
      obtain ⟨a, x, y, d, hnode, hspells⟩ := ih hv
      exact ⟨a, x, y, d, List.mem_append_right _ hnode, hspells⟩
  | once _ ih => exact ih hv
  | again _ _ iha ihb =>
      rcases List.mem_append.mp hv with hv | hv
      · exact ihb hv
      · exact iha hv
  | @group i a x q y d hspells ih =>
      rcases List.mem_cons.mp hv with heq | hv
      · obtain ⟨rfl, rfl⟩ := Prod.mk.inj heq
        exact ⟨a, x, y, d, List.mem_cons_self, hspells⟩
      · obtain ⟨b, x, y, d, hnode, hspells⟩ := ih hv
        exact ⟨b, x, y, d, List.mem_cons_of_mem _ hnode, hspells⟩

/-- The expression does not look for word boundaries. -/
def isBoundaryFree : Regex → Bool
  | assert .wordBoundary | assert .noWordBoundary => false
  | empty | set _ | anyByte | assert _ => true
  | seq a b | alt a b => a.isBoundaryFree && b.isBoundaryFree
  | plus _ a | group _ a => a.isBoundaryFree

/-- A condition that holds in the middle of a longer text holds in the shorter one. -/
theorem holds_of_append {a : Assertion} (ha : (Regex.assert a).isBoundaryFree = true) {x y : Text}
    (h : (Subject.ofText (x ++ before ++ (after ++ y))).holds a (x ++ before).byteSize = true) :
    (Subject.ofText (before ++ after)).holds a before.byteSize = true := by
  cases a with
  | textStart =>
      rw [Subject.holds_textStart] at h ⊢
      exact (List.append_eq_nil_iff.mp h).2
  | textEnd =>
      rw [Subject.holds_textEnd] at h ⊢
      exact (List.append_eq_nil_iff.mp h).1
  | lineStart =>
      rw [Subject.holds_lineStart] at h ⊢
      rcases List.eq_nil_or_concat before with hnil | ⟨front, c, hfront⟩
      · exact Or.inl hnil
      · rw [hfront, List.concat_eq_append] at h ⊢
        simpa using h
  | lineEnd =>
      rw [Subject.holds_lineEnd] at h ⊢
      cases after with
      | nil => exact Or.inl rfl
      | cons c after => simpa using h
  | wordBoundary => cases ha
  | noWordBoundary => cases ha

/-- What is spelled in the middle of a longer text is spelled in the shorter one. -/
theorem Spells.shrink (hr : r.isBoundaryFree = true) {x y : Text}
    (h : Spells r (x ++ before) p (after ++ y) c) : Spells r before p after c := by
  generalize hb : x ++ before = b at h
  generalize ha : after ++ y = a at h
  induction h generalizing before after with
  | empty => exact .empty _ _
  | set _ _ hm => exact .set _ _ hm
  | assert h =>
      subst hb ha
      exact .assert (holds_of_append hr h)
  | seq _ _ iha ihb =>
      rw [isBoundaryFree, Bool.and_eq_true] at hr
      subst hb ha
      exact .seq (iha hr.1 rfl (by simp)) (ihb hr.2 (by simp) rfl)
  | preferred _ ih =>
      rw [isBoundaryFree, Bool.and_eq_true] at hr
      exact .preferred (ih hr.1 hb ha)
  | other _ ih =>
      rw [isBoundaryFree, Bool.and_eq_true] at hr
      exact .other (ih hr.2 hb ha)
  | once _ ih => exact .once (ih hr hb ha)
  | again _ _ iha ihb =>
      subst hb ha
      exact .again (iha hr rfl (by simp)) (ihb hr (by simp) rfl)
  | group _ ih => exact .group (ih hr hb ha)

/-! ### Expressions that can be described by texts -/

/-- What holds of the parts of a sequence holds of the sequence. -/
theorem seqAll_of_forall {P : Regex → Prop} (hempty : P .empty)
    (hseq : ∀ a b, P a → P b → P (.seq a b)) {rs : List Regex} (h : ∀ r ∈ rs, P r) :
    P (seqAll rs) := by
  induction rs with
  | nil => exact hempty
  | cons r rs ih =>
      have hr := h r (by simp)
      have hrs := ih fun q hq => h q (by simp [hq])
      cases rs with
      | nil => exact hr
      | cons q rs => exact hseq r (seqAll (q :: rs)) hr hrs

/-- The search for the expression can be described by texts: `Pattern.find?_sound` applies. -/
def IsReadable (r : Regex) : Prop :=
  r.isCharWise = true ∧ r.isNested = true

/-- The expression has no groups and can be described by texts. -/
def IsFlat (r : Regex) : Prop :=
  r.IsReadable ∧ r.indices = []

theorem isReadable_seqAll {rs : List Regex} (h : ∀ r ∈ rs, r.IsReadable) :
    (seqAll rs).IsReadable := by
  refine seqAll_of_forall ⟨rfl, rfl⟩ ?_ h
  rintro a b ⟨hac, han⟩ ⟨hbc, hbn⟩
  exact ⟨by rw [isCharWise, hac, hbc]; rfl, by rw [isNested, han, hbn]; rfl⟩

theorem isFlat_seqAll {rs : List Regex} (h : ∀ r ∈ rs, r.IsFlat) : (seqAll rs).IsFlat := by
  refine ⟨isReadable_seqAll fun r hr => (h r hr).1, ?_⟩
  refine seqAll_of_forall (P := fun r => r.indices = []) rfl ?_ fun r hr => (h r hr).2
  intro a b ha hb
  rw [indices, ha, hb]
  rfl

/-- An expression that begins at the start of the text is found there only. -/
theorem eq_zero_of_matches {rs : List Regex} {s : Subject} {i j : Nat} {saved : List (Nat × Nat)}
    (h : (seqAll (.assert .textStart :: rs)).Matches s i j saved) : i = 0 := by
  have hassert : ∀ {j saved}, (Regex.assert .textStart).Matches s i j saved → i = 0 := by
    intro j saved h
    cases h with
    | assert h => simpa [Subject.holds] using h
  cases rs with
  | nil => exact hassert h
  | cons r rs =>
      cases h with
      | seq h _ => exact hassert h

/-! ### Matching a text as a whole -/

/-- The expression matches the text from its beginning to its end. -/
def matchesWhole (r : Regex) (text : Text) : Bool :=
  (Search.saved? (seqAll [.assert .textStart, r, .assert .textEnd]).assemble (.ofText text)).isSome

/-- What matches as a whole is what is spelled with nothing around it. -/
theorem matchesWhole_iff (hr : r.IsReadable) {text : Text} :
    r.matchesWhole text = true ↔ ∃ c, Spells r [] text [] c := by
  let pattern : Pattern :=
    ⟨[], 0, [], (seqAll [.assert .textStart, r, .assert .textEnd]).assemble⟩
  have hfind : r.matchesWhole text = (pattern.find? text).isSome := by
    rw [Pattern.find?, Option.isSome_map]
    rfl
  have hwhole : (seqAll [.assert .textStart, r, .assert .textEnd]).IsReadable := by
    refine isReadable_seqAll fun q hq => ?_
    simp only [List.mem_cons, List.not_mem_nil, or_false] at hq
    rcases hq with rfl | rfl | rfl
    · exact ⟨rfl, rfl⟩
    · exact hr
    · exact ⟨rfl, rfl⟩
  rw [hfind]
  constructor
  · intro h
    obtain ⟨groups, hgroups⟩ := Option.isSome_iff_exists.mp h
    obtain ⟨piece, after, c, rfl, hspells, -⟩ := Pattern.find?_sound (p := pattern) rfl hwhole.1 hwhole.2
      (fun i j saved hm => eq_zero_of_matches hm) hgroups
    obtain ⟨x, y, c₁, c₂, rfl, -, hstart, hrest⟩ := spells_seqAll_cons.mp hspells
    cases hstart with
    | assert _ =>
        obtain ⟨z, w, c₃, c₄, rfl, -, hz, hend⟩ := spells_seqAll_cons.mp hrest
        cases hend with
        | assert hend =>
            obtain rfl := (Subject.holds_textEnd _ _).mp hend
            exact ⟨c₃, by simpa using hz⟩
  · rintro ⟨c, h⟩
    have hend : Spells (seqAll [.assert .textEnd]) text [] [] [] :=
      .assert ((Subject.holds_textEnd text []).mpr rfl)
    have hrest : Spells (seqAll [r, .assert .textEnd]) [] text [] c :=
      spells_seqAll_cons.mpr ⟨text, [], c, [], by simp, by simp, h, hend⟩
    have hspells : Spells (seqAll [.assert .textStart, r, .assert .textEnd]) [] text [] c :=
      spells_seqAll_cons.mpr ⟨[], text, [], c, rfl, by simp,
        .assert ((Subject.holds_textStart [] _).mpr rfl), hrest⟩
    simpa using Pattern.find?_isSome (p := pattern) rfl hspells

theorem Takes.matchesWhole_iff {L : Text → Prop} (h : Takes r L) (hr : r.IsReadable) {text : Text} :
    r.matchesWhole text = true ↔ L text := by
  rw [Regex.matchesWhole_iff hr]
  constructor
  · rintro ⟨c, hc⟩
    exact ((h ..).mp hc).1
  · exact fun hL => ⟨[], (h ..).mpr ⟨hL, rfl⟩⟩

end Regex

end RouteMask
