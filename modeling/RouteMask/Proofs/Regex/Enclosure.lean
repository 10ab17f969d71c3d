import RouteMask.Proofs.Regex.Fragment

/-! # Expressions inside a group

An expression that is read on its own is read in the same way inside a group, and the other way round,
as long as it opens no capturing group and quotes no text without end.  `Place.put` turns a state of
the reader on its own into the state inside the group; `Place.reachesIn_of_quiet` and
`Place.quiet_of_reachesIn` are the two directions.

* `standsAlone_iff`: an expression is of this kind when it can be read alone, without capturing
  groups, and can be read in parentheses. -/

namespace RouteMask.Regex

/-! ### The stack of levels -/

/-- A place inside an expression: a group that has just been opened, and what is around it. -/
structure Place where
  /-- The levels around the group. -/
  base : List Level
  /-- The flags around the group. -/
  outside : Flags
  /-- The number of the group, if it captures. -/
  capture : Option Nat
  groups : Nat
  names : List (Nat × Text)

namespace Place

variable (p : Place)

/-- The outermost level of an expression on its own, as the level of the group. -/
def root (level : Level) : Level :=
  { level with outside := p.outside, capture := p.capture }

/-- The levels of an expression on its own, put on top of the levels around the group. -/
def stack : Level → List Level → Level × List Level
  | level, [] => (p.root level, p.base)
  | level, next :: outer => (level, (stack next outer).1 :: (stack next outer).2)

/-- The state of reading an expression on its own, as the state of reading it in the group. -/
def put (st : Reader) : Reader where
  flags := st.flags
  level := (p.stack st.level st.outer).1
  outer := (p.stack st.level st.outer).2
  groups := p.groups + st.groups
  names := st.names ++ p.names
  repeated := st.repeated

theorem base_suffix_stack (level : Level) (outer : List Level) :
    p.base <:+ (p.stack level outer).2 := by
  induction outer generalizing level with
  | nil => exact List.suffix_rfl
  | cons next outer ih => exact (ih next).trans (List.suffix_cons _ _)

theorem base_suffix_put (st : Reader) : p.base <:+ (p.put st).outer :=
  p.base_suffix_stack st.level st.outer

theorem put_outer_of_nil {st : Reader} (h : st.outer = []) : (p.put st).outer = p.base := by
  unfold put
  rw [h]
  rfl

/-- What changes the pieces of a level only can be done before or after. -/
theorem stack_modify {f : Level → Level} (hf : ∀ level, p.root (f level) = f (p.root level))
    (level : Level) (outer : List Level) :
    p.stack (f level) outer = (f (p.stack level outer).1, (p.stack level outer).2) := by
  cases outer with
  | nil => rw [stack, stack, hf]
  | cons next outer => rfl

theorem stack_pieces (level : Level) (outer : List Level) :
    (p.stack level outer).1.pieces = level.pieces := by
  cases outer <;> rfl

theorem put_modify {f : Level → Level} (hf : ∀ level, p.root (f level) = f (p.root level))
    (st : Reader) (repeated : Option Text) :
    p.put { st with level := f st.level, repeated := repeated } =
      { p.put st with level := f (p.put st).level, repeated := repeated } := by
  unfold put
  rw [p.stack_modify hf st.level st.outer]

theorem put_push (st : Reader) (piece : Piece) : p.put (st.push piece) = (p.put st).push piece :=
  p.put_modify (f := fun level => { level with pieces := piece :: level.pieces })
    (fun _ => rfl) st none

theorem put_bar (st : Reader) : p.put st.bar = (p.put st).bar :=
  p.put_modify (f := fun level => { level with
      alternatives := Piece.joinAll .seq level.pieces :: level.alternatives
      pieces := [] })
    (fun _ => rfl) st none

theorem put_foldl_literal (text : Text) (st : Reader) :
    p.put (text.foldl (fun st c => st.literal c.toNat) st) =
      text.foldl (fun st c => st.literal c.toNat) (p.put st) := by
  induction text generalizing st with
  | nil => rfl
  | cons c text ih =>
      have hliteral : p.put (st.literal c.toNat) = (p.put st).literal c.toNat := p.put_push st _
      rw [List.foldl_cons, List.foldl_cons, ih, hliteral]

theorem put_closeGroup? {st : Reader} (h : st.outer ≠ []) :
    (p.put st).closeGroup? = st.closeGroup?.map p.put := by
  obtain ⟨flags, level, outer, groups, names, repeated⟩ := st
  cases outer with
  | nil => exact absurd rfl h
  | cons next outer =>
      unfold Reader.closeGroup?
      rw [Option.map_some, put_push]
      rfl

theorem put_applyRepetition (lo : Nat) (hi : Option Nat) (turned : Bool) (st : Reader) :
    Construct.applyRepetition lo hi turned (p.put st) =
      (Construct.applyRepetition lo hi turned st).map p.put := by
  have hpieces : (p.put st).level.pieces = st.level.pieces := p.stack_pieces st.level st.outer
  have hrepeated : (p.put st).repeated = st.repeated := rfl
  unfold Construct.applyRepetition
  rw [hpieces, hrepeated]
  split
  · next piece pieces _ _ =>
      dsimp only
      split
      · rfl
      · rw [Option.map_some]
        congr 1
        exact (p.put_modify (f := fun level => { level with
          pieces := ⟨.times (st.flags.swapGreed == turned) lo hi piece.regex,
            piece.copies * max (hi.getD lo) 1⟩ :: pieces }) (fun _ => rfl) st (some [])).symm
  · rfl

/-- A construct other than a capturing group is worked in at the place as it is on its own, unless it
closes the group of the place. -/
theorem apply_put {k : Construct} (hcapture : ∀ name, k ≠ .capture name) {st : Reader}
    (hclose : k = .close → st.outer ≠ []) : k.apply (p.put st) = (k.apply st).map p.put := by
  cases k with
  | capture name => exact absurd rfl (hcapture name)
  | group flags => rfl
  | setFlags flags => rfl
  | close => exact p.put_closeGroup? (hclose rfl)
  | bar => exact congrArg some (p.put_bar st).symm
  | piece r => exact congrArg some (p.put_push st (.plain r)).symm
  | quote text =>
      have hfold := p.put_foldl_literal text st
      simp only [Construct.apply, Option.map_some, ← hfold]
      rfl
  | repetition lo hi turned => exact p.put_applyRepetition lo hi turned st

end Place

namespace Reader

/-! ### Groups are only opened -/

theorem groups_foldl_literal (text : Text) (st : Reader) :
    (text.foldl (fun st c => st.literal c.toNat) st).groups = st.groups := by
  induction text generalizing st with
  | nil => rfl
  | cons c text ih => exact ih _

theorem outer_foldl_literal (text : Text) (st : Reader) :
    (text.foldl (fun st c => st.literal c.toNat) st).outer = st.outer := by
  induction text generalizing st with
  | nil => rfl
  | cons c text ih => exact ih _

/-- A capturing group adds one to the number of groups; nothing else does. -/
theorem groups_of_apply {k : Construct} {st u : Reader} (h : k.apply st = some u) :
    u.groups = st.groups ∧ (∀ name, k ≠ .capture name) ∨ u.groups = st.groups + 1 := by
  cases k with
  | capture name =>
      cases h
      exact Or.inr rfl
  | group flags =>
      cases h
      exact Or.inl ⟨rfl, by simp⟩
  | setFlags flags =>
      cases h
      exact Or.inl ⟨rfl, by simp⟩
  | close =>
      refine Or.inl ⟨?_, by simp⟩
      simp only [Construct.apply, closeGroup?] at h
      split at h
      · cases h
      · cases h
        rfl
  | bar =>
      cases h
      exact Or.inl ⟨rfl, by simp⟩
  | piece r =>
      cases h
      exact Or.inl ⟨rfl, by simp⟩
  | quote text =>
      cases h
      exact Or.inl ⟨groups_foldl_literal text st, by simp⟩
  | repetition lo hi turned =>
      refine Or.inl ⟨?_, by simp⟩
      simp only [Construct.apply, Construct.applyRepetition] at h
      split at h
      · split at h
        · cases h
        · cases h
          rfl
      · cases h

theorem Next.groups_le {p q : Reader × Text} (h : Next p q) : p.1.groups ≤ q.1.groups := by
  obtain ⟨k, -, happly⟩ := next_iff.mp h
  rcases groups_of_apply happly with ⟨hsame, -⟩ | hmore
  · exact Nat.le_of_eq hsame.symm
  · omega

theorem Reaches.groups_le {p q : Reader × Text} (h : Reaches p q) : p.1.groups ≤ q.1.groups := by
  induction h with
  | refl => exact Nat.le_refl _
  | tail _ hnext ih => exact Nat.le_trans ih hnext.groups_le

/-! ### Runs that stay in a group -/

/-- Any number of constructs further, where none closes one of the groups `base`. -/
def ReachesIn (base : List Level) : Reader × Text → Reader × Text → Prop :=
  Relation.ReflTransGen fun p q => Next p q ∧ base <:+ q.1.outer

theorem ReachesIn.reaches {base : List Level} {p q : Reader × Text} (h : ReachesIn base p q) :
    Reaches p q := by
  induction h with
  | refl => exact .refl
  | tail _ hstep ih => exact .tail ih hstep.1

/-- One construct further, which opens no capturing group and quotes no text without end. -/
def Quiet (p q : Reader × Text) : Prop :=
  Next p q ∧ q.1.groups = p.1.groups ∧ ¬ Construct.OpenQuote p.2

/-- Any number of such constructs further. -/
def ReachesQuietly : Reader × Text → Reader × Text → Prop :=
  Relation.ReflTransGen Quiet

theorem ReachesQuietly.reaches {p q : Reader × Text} (h : ReachesQuietly p q) : Reaches p q := by
  induction h with
  | refl => exact .refl
  | tail _ hstep ih => exact .tail ih hstep.1

theorem ReachesQuietly.groups_eq {p q : Reader × Text} (h : ReachesQuietly p q) :
    q.1.groups = p.1.groups := by
  induction h with
  | refl => rfl
  | tail _ hstep ih => exact hstep.2.1.trans ih

/-- From where the reader gets to the end, it goes on with the next construct. -/
theorem Reaches.of_next {p q r : Reader × Text} (h : Reaches p r) (hnext : Next p q)
    (hr : r.2 = []) : Reaches q r := by
  rcases Relation.ReflTransGen.cases_head h with rfl | ⟨q', hnext', hrest⟩
  · have := hnext.length_lt
    rw [hr] at this
    simp at this
  · obtain rfl : q' = q := Option.some.inj (hnext'.symm.trans hnext)
    exact hrest

theorem Reaches.exists_next {p : Reader × Text} {f : Reader} (h : Reaches p (f, []))
    (hp : p.2 ≠ []) : ∃ q, Next p q := by
  rcases Relation.ReflTransGen.cases_head h with rfl | ⟨q, hnext, -⟩
  · exact absurd rfl hp
  · exact ⟨q, hnext⟩

end Reader

namespace Place

open Reader

variable (p : Place) {st u : Reader} {s r more : Text}

/-- A quiet step is the same step at the place, unless what follows makes it impossible. -/
theorem next_of_quiet (h : Quiet (st, s) (u, r))
    (hmore : more = [] ∨ ∃ q, Next (p.put st, s ++ ')' :: more) q) :
    Next (p.put st, s ++ ')' :: more) (p.put u, r ++ ')' :: more) := by
  obtain ⟨hnext, hgroups, hquote⟩ := h
  obtain ⟨k, hread, happly⟩ := next_iff.mp hnext
  have hsame : u.groups = st.groups := hgroups
  have hcapture : ∀ name, k ≠ .capture name := by
    rcases groups_of_apply happly with ⟨-, hk⟩ | hplus
    · exact hk
    · omega
  have hclose : k = .close → st.outer ≠ [] := by
    rintro rfl hnil
    simp [Construct.apply, closeGroup?, hnil] at happly
  have hput : k.apply (p.put st) = some (p.put u) := by
    rw [p.apply_put hcapture hclose, happly, Option.map_some]
  refine next_iff.mpr ⟨k, ?_, hput⟩
  rcases Construct.extend_read hread hquote more with hsome | ⟨hnone, hne⟩
  · exact hsome
  · rcases hmore with hnil | ⟨⟨v, t⟩, hv⟩
    · exact absurd hnil hne
    · obtain ⟨k', hread', -⟩ := next_iff.mp hv
      cases hnone.symm.trans hread'

/-- A step at the place that opens no group and does not close the group of the place is a quiet
step. -/
theorem quiet_of_next {v : Reader} (h : Next (p.put st, s ++ ')' :: more) (v, r ++ ')' :: more))
    (hgroups : v.groups = (p.put st).groups) (hbase : p.base <:+ v.outer) :
    ∃ u, Quiet (st, s) (u, r) ∧ v = p.put u := by
  obtain ⟨k, hread, happly⟩ := next_iff.mp h
  obtain ⟨hread, hquote⟩ := Construct.shrink_read hread
  have hcapture : ∀ name, k ≠ .capture name := by
    rcases groups_of_apply happly with ⟨-, hk⟩ | hplus
    · exact hk
    · omega
  have hclose : k = .close → st.outer ≠ [] := by
    rintro rfl hnil
    have houter := p.put_outer_of_nil hnil
    simp only [Construct.apply, closeGroup?] at happly
    split at happly
    · cases happly
    · next level outer hcons =>
        cases happly
        rw [← houter, hcons] at hbase
        have hlen : (level :: outer).length ≤ outer.length := hbase.length_le
        rw [List.length_cons] at hlen
        omega
  rw [p.apply_put hcapture hclose] at happly
  obtain ⟨u, hu, rfl⟩ := Option.map_eq_some_iff.mp happly
  have hsame : u.groups = st.groups := Nat.add_left_cancel hgroups
  exact ⟨u, ⟨next_iff.mpr ⟨k, hread, hu⟩, hsame, hquote⟩, rfl⟩

/-- A quiet run is the same run at the place, and stays in the group. -/
theorem reachesIn_of_quiet (h : ReachesQuietly (st, s) (u, []))
    (hmore : more = [] ∨ ∃ f, Reaches (p.put st, s ++ ')' :: more) (f, [])) :
    ReachesIn p.base (p.put st, s ++ ')' :: more) (p.put u, ')' :: more) := by
  generalize hx : (st, s) = x at h
  generalize hy : (u, ([] : Text)) = y at h
  induction h using Relation.ReflTransGen.head_induction_on generalizing st s with
  | refl =>
      cases hx.trans hy.symm
      exact .refl
  | head hstep hrest ih =>
      rename_i q
      obtain ⟨v, r⟩ := q
      subst hx
      have hnext : Next (p.put st, s ++ ')' :: more) (p.put v, r ++ ')' :: more) := by
        refine p.next_of_quiet hstep ?_
        rcases hmore with hnil | ⟨f, hf⟩
        · exact Or.inl hnil
        · exact Or.inr (hf.exists_next (by simp))
      refine .head ⟨hnext, p.base_suffix_put v⟩ (ih ?_ rfl)
      rcases hmore with hnil | ⟨f, hf⟩
      · exact Or.inl hnil
      · exact Or.inr ⟨f, hf.of_next hnext rfl⟩

/-- A run at the place that stays in the group and opens no other is a quiet run. -/
theorem quiet_of_reachesIn {v : Reader}
    (h : ReachesIn p.base (p.put st, s ++ ')' :: more) (v, ')' :: more))
    (hgroups : v.groups = (p.put st).groups) :
    ∃ u, ReachesQuietly (st, s) (u, []) ∧ v = p.put u := by
  generalize hx : (p.put st, s ++ ')' :: more) = x at h
  generalize hy : (v, ')' :: more) = y at h
  induction h using Relation.ReflTransGen.head_induction_on generalizing st s with
  | refl =>
      obtain ⟨hv, hs⟩ := Prod.mk.inj (hx.trans hy.symm)
      have hnil : s = [] := List.append_cancel_right (hs : s ++ ')' :: more = [] ++ ')' :: more)
      subst hnil
      exact ⟨st, .refl, hv.symm⟩
  | head hstep hrest ih =>
      rename_i q
      obtain ⟨w, t⟩ := q
      subst hx
      subst hy
      have hreach : Reaches (w, t) (v, ')' :: more) := ReachesIn.reaches hrest
      obtain ⟨r, rfl⟩ : ∃ r, t = r ++ ')' :: more := by
        obtain ⟨r, hr⟩ := hreach.suffix
        exact ⟨r, hr.symm⟩
      have hle := hreach.groups_le
      have hle' := hstep.1.groups_le
      have hsame : w.groups = (p.put st).groups := by
        have : v.groups = (p.put st).groups := hgroups
        exact Nat.le_antisymm (this ▸ hle) hle'
      obtain ⟨u', hquiet, rfl⟩ := p.quiet_of_next hstep.1 hsame hstep.2
      obtain ⟨u, hu, hv⟩ := ih (hgroups.trans hsame.symm) rfl
      exact ⟨u, .head hquiet hu, hv⟩

end Place

/-! ### Expressions that stand alone -/

/-- The state of reading without regard to case, at the beginning. -/
def Reader.caseless : Reader :=
  { Reader.start with flags := .caseless }

/-- The text is an expression without capturing groups, and is one in parentheses as well. -/
def StandsAlone (body : Text) : Prop :=
  (∃ reading, read ("(?i)".toList ++ body) = .ok reading ∧ reading.groups = 0) ∧
    ∃ reading, read ("(?i)(?:".toList ++ body ++ [')']) = .ok reading

namespace Place

open Reader

/-- The place in the first group of an expression, which does not capture. -/
def first : Place :=
  ⟨[caseless.level], .caseless, none, 0, []⟩

end Place

namespace Reader

theorem next_start (s : Text) : Next (.start, "(?i)".toList ++ s) (caseless, s) :=
  next_iff.mpr ⟨.setFlags .caseless, rfl, rfl⟩

theorem next_openGroup {st : Reader} (s : Text) :
    Next (st, "(?:".toList ++ s) (st.openGroup none, s) :=
  next_iff.mpr ⟨.group st.flags, rfl, rfl⟩

/-- Closing a group brings back the levels and the flags around it. -/
theorem next_close {st : Reader} {level : Level} {outer : List Level} (h : st.outer = level :: outer)
    (rest : Text) : ∃ u, Next (st, ')' :: rest) (u, rest) ∧ u.flags = st.level.outside ∧
      u.level.outside = level.outside ∧ u.outer = outer ∧ u.groups = st.groups := by
  obtain ⟨flags, inner, outer', groups, names, repeated⟩ := st
  cases h
  exact ⟨_, next_iff.mpr ⟨.close, rfl, rfl⟩, rfl, rfl, rfl, rfl⟩

/-- Quoted text without end takes the end of its group with it, which stays open. -/
theorem not_openQuote_of_reaches {st f : Reader} {s : Text}
    (h : Reaches (st, s ++ [')']) (f, [])) (hst : st.outer ≠ []) (hf : f.outer = []) :
    ¬ Construct.OpenQuote s := by
  intro hquote
  obtain ⟨⟨u, r⟩, hnext⟩ := h.exists_next (by simp)
  obtain ⟨k, hread, happly⟩ := next_iff.mp hnext
  have hr : r = [] := List.suffix_nil.mp (Construct.suffix_of_read_openQuote hquote hread)
  subst hr
  obtain ⟨q, rfl, -⟩ := hquote
  obtain ⟨rfl, -⟩ := Prod.mk.inj (Option.some.inj hread)
  cases happly
  have hsame := h.of_next hnext rfl
  rcases Relation.ReflTransGen.cases_head hsame with heq | ⟨v, hv, -⟩
  · obtain ⟨heq, -⟩ := Prod.mk.inj heq
    rw [← heq] at hf
    exact hst ((outer_foldl_literal _ st).symm.trans hf)
  · exact not_next_nil _ v hv

end Reader

/-- What is read alone without opening a group, and in a group that is closed, is read quietly. -/
theorem Place.quiet_of_reaches (p : Place) {st u f : Reader} {s : Text}
    (h : Reader.Reaches (st, s) (u, [])) (hgroups : u.groups = st.groups)
    (hput : Reader.Reaches (p.put st, s ++ [')']) (f, [])) (hbase : p.base ≠ [])
    (hf : f.outer = []) : Reader.ReachesQuietly (st, s) (u, []) := by
  generalize hx : (st, s) = x at h
  generalize hy : (u, ([] : Text)) = y at h
  induction h using Relation.ReflTransGen.head_induction_on generalizing st s with
  | refl => exact .refl
  | head hstep hrest ih =>
      rename_i q
      obtain ⟨v, r⟩ := q
      subst hx
      subst hy
      have hsame : v.groups = st.groups := by
        have hle : v.groups ≤ u.groups := Reader.Reaches.groups_le hrest
        have hle' : st.groups ≤ v.groups := hstep.groups_le
        omega
      have hopen : (p.put st).outer ≠ [] := by
        intro hnil
        have hsuffix := p.base_suffix_put st
        rw [hnil] at hsuffix
        exact hbase (List.suffix_nil.mp hsuffix)
      have hquiet : Reader.Quiet (st, s) (v, r) :=
        ⟨hstep, hsame, Reader.not_openQuote_of_reaches hput hopen hf⟩
      have hnext := p.next_of_quiet hquiet (Or.inl rfl)
      exact .head hquiet (ih (hgroups.trans hsame.symm) (hput.of_next hnext rfl) rfl)

/-- An expression stands alone when it is read to its end without opening a capturing group and
without quoting text that does not end. -/
theorem standsAlone_iff {body : Text} :
    StandsAlone body ↔
      ∃ st, Reader.ReachesQuietly (.caseless, body) (st, []) ∧ st.outer = [] := by
  constructor
  · rintro ⟨⟨reading, hread, hgroups⟩, ⟨reading', hread'⟩⟩
    obtain ⟨st, hst, houter, rfl⟩ := read_eq_ok_iff.mp hread
    obtain ⟨f, hf, hclosed, -⟩ := read_eq_ok_iff.mp hread'
    have halone := hst.of_next (Reader.next_start body) rfl
    have hgroup : Reader.Reaches (Place.first.put .caseless, body ++ [')']) (f, []) := by
      have htext : "(?i)(?:".toList ++ body ++ [')'] =
          "(?i)".toList ++ ("(?:".toList ++ (body ++ [')'])) := by simp
      rw [htext] at hf
      exact (hf.of_next (Reader.next_start _) rfl).of_next (Reader.next_openGroup _) rfl
    have hopen : Place.first.base ≠ [] := List.cons_ne_nil _ _
    exact ⟨st, Place.first.quiet_of_reaches halone hgroups hgroup hopen hclosed, houter⟩
  · rintro ⟨st, hquiet, houter⟩
    have hgroups : st.groups = 0 := hquiet.groups_eq
    refine ⟨⟨_, read_eq_ok_iff.mpr ⟨st, .head (Reader.next_start body) hquiet.reaches, houter, rfl⟩,
      hgroups⟩, ?_⟩
    have hin := Place.first.reachesIn_of_quiet hquiet (Or.inl rfl)
    have hbase : (Place.first.put st).outer = [Reader.caseless.level] :=
      Place.first.put_outer_of_nil houter
    obtain ⟨u, hclose, -, -, hu, -⟩ := Reader.next_close hbase []
    have htext : "(?i)(?:".toList ++ body ++ [')'] =
        "(?i)".toList ++ ("(?:".toList ++ (body ++ [')'])) := by simp
    rw [htext]
    refine ⟨_, read_eq_ok_iff.mpr ⟨u, .head (Reader.next_start _) (.head (Reader.next_openGroup _) ?_),
      hu, rfl⟩⟩
    exact hin.reaches.tail hclose

/-! ### Capturing groups -/

namespace Reader

/-- In what the reader has in front of it, the capturing group of the given number is a parenthesis,
the text `body` and the parenthesis in front of `after`. -/
def IsGroup (p : Reader × Text) (index : Nat) (body after : Text) : Prop :=
  ∃ st u : Reader, Reaches p (st, '(' :: body ++ ')' :: after) ∧ st.groups + 1 = index ∧
    Next (st, '(' :: body ++ ')' :: after) (st.openCapture none, body ++ ')' :: after) ∧
    ReachesIn (st.level :: st.outer) (st.openCapture none, body ++ ')' :: after) (u, ')' :: after) ∧
    u.outer = st.level :: st.outer

theorem IsGroup.of_reaches {p q : Reader × Text} {index : Nat} {body after : Text}
    (h : IsGroup q index body after) (hreach : Reaches p q) : IsGroup p index body after := by
  obtain ⟨st, u, hst, hrest⟩ := h
  exact ⟨st, u, hreach.trans hst, hrest⟩

/-- Of two places that the reader gets to, it gets from the one to the other. -/
theorem Reaches.of_length_le {p q r : Reader × Text} (h : Reaches p q) (h' : Reaches p r)
    (hlen : r.2.length ≤ q.2.length) : Reaches q r := by
  rcases h.total h' with hqr | hrq
  · exact hqr
  · have hle := hrq.suffix.length_le
    rw [h.eq_of_length h' (by omega)]
    exact .refl

/-- The place in a capturing group that has just been opened. -/
def place (st : Reader) : Place :=
  ⟨st.level :: st.outer, st.flags, some (st.groups + 1), st.groups + 1, st.names⟩

theorem put_place {st : Reader} (h : st.flags = .caseless) :
    st.place.put .caseless = st.openCapture none := by
  obtain ⟨flags, level, outer, groups, names, repeated⟩ := st
  cases h
  rfl

/-- An expression that stands alone does not begin with a question mark. -/
theorem head?_of_quiet {body : Text} {st : Reader} (h : ReachesQuietly (.caseless, body) (st, [])) :
    body.head? ≠ some '?' := by
  intro hhead
  obtain ⟨rest, rfl⟩ := List.head?_eq_some_iff.mp hhead
  obtain ⟨⟨u, r⟩, hnext⟩ := h.reaches.exists_next (List.cons_ne_nil _ _)
  obtain ⟨k, hread, happly⟩ := next_iff.mp hnext
  have hk : k = .repetition 0 (some 1) (Construct.readMark rest).1 :=
    (Prod.mk.inj (Option.some.inj hread)).1.symm
  subst hk
  cases happly

theorem next_openCapture {st : Reader} {s : Text} (h : s.head? ≠ some '?') :
    Next (st, '(' :: s) (st.openCapture none, s) := by
  refine next_iff.mpr ⟨.capture none, ?_, rfl⟩
  rw [Construct.read]
  rintro body rfl
  exact h rfl

/-- An expression that stands alone is what a capturing group encloses when it is put in parentheses,
if the reader gets through the whole. -/
theorem reaches_group {st f : Reader} {body after : Text} (hflags : st.flags = .caseless)
    (hbody : StandsAlone body) (hf : Reaches (st, '(' :: body ++ ')' :: after) (f, [])) :
    IsGroup (st, '(' :: body ++ ')' :: after) (st.groups + 1) body after ∧
      ∃ v, Reaches (st, '(' :: body ++ ')' :: after) (v, after) ∧ v.flags = st.flags ∧
        v.level.outside = st.level.outside ∧ v.outer = st.outer ∧ v.groups = st.groups + 1 := by
  obtain ⟨u, hquiet, houter⟩ := standsAlone_iff.mp hbody
  have hhead : (body ++ ')' :: after).head? ≠ some '?' := by
    have := head?_of_quiet hquiet
    cases body with
    | nil => exact fun h => absurd (Option.some.inj h) (by decide)
    | cons c body => exact this
  have hopen : Next (st, '(' :: (body ++ ')' :: after))
      (st.openCapture none, body ++ ')' :: after) := next_openCapture hhead
  have hput := put_place hflags
  have hin : ReachesIn (st.level :: st.outer) (st.openCapture none, body ++ ')' :: after)
      (st.place.put u, ')' :: after) := by
    rw [← hput]
    refine st.place.reachesIn_of_quiet hquiet (Or.inr ⟨f, ?_⟩)
    rw [hput]
    exact hf.of_next hopen rfl
  have hbase : (st.place.put u).outer = st.level :: st.outer := st.place.put_outer_of_nil houter
  refine ⟨⟨st, st.place.put u, .refl, rfl, hopen, hin, hbase⟩, ?_⟩
  obtain ⟨v, hclose, hvflags, hvoutside, hvouter, hvgroups⟩ := next_close hbase after
  refine ⟨v, .head hopen (hin.reaches.tail hclose), ?_, hvoutside, hvouter, ?_⟩
  · rw [hvflags]
    unfold Place.put
    rw [houter]
    rfl
  · rw [hvgroups]
    exact congrArg (st.groups + 1 + ·) hquiet.groups_eq

/-- What a capturing group encloses without another one stands alone. -/
theorem standsAlone_of_reachesIn {st u : Reader} {body after : Text} (hflags : st.flags = .caseless)
    (h : ReachesIn (st.level :: st.outer) (st.openCapture none, body ++ ')' :: after)
      (u, ')' :: after))
    (houter : u.outer = st.level :: st.outer) (hgroups : u.groups = st.groups + 1) :
    StandsAlone body := by
  rw [← put_place hflags] at h
  obtain ⟨v, hquiet, rfl⟩ := st.place.quiet_of_reachesIn h hgroups
  refine standsAlone_iff.mpr ⟨v, hquiet, ?_⟩
  cases hv : v.outer with
  | nil => rfl
  | cons next outer =>
      have hsuffix := st.place.base_suffix_stack next outer
      have hlen := hsuffix.length_le
      have hput : (st.place.put v).outer =
          (st.place.stack next outer).1 :: (st.place.stack next outer).2 := by
        unfold Place.put
        rw [hv]
        rfl
      rw [hput] at houter
      have hbase : st.place.base = st.level :: st.outer := rfl
      rw [hbase, ← houter, List.length_cons] at hlen
      omega

end Reader

end RouteMask.Regex
