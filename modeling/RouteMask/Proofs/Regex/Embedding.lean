import RouteMask.Proofs.Regex.Enclosure

/-! # Expressions inside expressions

An expression that stands alone is read in parentheses as it is read on its own.  How much counted
repetitions copy plays no part in that, and whether the reader gets through at all is known beforehand:
`Reader.Reads` is what the reader makes of a text on the way to the end.

* `Reader.Reads.append`, `Reader.Reads.enclosed`, `Reader.Reads.captured` and
  `Reader.ReadsAtom.repeated`: fragments are put together as in `Reader.Yields`.
* `Reader.readsAtom_enclosed` and `Reader.readsAtom_captured`: a text that stands alone, in
  parentheses.
* `StandsAs.regex_eq`: an expression that stands alone is the one that is read in parentheses. -/

namespace RouteMask.Regex

/-! ### What a level amounts to -/

theorem regex_foldl_join {f : Regex → Regex → Regex} {a b : Piece} (h : a.regex = b.regex)
    (ps : List Piece) :
    (ps.foldl (fun acc p => Piece.join f p acc) a).regex =
      ((ps.map fun p => Piece.plain p.regex).foldl (fun acc p => Piece.join f p acc) b).regex := by
  induction ps generalizing a b with
  | nil => exact h
  | cons p ps ih => exact ih (congrArg (f p.regex) h)

/-- Pieces are joined to the same expression, however often they have been copied. -/
theorem regex_joinAll_seq (ps : List Piece) :
    (Piece.joinAll .seq ps).regex = seqAll (ps.map (·.regex)).reverse := by
  have hplain : (Piece.joinAll .seq ps).regex =
      (Piece.joinAll .seq (ps.map fun p => Piece.plain p.regex)).regex := by
    cases ps with
    | nil => rfl
    | cons last others =>
        exact regex_foldl_join (f := .seq) (a := last) (b := .plain last.regex) rfl others
  have hmap : (ps.map fun p => Piece.plain p.regex) =
      (ps.map (·.regex)).reverse.reverse.map Piece.plain := by
    rw [List.reverse_reverse, List.map_map]
    rfl
  rw [hplain, hmap, joinAll_seq]
  rfl

/-- The expression of a level, without its group. -/
def Level.body (level : Level) : Regex :=
  (Piece.joinAll .alt (Piece.joinAll .seq level.pieces :: level.alternatives)).regex

theorem Level.regex_close (level : Level) : level.close.regex = inGroup level.capture level.body := by
  unfold Level.close Level.body
  cases level.capture <;> rfl

/-- The text is an expression on its own, which opens no group. -/
def StandsAs (body : Text) (r : Regex) : Prop :=
  ∃ st, Reader.ReachesQuietly (.caseless, body) (st, []) ∧ st.outer = [] ∧ st.level.body = r

theorem StandsAlone.exists_standsAs {body : Text} (h : StandsAlone body) : ∃ r, StandsAs body r := by
  obtain ⟨st, hquiet, houter⟩ := standsAlone_iff.mp h
  exact ⟨_, st, hquiet, houter, rfl⟩

namespace Reader

/-- The state `u` is `st` after the expressions `rs` in the same group, with `m` groups opened. -/
structure Grown (st : Reader) (rs : List Regex) (m : Nat) (u : Reader) : Prop where
  flags : u.flags = st.flags
  level : ∃ ps : List Piece, ps.map (·.regex) = rs.reverse ∧
    u.level = { st.level with pieces := ps ++ st.level.pieces }
  outer : u.outer = st.outer
  groups : u.groups = m

theorem grown_grow (st : Reader) (rs : List Regex) (m : Nat) (repeated : Option Text) :
    st.Grown rs m (st.grow rs m repeated) :=
  ⟨rfl, ⟨rs.reverse.map .plain, by simp [Piece.plain, Function.comp_def], rfl⟩, rfl, rfl⟩

theorem Grown.trans {st u v : Reader} {rs qs : List Regex} {m k : Nat} (h : st.Grown rs m u)
    (h' : u.Grown qs k v) : st.Grown (rs ++ qs) k v := by
  obtain ⟨ps, hps, hlevel⟩ := h.level
  obtain ⟨ps', hps', hlevel'⟩ := h'.level
  refine ⟨h'.flags.trans h.flags, ⟨ps' ++ ps, ?_, ?_⟩, h'.outer.trans h.outer, h'.groups⟩
  · rw [List.map_append, hps, hps', List.reverse_append]
  · rw [hlevel', hlevel, List.append_assoc]

variable {flags : Flags} {n m k : Nat} {text text' body : Text} {r : Regex} {rs qs : List Regex}

/-- On the way to the end the text is read as the expressions `rs`, which open the groups after `n` up to
`m`. -/
def Reads (flags : Flags) (n : Nat) (text : Text) (rs : List Regex) (m : Nat) : Prop :=
  ∀ st rest f, st.flags = flags → st.groups = n → rest.head? ≠ some '?' →
    Reaches (st, text ++ rest) (f, []) →
      ∃ u, Reaches (st, text ++ rest) (u, rest) ∧ st.Grown rs m u

/-- On the way to the end the text is read as the expression `r`, whatever follows. -/
def ReadsAtom (flags : Flags) (n : Nat) (text : Text) (r : Regex) (m : Nat) : Prop :=
  ∀ st rest f, st.flags = flags → st.groups = n → Reaches (st, text ++ rest) (f, []) →
    ∃ u, Reaches (st, text ++ rest) (u, rest) ∧ st.Grown [r] m u

theorem Yields.reads (h : Yields flags n text rs m) : Reads flags n text rs m := by
  intro st rest f hflags hgroups hrest _
  obtain ⟨x, hx⟩ := h st rest hflags hgroups hrest
  exact ⟨_, hx, st.grown_grow rs m x⟩

theorem ReadsAtom.reads (h : ReadsAtom flags n text r m) : Reads flags n text [r] m :=
  fun st rest f hflags hgroups _ hf => h st rest f hflags hgroups hf

theorem Reads.append (h : Reads flags n text rs m) (h' : Reads flags m text' qs k)
    (hne : text'.head? ≠ some '?') : Reads flags n (text ++ text') (rs ++ qs) k := by
  intro st rest f hflags hgroups hrest hf
  have hhead : (text' ++ rest).head? ≠ some '?' := by
    cases text' with
    | nil => exact hrest
    | cons c text' => exact hne
  rw [List.append_assoc] at hf ⊢
  obtain ⟨u, hu, hgrown⟩ := h st (text' ++ rest) f hflags hgroups hhead hf
  obtain ⟨v, hv, hgrown'⟩ := h' u rest f (hgrown.flags.trans hflags) hgrown.groups hrest
    (hu.of_length_le hf (Nat.zero_le _))
  exact ⟨v, hu.trans hv, hgrown.trans hgrown'⟩

/-! ### Parentheses -/

/-- Closing a group adds the expression of its level. -/
theorem exists_closed {u : Reader} {level : Level} {outer : List Level}
    (h : u.outer = level :: outer) (rest : Text) :
    ∃ v k, Next (u, ')' :: rest) (v, rest) ∧ v.flags = u.level.outside ∧
      v.level = { level with
        pieces := ⟨inGroup u.level.capture u.level.body, k⟩ :: level.pieces } ∧
      v.outer = outer ∧ v.groups = u.groups := by
  obtain ⟨flags, inner, outer', groups, names, repeated⟩ := u
  cases h
  have hclose : inner.close = ⟨inGroup inner.capture inner.body, inner.close.copies⟩ := by
    rw [← inner.regex_close]
  refine ⟨_, inner.close.copies, next_iff.mpr ⟨.close, rfl, rfl⟩, rfl, ?_, rfl, rfl⟩
  exact congrArg (fun piece => { level with pieces := piece :: level.pieces }) hclose

/-- A fragment in a group that has been opened, up to the end of the group. -/
theorem Reads.closed (h : Reads flags n text rs m) (st u : Reader) {f : Reader} (capture : Option Nat)
    (hlevel : u.level = ⟨st.flags, capture, [], []⟩) (houter : u.outer = st.level :: st.outer)
    (hflags : u.flags = flags) (hgroups : u.groups = n) {rest : Text}
    (hf : Reaches (u, text ++ ')' :: rest) (f, [])) :
    ∃ v, Reaches (u, text ++ ')' :: rest) (v, rest) ∧
      st.Grown [inGroup capture (seqAll rs)] m v := by
  obtain ⟨w, hw, hgrown⟩ := h u (')' :: rest) f hflags hgroups (by simp) hf
  obtain ⟨ps, hps, hwlevel⟩ := hgrown.level
  rw [hlevel] at hwlevel
  obtain ⟨v, k, hclose, hvflags, hvlevel, hvouter, hvgroups⟩ :=
    exists_closed (hgrown.outer.trans houter) rest
  have hbody : w.level.body = seqAll rs := by
    rw [hwlevel, Level.body]
    have hseq := regex_joinAll_seq ps
    rw [hps, List.reverse_reverse] at hseq
    rw [List.append_nil]
    exact hseq
  rw [hbody, hwlevel] at hvlevel
  rw [hwlevel] at hvflags
  exact ⟨v, hw.tail hclose, hvflags, ⟨[⟨inGroup capture (seqAll rs), k⟩], rfl, hvlevel⟩, hvouter,
    hvgroups.trans hgrown.groups⟩

theorem Reads.enclosed (h : Reads flags n text rs m) :
    ReadsAtom flags n ("(?:".toList ++ text ++ [')']) (seqAll rs) m := by
  intro st rest f hflags hgroups hf
  have htext : "(?:".toList ++ text ++ [')'] ++ rest = "(?:".toList ++ (text ++ ')' :: rest) := by
    simp
  rw [htext] at hf ⊢
  have hopen : Next (st, _) (st.openGroup none, _) := next_openGroup (text ++ ')' :: rest)
  obtain ⟨v, hv, hgrown⟩ := h.closed st (st.openGroup none) none rfl rfl hflags hgroups
    (hf.of_next hopen rfl)
  exact ⟨v, .head hopen hv, hgrown⟩

theorem Reads.captured (h : Reads flags (n + 1) text rs m) (hne : text.head? ≠ some '?') :
    ReadsAtom flags n ('(' :: text ++ [')']) (.group (n + 1) (seqAll rs)) m := by
  intro st rest f hflags hgroups hf
  have htext : '(' :: text ++ [')'] ++ rest = '(' :: (text ++ ')' :: rest) := by simp
  have hhead : (text ++ ')' :: rest).head? ≠ some '?' := by
    cases text with
    | nil => simp
    | cons c text => exact hne
  rw [htext] at hf ⊢
  have hopen : Next (st, _) (st.openCapture none, _) := next_openCapture hhead
  subst hgroups
  obtain ⟨v, hv, hgrown⟩ := h.closed st (st.openCapture none) (some (st.groups + 1)) rfl rfl
    hflags rfl (hf.of_next hopen rfl)
  exact ⟨v, .head hopen hv, hgrown⟩

/-! ### Expressions that stand alone -/

/-- An expression that stands alone, at a place, up to the end of the group of the place. -/
theorem reaches_place (p : Place) {level : Level} {outer : List Level}
    (hbase : p.base = level :: outer) (hbody : StandsAs body r) {f : Reader} {rest : Text}
    (hf : Reaches (p.put .caseless, body ++ ')' :: rest) (f, [])) :
    ∃ v k, Reaches (p.put .caseless, body ++ ')' :: rest) (v, rest) ∧ v.flags = p.outside ∧
      v.level = { level with pieces := ⟨inGroup p.capture r, k⟩ :: level.pieces } ∧
      v.outer = outer ∧ v.groups = p.groups := by
  obtain ⟨u, hquiet, houter, rfl⟩ := hbody
  have hin := p.reachesIn_of_quiet hquiet (Or.inr ⟨f, hf⟩)
  have hput : (p.put u).level = p.root u.level := by
    unfold Place.put
    rw [houter]
    rfl
  obtain ⟨v, k, hclose, hflags, hlevel, hvouter, hgroups⟩ :=
    exists_closed ((p.put_outer_of_nil houter).trans hbase) rest
  rw [hput] at hflags hlevel
  refine ⟨v, k, hin.reaches.tail hclose, hflags, hlevel, hvouter, hgroups.trans ?_⟩
  exact congrArg (p.groups + ·) hquiet.groups_eq

/-- The place in a group that has just been opened and does not capture. -/
def groupPlace (st : Reader) : Place :=
  ⟨st.level :: st.outer, st.flags, none, st.groups, st.names⟩

theorem put_groupPlace {st : Reader} (h : st.flags = .caseless) :
    st.groupPlace.put .caseless = st.openGroup none := by
  obtain ⟨flags, level, outer, groups, names, repeated⟩ := st
  cases h
  rfl

/-- An expression that stands alone, in parentheses that do not capture. -/
theorem readsAtom_enclosed (h : StandsAs body r) :
    ReadsAtom .caseless n ("(?:".toList ++ body ++ [')']) r n := by
  intro st rest f hflags hgroups hf
  have htext : "(?:".toList ++ body ++ [')'] ++ rest = "(?:".toList ++ (body ++ ')' :: rest) := by
    simp
  rw [htext] at hf ⊢
  have hopen : Next (st, _) (st.openGroup none, _) := next_openGroup (body ++ ')' :: rest)
  have hf' := hf.of_next hopen rfl
  rw [← put_groupPlace hflags] at hf' hopen
  obtain ⟨v, k, hv, hvflags, hlevel, houter, hvgroups⟩ :=
    reaches_place st.groupPlace rfl h hf'
  exact ⟨v, .head hopen hv, hvflags, ⟨[⟨r, k⟩], rfl, hlevel⟩, houter, hvgroups.trans hgroups⟩

/-- An expression that stands alone, in parentheses that capture. -/
theorem readsAtom_captured (h : StandsAs body r) :
    ReadsAtom .caseless n ('(' :: body ++ [')']) (.group (n + 1) r) (n + 1) := by
  intro st rest f hflags hgroups hf
  have htext : '(' :: body ++ [')'] ++ rest = '(' :: (body ++ ')' :: rest) := by simp
  have hhead : (body ++ ')' :: rest).head? ≠ some '?' := by
    obtain ⟨u, hquiet, -⟩ := h
    have := head?_of_quiet hquiet
    cases body with
    | nil => simp
    | cons c body => exact this
  rw [htext] at hf ⊢
  have hopen : Next (st, _) (st.openCapture none, _) := next_openCapture hhead
  have hf' := hf.of_next hopen rfl
  rw [← put_place hflags] at hf' hopen
  obtain ⟨v, k, hv, hvflags, hlevel, houter, hvgroups⟩ := reaches_place st.place rfl h hf'
  subst hgroups
  exact ⟨v, .head hopen hv, hvflags, ⟨[⟨.group (st.groups + 1) r, k⟩], rfl, hlevel⟩, houter, hvgroups⟩

/-! ### Repetitions -/

/-- An atom and a repetition operator. -/
theorem ReadsAtom.repeated (h : ReadsAtom flags n text r m) (op : Char) (lo : Nat) (hi : Option Nat)
    (hop : ∀ rest, Construct.read flags (op :: rest) = some (Construct.readGreed lo hi rest)) :
    Reads flags n (text ++ [op]) [.times (flags.swapGreed == false) lo hi r] m := by
  intro st rest f hflags hgroups hrest hf
  rw [List.append_assoc, List.singleton_append] at hf ⊢
  obtain ⟨u, hu, hgrown⟩ := h st (op :: rest) f hflags hgroups hf
  have huflags := hgrown.flags.trans hflags
  have hmark : Construct.readMark rest = (false, rest) := by
    rw [Construct.readMark]
    rintro more rfl
    exact hrest rfl
  have hread : Construct.read u.flags (op :: rest) = some (.repetition lo hi false, rest) := by
    rw [huflags, hop, Construct.readGreed, hmark]
  -- The reader goes on, so the repetition is not refused.
  obtain ⟨⟨v, rest'⟩, hnext⟩ :=
    (hu.of_length_le hf (Nat.zero_le _)).exists_next (List.cons_ne_nil _ _)
  obtain ⟨k, hread', happly⟩ := next_iff.mp hnext
  obtain ⟨rfl, rfl⟩ := Prod.mk.inj (Option.some.inj (hread.symm.trans hread'))
  obtain ⟨ps, hps, hlevel⟩ := hgrown.level
  obtain ⟨piece, rfl, rfl⟩ : ∃ piece : Piece, ps = [piece] ∧ piece.regex = r := by
    simpa [List.map_eq_singleton_iff] using hps
  simp only [Construct.apply, Construct.applyRepetition, hlevel, List.singleton_append] at happly
  split at happly
  · next heq =>
      obtain ⟨rfl, rfl⟩ := List.cons.inj heq
      split at happly
      · cases happly
      · obtain rfl := Option.some.inj happly
        refine ⟨_, hu.tail hnext, hgrown.flags, ⟨[_], ?_, rfl⟩, hgrown.outer, hgrown.groups⟩
        rw [huflags]
        rfl
  · cases happly

end Reader

open Reader

/-- What an expression is read as on the way to the end is what it is read as. -/
theorem regex_of_reads {text : Text} {rs : List Regex} {m : Nat} (h : Reads .caseless 0 text rs m)
    {reading : Reading} (hread : read ("(?i)".toList ++ text) = .ok reading) :
    reading.regex = seqAll rs ∧ reading.groups = m := by
  obtain ⟨f, hf, -, rfl⟩ := read_eq_ok_iff.mp hread
  have hf := hf.of_next (next_start text) rfl
  rw [← List.append_nil text] at hf
  obtain ⟨u, hu, hgrown⟩ := h .caseless [] f rfl rfl (by simp) hf
  obtain ⟨rfl, -⟩ := Prod.mk.inj (hu.eq_of_length hf rfl)
  obtain ⟨ps, hps, hlevel⟩ := hgrown.level
  refine ⟨?_, hgrown.groups⟩
  have hseq := regex_joinAll_seq ps
  rw [hps, List.reverse_reverse] at hseq
  dsimp only
  rw [Level.regex_close, hlevel]
  exact (congrArg (fun ps => (Piece.joinAll .seq ps).regex) (List.append_nil ps)).trans hseq

/-- The text is an expression on its own without capturing groups, and has the property as an expression
in parentheses. -/
def StandsAloneWith (P : Regex → Prop) (body : Text) : Prop :=
  StandsAlone body ∧
    ∀ reading, read ("(?i)(?:".toList ++ body ++ [')']) = .ok reading → P reading.regex

theorem standsAloneWith_of_yields {P : Regex → Prop} {body : Text} {rs : List Regex}
    (h : Yields .caseless 0 body rs 0) (hP : P (seqAll rs)) : StandsAloneWith P body := by
  have htext : "(?i)(?:".toList ++ body ++ [')'] =
      '(' :: '?' :: 'i' :: ')' :: ('(' :: '?' :: ':' :: body ++ [')']) := by simp
  have hread : read ("(?i)(?:".toList ++ body ++ [')']) = .ok ⟨seqAll [seqAll rs], 0, []⟩ := by
    rw [htext]
    exact read_of_yields h.enclosed.yields
  refine ⟨⟨⟨_, read_of_yields h, rfl⟩, ⟨_, hread⟩⟩, fun reading hreading => ?_⟩
  obtain rfl := Except.ok.inj (hread.symm.trans hreading)
  exact hP

theorem StandsAs.regex_eq {body : Text} {r : Regex} (h : StandsAs body r) {reading : Reading}
    (hread : read ("(?i)(?:".toList ++ body ++ [')']) = .ok reading) : reading.regex = r := by
  have htext : "(?i)(?:".toList ++ body ++ [')'] =
      "(?i)".toList ++ ("(?:".toList ++ body ++ [')']) := by simp
  rw [htext] at hread
  exact (regex_of_reads (readsAtom_enclosed h).reads hread).1

theorem StandsAloneWith.exists_standsAs {P : Regex → Prop} {body : Text}
    (h : StandsAloneWith P body) : ∃ r, StandsAs body r ∧ P r := by
  obtain ⟨r, hr⟩ := h.1.exists_standsAs
  obtain ⟨reading, hread⟩ := h.1.2
  refine ⟨r, hr, ?_⟩
  rw [← hr.regex_eq hread]
  exact h.2 reading hread

end RouteMask.Regex
