import RouteMask.Proofs.Regex.Reaching

/-! # Fragments of an expression

What the reader makes of a text that stands somewhere in an expression.  An atom is read as one
expression, whatever follows (`Reader.Atom`).  A fragment is read as several expressions one after
the other, unless a question mark follows that would belong to a repetition at its end
(`Reader.Yields`).

* `Reader.Yields.enclosed` and `Reader.Yields.captured`: a fragment in parentheses is an atom.
* `Reader.Atom.repeated`: an atom and a repetition operator are a fragment.
* `read_of_yields`: a fragment is an expression, which is read without regard to case. -/

namespace RouteMask.Regex

/-- Expressions one after the other. -/
def seqAll : List Regex → Regex
  | [] => .empty
  | [r] => r
  | r :: s :: rs => .seq r (seqAll (s :: rs))

theorem seqAll_cons {r : Regex} {rs : List Regex} (h : rs ≠ []) :
    seqAll (r :: rs) = .seq r (seqAll rs) := by
  cases rs with
  | nil => exact absurd rfl h
  | cons s rs => rfl

theorem seqAll_append_pair (rs : List Regex) (r s : Regex) :
    seqAll (rs ++ [r, s]) = seqAll (rs ++ [.seq r s]) := by
  induction rs with
  | nil => rfl
  | cons q rs ih =>
      rw [List.cons_append, List.cons_append, seqAll_cons (by simp), seqAll_cons (by simp), ih]

theorem foldl_join_seq (rs : List Regex) (last : Regex) :
    (rs.map Piece.plain).foldl (fun acc p => Piece.join .seq p acc) (.plain last) =
      .plain (seqAll (rs.reverse ++ [last])) := by
  induction rs generalizing last with
  | nil => rfl
  | cons r rs ih =>
      have hjoin : Piece.join .seq (.plain r) (.plain last) = .plain (.seq r last) := rfl
      rw [List.map_cons, List.foldl_cons, hjoin, ih, List.reverse_cons, List.append_assoc,
        ← seqAll_append_pair]
      rfl

theorem joinAll_seq (rs : List Regex) :
    Piece.joinAll .seq (rs.reverse.map .plain) = .plain (seqAll rs) := by
  rcases List.eq_nil_or_concat rs with rfl | ⟨rs, last, rfl⟩
  · rfl
  · rw [List.concat_eq_append, List.reverse_append, List.reverse_singleton, List.singleton_append,
      List.map_cons, Piece.joinAll, foldl_join_seq, List.reverse_reverse]

/-- An expression in a group of the given number, if it has one. -/
def inGroup (capture : Option Nat) (r : Regex) : Regex :=
  match capture with
  | some index => .group index r
  | none => r

/-- A level without alternatives amounts to its pieces, one after the other. -/
theorem close_of_pieces (outside : Flags) (capture : Option Nat) (rs : List Regex) :
    Level.close ⟨outside, capture, [], rs.reverse.map .plain⟩ =
      .plain (inGroup capture (seqAll rs)) := by
  rw [Level.close, joinAll_seq]
  cases capture <;> rfl

namespace Reader

/-- The state after the expressions `rs` in the same group, with `groups` groups opened so far. -/
def grow (st : Reader) (rs : List Regex) (groups : Nat) (repeated : Option Text) : Reader :=
  { st with
    level := { st.level with pieces := rs.reverse.map .plain ++ st.level.pieces }
    groups := groups
    repeated := repeated }

/-- The text is read as the expression `r`, which opens the groups after `n` up to `m`. -/
def Atom (flags : Flags) (n : Nat) (text : Text) (r : Regex) (m : Nat) : Prop :=
  ∀ st rest, st.flags = flags → st.groups = n → Reaches (st, text ++ rest) (st.grow [r] m none, rest)

/-- The text is read as the expressions `rs`, which open the groups after `n` up to `m`. -/
def Yields (flags : Flags) (n : Nat) (text : Text) (rs : List Regex) (m : Nat) : Prop :=
  ∀ st rest, st.flags = flags → st.groups = n → rest.head? ≠ some '?' →
    ∃ repeated, Reaches (st, text ++ rest) (st.grow rs m repeated, rest)

theorem grow_grow (st : Reader) (rs qs : List Regex) (n m : Nat) (x y : Option Text) :
    (st.grow rs n x).grow qs m y = st.grow (rs ++ qs) m y := by
  simp [grow]

variable {flags : Flags} {n m k : Nat} {text text' : Text} {r : Regex} {rs qs : List Regex}

theorem Yields.nil : Yields flags n [] [] n := by
  intro st rest _ hgroups _
  refine ⟨st.repeated, ?_⟩
  have hgrow : st.grow [] n st.repeated = st := by
    subst hgroups
    rfl
  rw [hgrow]
  exact .refl

theorem Yields.append (h : Yields flags n text rs m) (h' : Yields flags m text' qs k)
    (hne : text'.head? ≠ some '?') : Yields flags n (text ++ text') (rs ++ qs) k := by
  intro st rest hflags hgroups hrest
  have hhead : (text' ++ rest).head? ≠ some '?' := by
    cases text' with
    | nil => exact hrest
    | cons c text' => exact hne
  obtain ⟨x, hx⟩ := h st (text' ++ rest) hflags hgroups hhead
  obtain ⟨y, hy⟩ := h' (st.grow rs m x) rest hflags rfl hrest
  refine ⟨y, ?_⟩
  rw [List.append_assoc, ← grow_grow st rs qs m k x y]
  exact hx.trans hy

theorem Atom.yields (h : Atom flags n text r m) : Yields flags n text [r] m :=
  fun st rest hflags hgroups _ => ⟨none, h st rest hflags hgroups⟩

/-- A construct that is one expression is an atom. -/
theorem Atom.of_read (h : ∀ rest, Construct.read flags (text ++ rest) = some (.piece r, rest)) :
    Atom flags n text r n := by
  intro st rest hflags hgroups
  refine Next.reaches (next_iff.mpr ⟨.piece r, hflags ▸ h rest, ?_⟩)
  subst hgroups
  rfl

/-- A character that stands for itself. -/
theorem Atom.char {c : Char} (hc : c ∉ Construct.operators) :
    Atom flags n [c] (.set (.single flags.ignoreCase c.toNat)) n :=
  .of_read fun rest => Construct.read_of_not_mem_operators flags hc rest

/-- A fragment in a group that has been opened, up to the end of the group. -/
theorem reaches_close (h : Yields flags n text rs m) {st u : Reader} (capture : Option Nat)
    (hu : u = { st.openGroup capture with groups := n, names := st.names })
    (hflags : st.flags = flags) (rest : Text) :
    Reaches (u, text ++ ')' :: rest) (st.grow [inGroup capture (seqAll rs)] m none, rest) := by
  subst hu
  obtain ⟨x, hx⟩ := h { st.openGroup capture with groups := n, names := st.names } (')' :: rest)
    hflags rfl (by simp)
  refine hx.trans (Next.reaches (next_iff.mpr ⟨.close, rfl, ?_⟩))
  have hclose := close_of_pieces st.flags capture rs
  simp only [Construct.apply, closeGroup?, openGroup, grow, push, List.append_nil, hclose]
  rfl

/-- A fragment in parentheses that do not capture. -/
theorem Yields.enclosed (h : Yields flags n text rs m) :
    Atom flags n ('(' :: '?' :: ':' :: text ++ [')']) (seqAll rs) m := by
  intro st rest hflags hgroups
  have hopen : Next (st, '(' :: '?' :: ':' :: (text ++ ')' :: rest))
      (st.openGroup none, text ++ ')' :: rest) :=
    next_iff.mpr ⟨.group st.flags, rfl, rfl⟩
  have hu : st.openGroup none =
      { st.openGroup none with groups := n, names := st.names } := by
    subst hgroups
    rfl
  have hbody := reaches_close h none hu hflags rest
  have htext : '(' :: '?' :: ':' :: text ++ [')'] ++ rest =
      '(' :: '?' :: ':' :: (text ++ ')' :: rest) := by simp
  rw [htext]
  exact hbody.head hopen

/-- A fragment in parentheses that capture. -/
theorem Yields.captured (h : Yields flags (n + 1) text rs m) (hne : text.head? ≠ some '?') :
    Atom flags n ('(' :: text ++ [')']) (.group (n + 1) (seqAll rs)) m := by
  intro st rest hflags hgroups
  have hread : Construct.read st.flags ('(' :: (text ++ ')' :: rest)) =
      some (.capture none, text ++ ')' :: rest) := by
    rw [Construct.read]
    intro body heq
    cases text with
    | nil => cases heq
    | cons c text =>
        obtain ⟨rfl, -⟩ := List.cons.inj heq
        exact hne rfl
  have hopen : Next (st, '(' :: (text ++ ')' :: rest))
      (st.openCapture none, text ++ ')' :: rest) :=
    next_iff.mpr ⟨.capture none, hread, rfl⟩
  have hu : st.openCapture none =
      { st.openGroup (some (n + 1)) with groups := n + 1, names := st.names } := by
    subst hgroups
    rfl
  have hbody := reaches_close h (some (n + 1)) hu hflags rest
  have htext : '(' :: text ++ [')'] ++ rest = '(' :: (text ++ ')' :: rest) := by simp
  rw [htext]
  exact hbody.head hopen

/-- The last of the expressions is repeated at most once or without bound. -/
theorem apply_repetition (st : Reader) (r : Regex) (m lo : Nat) (hi : Option Nat) (turned : Bool)
    (hlo : lo ≤ hi.getD lo) (hhi : hi.getD lo ≤ 1) :
    Construct.apply (.repetition lo hi turned) (st.grow [r] m none) =
      some (st.grow [.times (st.flags.swapGreed == turned) lo hi r] m (some [])) := by
  have hmax : max (hi.getD lo) 1 = 1 := Nat.max_eq_right hhi
  have hcond : ¬ (hi.getD lo < lo ∨ maxRepeat < hi.getD lo ∨ maxRepeat < 1) := by
    simp only [maxRepeat]
    omega
  simp only [Construct.apply, Construct.applyRepetition, grow, List.reverse_singleton, List.map_cons,
    List.map_nil, List.cons_append, List.nil_append, Piece.plain, hmax, Nat.one_mul, if_neg hcond]

section Repetition

variable (op : Char) (lo : Nat) (hi : Option Nat)

/-- An atom and a repetition operator. -/
theorem Atom.repeated (h : Atom flags n text r m)
    (hop : ∀ rest, Construct.read flags (op :: rest) = some (Construct.readGreed lo hi rest))
    (hlo : lo ≤ hi.getD lo) (hhi : hi.getD lo ≤ 1) :
    Yields flags n (text ++ [op]) [.times (flags.swapGreed == false) lo hi r] m := by
  intro st rest hflags hgroups hrest
  have hmark : Construct.readMark rest = (false, rest) := by
    rw [Construct.readMark]
    rintro more rfl
    exact hrest rfl
  refine ⟨some [], ?_⟩
  have hnext : Next (st.grow [r] m none, op :: rest)
      (st.grow [.times (flags.swapGreed == false) lo hi r] m (some []), rest) := by
    refine next_iff.mpr ⟨.repetition lo hi false, ?_, ?_⟩
    · have hflags' : (st.grow [r] m none).flags = flags := hflags
      rw [hflags', hop, Construct.readGreed, hmark]
    · rw [apply_repetition st r m lo hi false hlo hhi, hflags]
  rw [List.append_assoc]
  exact (h st (op :: rest) hflags hgroups).trans hnext.reaches

/-- An atom and a repetition operator whose greed is turned round. -/
theorem Atom.repeated_turned (h : Atom flags n text r m)
    (hop : ∀ rest, Construct.read flags (op :: rest) = some (Construct.readGreed lo hi rest))
    (hlo : lo ≤ hi.getD lo) (hhi : hi.getD lo ≤ 1) :
    Yields flags n (text ++ [op, '?']) [.times (flags.swapGreed == true) lo hi r] m := by
  intro st rest hflags hgroups _
  refine ⟨some [], ?_⟩
  have hnext : Next (st.grow [r] m none, op :: '?' :: rest)
      (st.grow [.times (flags.swapGreed == true) lo hi r] m (some []), rest) := by
    refine next_iff.mpr ⟨.repetition lo hi true, ?_, ?_⟩
    · have hflags' : (st.grow [r] m none).flags = flags := hflags
      rw [hflags', hop, Construct.readGreed, Construct.readMark]
    · rw [apply_repetition st r m lo hi true hlo hhi, hflags]
  rw [List.append_assoc]
  exact (h st (op :: '?' :: rest) hflags hgroups).trans hnext.reaches

end Repetition

end Reader

/-- The flags of an expression that begins with `(?i)`. -/
def Flags.caseless : Flags := ⟨true, false, false, false⟩

/-- A fragment is read as a whole expression under the flags that have been set in front of it. -/
theorem read_of_reaches {flags : Flags} {source text : Text} {rs : List Regex} {m : Nat}
    (hsource : Reader.Reaches (.start, source) ({ Reader.start with flags }, text))
    (h : Reader.Yields flags 0 text rs m) : read source = .ok ⟨seqAll rs, m, []⟩ := by
  obtain ⟨x, hx⟩ := h { Reader.start with flags } [] rfl rfl (by simp)
  rw [List.append_nil] at hx
  refine read_eq_ok_iff.mpr ⟨_, hsource.trans hx, rfl, ?_⟩
  have hclose := close_of_pieces .clear none rs
  simp only [Reader.grow, Reader.start, List.append_nil, hclose]
  rfl

theorem reaches_caseless (text : Text) :
    Reader.Reaches (.start, '(' :: '?' :: 'i' :: ')' :: text)
      ({ Reader.start with flags := .caseless }, text) :=
  (Reader.next_iff.mpr ⟨.setFlags .caseless, rfl, rfl⟩).reaches

/-- A fragment is read as a whole expression without regard to case. -/
theorem read_of_yields {text : Text} {rs : List Regex} {m : Nat}
    (h : Reader.Yields .caseless 0 text rs m) :
    read ('(' :: '?' :: 'i' :: ')' :: text) = .ok ⟨seqAll rs, m, []⟩ :=
  read_of_reaches (reaches_caseless text) h

end RouteMask.Regex
