import RouteMask.Proofs.Regex.Locality.Class

/-! # Constructs in front of a closing parenthesis

Constructs are read locally, apart from text behind `\Q` that is not ended by `\E`: it goes on behind
the parenthesis (`Construct.OpenQuote`).

* `Construct.read_suffix`: a construct is at least one character long.
* `Construct.shrink_read` and `Construct.extend_read`: what is read in front of a parenthesis and what
  is read in front of the end. -/

namespace RouteMask.Regex

/-! ### Counts and marks -/

theorem takeWhile_append_paren {p : Char → Bool} (h : p ')' = false) (s more : Text) :
    (s ++ ')' :: more).takeWhile p = s.takeWhile p := by
  induction s with
  | nil => simp [h]
  | cons c s ih =>
      rw [List.cons_append, List.takeWhile_cons, List.takeWhile_cons, ih]

theorem dropWhile_append_paren {p : Char → Bool} (h : p ')' = false) (s more : Text) :
    (s ++ ')' :: more).dropWhile p = s.dropWhile p ++ ')' :: more := by
  induction s with
  | nil => simp [h]
  | cons c s ih =>
      rw [List.cons_append, List.dropWhile_cons, List.dropWhile_cons, ih]
      split <;> rfl

theorem readCount?_append (s more : Text) :
    readCount? (s ++ ')' :: more) = (readCount? s).map fun (n, r) => (n, r ++ ')' :: more) := by
  unfold readCount?
  rw [takeWhile_append_paren (by decide), dropWhile_append_paren (by decide)]
  dsimp only
  split <;> rfl

theorem suffix_of_readCount? {s r : Text} {n : Nat} (h : readCount? s = some (n, r)) : r <:+ s := by
  unfold readCount? at h
  dsimp only at h
  split at h
  · cases h
  · cases h
    exact List.dropWhile_suffix _

theorem suffix_of_readCounts? {s r : Text} {n : Nat × Option Nat}
    (h : readCounts? s = some (n, r)) : r <:+ s := by
  unfold readCounts? at h
  split at h
  · next hs =>
      cases h
      exact (List.suffix_cons _ _).trans (suffix_of_readCount? hs)
  · next rest hs =>
      cases h
      exact List.IsSuffix.trans ⟨[',', '\x7d'], rfl⟩ (suffix_of_readCount? hs)
  · next hs =>
      split at h
      · next hmore =>
          cases h
          exact (((List.suffix_cons _ _).trans (suffix_of_readCount? hmore)).trans
            (List.suffix_cons _ _)).trans (suffix_of_readCount? hs)
      · cases h
  · cases h

theorem readCounts?_append (s more : Text) :
    readCounts? (s ++ ')' :: more) = (readCounts? s).map fun (n, r) => (n, r ++ ')' :: more) := by
  have happ := readCount?_append s more
  cases hs : readCount? s with
  | none =>
      rw [hs] at happ
      simp [readCounts?, hs, happ]
  | some p =>
      obtain ⟨lo, t⟩ := p
      rw [hs] at happ
      unfold readCounts?
      rw [happ, hs]
      rcases t with _ | ⟨c, t⟩
      · rfl
      by_cases hc : c = '\x7d'
      · subst hc
        rfl
      by_cases hcomma : c = ','
      · subst hcomma
        rcases t with _ | ⟨d, t⟩
        · rfl
        by_cases hd : d = '\x7d'
        · subst hd
          rfl
        have hnext := readCount?_append (d :: t) more
        rw [List.cons_append] at hnext
        cases ht : readCount? (d :: t) with
        | none => simp [hd, hnext, ht]
        | some q =>
            obtain ⟨hi, u⟩ := q
            rcases u with _ | ⟨e, u⟩
            · simp [hd, hnext, ht]
            by_cases he : e = '\x7d' <;> simp [hd, hnext, ht, he]
      · simp [hc, hcomma]

theorem isLocal_readGreed (lo : Nat) (hi : Option Nat) :
    IsLocal fun s => some (Construct.readGreed lo hi s) := by
  refine .of_total (fun s => ?_) fun s more => ?_
  · unfold Construct.readGreed Construct.readMark
    split
    · exact List.suffix_cons _ _
    · exact List.suffix_rfl
  · cases s with
    | nil => rfl
    | cons c s =>
        by_cases hc : c = '?'
        · subst hc
          rfl
        · simp [Construct.readGreed, Construct.readMark, hc]

/-! ### Group operators and backslashes -/

namespace Construct

theorem readName_eq (s : Text) :
    readName s = (Text.cut? (· == '>') s).bind fun p =>
      if p.1 ≠ [] ∧ p.1.all Reader.isNameChar then some (capture (some p.1), p.2) else none := by
  rw [readName]
  cases Text.cut? (· == '>') s <;> rfl

theorem isLocal_readName : IsLocal readName := by
  have h := (isLocal_cut (p := (· == '>')) (by decide)).bind fun name =>
    IsLocal.ite (p := name ≠ [] ∧ name.all Reader.isNameChar = true)
      (.pure (capture (some name))) .none
  rw [funext readName_eq]
  exact h

/-- What follows `(?<`. -/
theorem readSpecial_angle (flags : Flags) (s : Text) :
    readSpecial flags ('<' :: s) =
      if s.head? = some '=' ∨ s.head? = some '!' then none else readName s := by
  rcases s with _ | ⟨c, s⟩
  · rfl
  by_cases h₁ : c = '='
  · subst h₁
    cases s <;> rfl
  by_cases h₂ : c = '!'
  · subst h₂
    cases s <;> rfl
  rw [if_neg (by simp [h₁, h₂]), readSpecial]
  · intro d rest hc _
    exact h₁ hc
  · intro d rest hc _
    exact h₂ hc

/-- What follows `(?P`. -/
theorem readSpecial_angle_after (flags : Flags) (c : Char) (s : Text) :
    readSpecial flags ('P' :: c :: s) = if c = '<' then readName s else none := by
  by_cases hc : c = '<'
  · subst hc
    cases s <;> rfl
  · rw [if_neg hc, readSpecial, toOption_readFlags_of_ne (by decide), if_neg (by decide)]
    · rfl
    all_goals simp [hc]

/-- What follows `(?` when it names no group. -/
theorem readSpecial_flags (flags : Flags) {c : Char} (s : Text)
    (hc : c ≠ '<' ∧ c ≠ 'P' ∧ c ≠ '=' ∧ c ≠ '!') :
    readSpecial flags (c :: s) = (Reader.readFlags [] false false flags (c :: s)).toOption.map
      fun p => (if p.1.2 then group p.1.1 else setFlags p.1.1, p.2) := by
  rw [readSpecial]
  all_goals simp_all

theorem isLocal_readSpecial (flags : Flags) : IsLocal (readSpecial flags) := by
  refine .cons rfl fun c => ?_
  by_cases hangle : c = '<'
  · subst hangle
    have hname := isLocal_readName
    simp only [readSpecial_angle]
    refine ⟨?_, fun s => ?_⟩
    · intro s r a h
      split at h
      · cases h
      · exact hname.suffix h
    · by_cases hs : s.head? = some '=' ∨ s.head? = some '!'
      · refine (IsLocal.none.local_at s).congr (if_pos hs).symm fun more => ?_
        rw [if_pos]
        cases s with
        | nil => simp at hs
        | cons c s => exact hs
      · refine (hname.local_at s).congr (if_neg hs).symm fun more => ?_
        rw [if_neg]
        cases s with
        | nil => simp
        | cons c s => exact hs
  by_cases hp : c = 'P'
  · subst hp
    refine .cons rfl fun d => ?_
    simp only [readSpecial_angle_after]
    exact .ite isLocal_readName .none
  by_cases heq : c = '=' ∨ c = '!'
  · have hnone : (fun s => readSpecial flags (c :: s)) = fun _ => none := by
      funext s
      rcases heq with rfl | rfl <;> cases s <;> rfl
    rw [hnone]
    exact .none
  · rw [not_or] at heq
    rw [funext fun s => readSpecial_flags flags s ⟨hangle, hp, heq⟩]
    have hloc : IsLocal fun s => (Reader.readFlags [] false false flags (c :: s)).toOption :=
      ⟨suffix_of_readFlags, fun s =>
        ⟨((isLocal_readFlags false false flags).local_at (c :: s)).shrink,
          ((isLocal_readFlags false false flags).local_at (c :: s)).extend⟩⟩
    exact hloc.map fun p => if p.2 then group p.1 else setFlags p.1

/-- A backslash in front of a character that names no assertion and no class by name. -/
theorem readBackslash_of_ne (flags : Flags) {c : Char} (s : Text)
    (hc : c ∉ ['Q', 'b', 'B', 'A', 'z', 'C', 'p', 'P']) :
    readBackslash flags (c :: s) = match CharSet.shorthand? c with
      | some (rs, positive) =>
        some (piece (.set (.signed flags.ignoreCase positive (.ranges rs))), s)
      | none =>
        (readEscape [] (c :: s)).toOption.map fun p =>
          (piece (.set (.single flags.ignoreCase p.1)), p.2) := by
  rw [readBackslash]
  · rfl
  all_goals simp_all

theorem isLocal_readBackslash (flags : Flags) {c : Char} (hc : c ≠ 'Q') :
    IsLocal fun s => readBackslash flags (c :: s) := by
  by_cases hassert : c ∈ ['b', 'B', 'A', 'z', 'C']
  · simp only [List.mem_cons, List.not_mem_nil, or_false] at hassert
    rcases hassert with rfl | rfl | rfl | rfl | rfl
    · exact .pure _
    · exact .pure _
    · exact .pure _
    · exact .pure _
    · exact .pure _
  by_cases hp : c = 'p'
  · subst hp
    exact (isLocal_readUnicodeClass flags.ignoreCase true).map fun s => piece (.set s)
  by_cases hP : c = 'P'
  · subst hP
    exact (isLocal_readUnicodeClass flags.ignoreCase false).map fun s => piece (.set s)
  have hother : c ∉ ['Q', 'b', 'B', 'A', 'z', 'C', 'p', 'P'] := by simp_all
  rw [funext fun s => readBackslash_of_ne flags s hother]
  cases CharSet.shorthand? c with
  | some p => exact .pure _
  | none =>
      exact (isLocal_readEscape_cons c).map fun n => piece (.set (.single flags.ignoreCase n))

theorem cutQuoted_suffix (s : Text) : (Reader.cutQuoted s).2 <:+ s := by
  fun_induction Reader.cutQuoted s with
  | case1 rest => exact ⟨['\\', 'E'], rfl⟩
  | case2 c rest _ ih => exact ih.trans (List.suffix_cons c rest)
  | case3 => exact List.suffix_rfl

/-- Quoted text that is ended does not go on behind its end. -/
theorem cutQuoted_append {s : Text} (h : (Reader.cutQuoted s).1 ≠ s) (t : Text) :
    Reader.cutQuoted (s ++ t) = ((Reader.cutQuoted s).1, (Reader.cutQuoted s).2 ++ t) := by
  fun_induction Reader.cutQuoted s with
  | case1 rest => rfl
  | case2 c rest hne ih =>
      have hrest : (Reader.cutQuoted rest).1 ≠ rest := fun heq => h (by rw [heq])
      rw [List.cons_append, Reader.cutQuoted, ih hrest]
      intro more hc hcons
      cases rest with
      | nil => exact hrest rfl
      | cons d rest =>
          obtain ⟨rfl, -⟩ := List.cons.inj hcons
          exact hne rest hc rfl
  | case3 => exact absurd rfl h

/-- Quoted text that is not ended goes on behind the parenthesis. -/
theorem cutQuoted_append_paren {s : Text} (h : (Reader.cutQuoted s).1 = s) (more : Text) :
    (Reader.cutQuoted (s ++ ')' :: more)).2 = (Reader.cutQuoted more).2 := by
  fun_induction Reader.cutQuoted s with
  | case1 rest => cases h
  | case2 c rest hne ih =>
      rw [List.cons_append, Reader.cutQuoted, ih (List.cons.inj h).2]
      intro t hc hcons
      cases rest with
      | nil => cases hcons
      | cons d rest =>
          obtain ⟨rfl, -⟩ := List.cons.inj hcons
          exact hne rest hc rfl
  | case3 => rfl

/-- The text begins with `\\Q` and has no `\\E` behind it. -/
def OpenQuote (s : Text) : Prop :=
  ∃ q, s = '\\' :: 'Q' :: q ∧ (Reader.cutQuoted q).1 = q

theorem isLocalAt_quote (flags : Flags) {q : Text} (h : (Reader.cutQuoted q).1 ≠ q) :
    IsLocalAt (fun s => readBackslash flags ('Q' :: s)) q := by
  have happ : ∀ more, readBackslash flags ('Q' :: (q ++ ')' :: more)) =
      some (quote (Reader.cutQuoted q).1, (Reader.cutQuoted q).2 ++ ')' :: more) := by
    intro more
    rw [readBackslash, cutQuoted_append h]
  constructor
  · intro more r a hread
    rw [happ] at hread
    simp only [Option.some.injEq, Prod.mk.injEq] at hread
    rw [← hread.1, ← List.append_cancel_right hread.2]
    rfl
  · intro r a hread more
    rw [happ]
    cases hread
    exact Or.inl rfl

/-! ### Constructs -/

theorem isLocal_read_paren (flags : Flags) : IsLocal fun s => read flags ('(' :: s) := by
  have hplain : ∀ s : Text, s.head? ≠ some '?' → read flags ('(' :: s) = some (capture none, s) := by
    intro s hs
    rw [read]
    intro body heq
    exact hs (by rw [heq]; rfl)
  have hpure := IsLocal.pure (capture none)
  refine ⟨fun {s r k} h => ?_, fun s => ?_⟩
  · rcases s with _ | ⟨c, s⟩
    · exact hpure.suffix ((hplain [] (by simp)).symm.trans h)
    · by_cases hc : c = '?'
      · subst hc
        exact ((isLocal_readSpecial flags).suffix h).trans (List.suffix_cons _ _)
      · exact hpure.suffix ((hplain (c :: s) (by simpa using hc)).symm.trans h)
  · rcases s with _ | ⟨c, s⟩
    · exact (hpure.local_at []).congr rfl fun _ => rfl
    · by_cases hc : c = '?'
      · subst hc
        exact .cons ((isLocal_readSpecial flags).local_at s)
      · exact (hpure.local_at (c :: s)).congr (hplain (c :: s) (by simpa using hc)).symm
          fun more => (hplain (c :: s ++ ')' :: more) (by simpa using hc)).symm

theorem read_brace (flags : Flags) (s : Text) :
    read flags ('\x7b' :: s) = match readCounts? s with
      | some ((lo, hi), more) => some (readGreed lo hi more)
      | none => some (piece (.set (.single flags.ignoreCase '\x7b'.toNat)), s) := by
  rfl

theorem isLocal_read_brace (flags : Flags) : IsLocal fun s => read flags ('\x7b' :: s) := by
  have hpure := IsLocal.pure (piece (.set (.single flags.ignoreCase '\x7b'.toNat)))
  refine ⟨fun {s r k} h => ?_, fun s => ?_⟩
  · simp only [read_brace] at h
    cases hs : readCounts? s with
    | none =>
        rw [hs] at h
        exact hpure.suffix h
    | some p =>
        rw [hs] at h
        exact ((isLocal_readGreed p.1.1 p.1.2).suffix h).trans (suffix_of_readCounts? hs)
  · have happ := readCounts?_append s
    simp only [read_brace]
    cases hs : readCounts? s with
    | none =>
        refine (hpure.local_at s).congr (by rw [hs]) fun more => ?_
        rw [happ, hs]
        rfl
    | some p =>
        obtain ⟨⟨lo, hi⟩, t⟩ := p
        have hgreed := (isLocal_readGreed lo hi).local_at t
        constructor
        · intro more r k h
          rw [happ, hs] at h
          rw [hs]
          exact hgreed.shrink h
        · intro r k h more
          rw [hs] at h
          rw [happ, hs]
          exact hgreed.extend h more

/-- The characters that do not stand for themselves. -/
def operators : List Char :=
  ['(', ')', '|', '^', '$', '.', '[', '*', '+', '?', '\x7b', '\\']

theorem read_of_not_mem_operators (flags : Flags) {c : Char} (hc : c ∉ operators) (s : Text) :
    read flags (c :: s) = some (piece (.set (.single flags.ignoreCase c.toNat)), s) := by
  simp only [operators, List.mem_cons, List.not_mem_nil, or_false, not_or] at hc
  obtain ⟨h₁, h₂, h₃, h₄, h₅, h₆, h₇, h₈, h₉, h₁₀, h₁₁, h₁₂⟩ := hc
  rw [read] <;> assumption

/-- Apart from a backslash, every character begins a construct that is read locally. -/
theorem isLocal_read_of_ne (flags : Flags) {c : Char} (hc : c ≠ '\\') :
    IsLocal fun s => read flags (c :: s) := by
  by_cases hop : c ∈ operators
  · simp only [operators, List.mem_cons, List.not_mem_nil, or_false] at hop
    rcases hop with rfl | rfl | rfl | rfl | rfl | rfl | rfl | rfl | rfl | rfl | rfl | rfl
    · exact isLocal_read_paren flags
    · exact .pure close
    · exact .pure bar
    · exact .pure _
    · exact .pure _
    · exact .pure _
    · exact (isLocal_readBracket flags.ignoreCase).map fun s => piece (.set s)
    · exact isLocal_readGreed 0 none
    · exact isLocal_readGreed 1 none
    · exact isLocal_readGreed 0 (some 1)
    · exact isLocal_read_brace flags
    · exact absurd rfl hc
  · simp only [read_of_not_mem_operators flags hop]
    exact .pure _

/-- A construct is at least one character long. -/
theorem read_suffix {flags : Flags} {s r : Text} {k : Construct} (h : read flags s = some (k, r)) :
    r <:+ s.tail := by
  rcases s with _ | ⟨c, s⟩
  · cases h
  by_cases hc : c = '\\'
  · subst hc
    rcases s with _ | ⟨d, s⟩
    · cases h
    by_cases hd : d = 'Q'
    · subst hd
      have hr : r = (Reader.cutQuoted s).2 := (Prod.mk.inj (Option.some.inj h)).2.symm
      rw [hr]
      exact (cutQuoted_suffix s).trans (List.suffix_cons _ _)
    · exact ((isLocal_readBackslash flags hd).suffix h).trans (List.suffix_cons _ _)
  · exact (isLocal_read_of_ne flags hc).suffix h

theorem isLocalAt_read (flags : Flags) {s : Text} (hs : ¬ OpenQuote s) :
    IsLocalAt (read flags) s := by
  rcases s with _ | ⟨c, s⟩
  · exact .nil rfl fun h => read_suffix h
  refine .cons ?_
  by_cases hc : c = '\\'
  · subst hc
    rcases s with _ | ⟨d, s⟩
    · refine .nil rfl fun h => ?_
      exact (isLocal_readBackslash flags (c := ')') (by decide)).suffix h
    · refine .cons ?_
      by_cases hd : d = 'Q'
      · subst hd
        exact isLocalAt_quote flags fun hq => hs ⟨s, rfl, hq⟩
      · exact (isLocal_readBackslash flags hd).local_at s
  · exact (isLocal_read_of_ne flags hc).local_at s

/-- Quoted text that is not ended takes the parenthesis with it. -/
theorem suffix_of_read_openQuote {flags : Flags} {s r more : Text} {k : Construct}
    (hs : OpenQuote s) (h : read flags (s ++ ')' :: more) = some (k, r)) : r <:+ more := by
  obtain ⟨q, rfl, hq⟩ := hs
  have hr : r = (Reader.cutQuoted (q ++ ')' :: more)).2 :=
    (Prod.mk.inj (Option.some.inj h)).2.symm
  rw [hr, cutQuoted_append_paren hq]
  exact cutQuoted_suffix more

/-- A construct that ends in front of the parenthesis is read without it. -/
theorem shrink_read {flags : Flags} {s r more : Text} {k : Construct}
    (h : read flags (s ++ ')' :: more) = some (k, r ++ ')' :: more)) :
    read flags s = some (k, r) ∧ ¬ OpenQuote s := by
  have hs : ¬ OpenQuote s := fun hq =>
    not_append_cons_suffix r more ')' (suffix_of_read_openQuote hq h)
  exact ⟨(isLocalAt_read flags hs).shrink h, hs⟩

/-- A construct in front of the end is read in front of a parenthesis, unless what follows makes
that impossible. -/
theorem extend_read {flags : Flags} {s r : Text} {k : Construct} (h : read flags s = some (k, r))
    (hs : ¬ OpenQuote s) (more : Text) :
    read flags (s ++ ')' :: more) = some (k, r ++ ')' :: more) ∨
      read flags (s ++ ')' :: more) = none ∧ more ≠ [] :=
  (isLocalAt_read flags hs).extend h more

end Construct

end RouteMask.Regex
