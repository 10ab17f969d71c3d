import RouteMask.Proofs.Regex.Locality.Escape

/-! # Local readers of character classes

Classes by name and classes in brackets are read locally (`isLocal_readUnicodeClass`,
`isLocal_readBracket`).  A single item of a class is not: a dash at the end of the text is an item of its
own, but in front of a parenthesis it begins the end of a range.  A class is not finished there,
however, so this does not matter to the class as a whole. -/

namespace RouteMask.Regex

/-- To look a value up that need not be there. -/
theorem IsLocal.lookup {β : Type} (o : Option β) : IsLocal fun s => o.map (·, s) := by
  cases o with
  | none => exact .none
  | some b => exact .pure b

/-- The set of a class by its name, in which a leading `^` negates. -/
def classOf (ignoreCase positive : Bool) (name : Text) : Option CharSet :=
  let (name, positive) := match name with
    | '^' :: plain => (plain, !positive)
    | plain => (plain, positive)
  (CharSet.unicodeClass? name).map fun rs => .signed ignoreCase positive (.ranges rs)

theorem toOption_signed (o : Option Unicode.Ranges) (f : Unicode.Ranges → CharSet) (rest : Text)
    (e : SyntaxError) :
    (match o with
      | some rs => Except.ok (f rs, rest)
      | none => .error e).toOption = (o.map f).map (·, rest) := by
  cases o with
  | none => rfl
  | some rs => rfl

theorem toOption_readUnicodeClass_eq (ignoreCase positive : Bool) (s : Text) :
    (readUnicodeClass ignoreCase positive [] s).toOption =
      (readClassName [] s).toOption.bind fun (name, rest) =>
        (classOf ignoreCase positive name).map (·, rest) := by
  unfold readUnicodeClass
  rw [toOption_bind]
  congr 1
  funext ⟨name, rest⟩
  exact toOption_signed _ _ rest _

theorem toOption_readUnicodeClass_nil (ignoreCase positive : Bool) :
    (readUnicodeClass ignoreCase positive [] []).toOption = none := by
  have hnone : CharSet.unicodeClass? [] = none := by
    simp [CharSet.unicodeClass?, Unicode.category?, Unicode.categories, Unicode.script?,
      Unicode.scripts]
  rw [toOption_readUnicodeClass_eq]
  simp [readClassName, Except.toOption, classOf, hnone]

theorem isLocal_readClassName (c : Char) :
    IsLocal fun s => (readClassName [] (c :: s)).toOption := by
  by_cases hc : c = '\x7b'
  · subst hc
    have hread : (fun s => (readClassName [] ('\x7b' :: s)).toOption) =
        Text.cut? (· == '\x7d') := by
      funext s
      rw [readClassName]
      cases Text.cut? (· == '\x7d') s <;> rfl
    rw [hread]
    exact isLocal_cut (by decide)
  · have hread : (fun s => (readClassName [] (c :: s)).toOption) = fun s => some ([c], s) := by
      funext s
      rw [readClassName]
      · rfl
      · exact hc
    rw [hread]
    exact .pure _

theorem isLocal_readUnicodeClass (ignoreCase positive : Bool) :
    IsLocal fun s => (readUnicodeClass ignoreCase positive [] s).toOption := by
  refine .cons (toOption_readUnicodeClass_nil ..) fun c => ?_
  simp only [toOption_readUnicodeClass_eq]
  exact (isLocal_readClassName c).bind fun name => .lookup (classOf ignoreCase positive name)

theorem cutPosixName?_suffix {s name r : Text} (h : cutPosixName? s = some (name, r)) :
    r <:+ s.tail := by
  fun_induction cutPosixName? s generalizing name with
  | case1 rest =>
      cases h
      exact List.suffix_cons _ _
  | case2 c rest _ ih =>
      obtain ⟨⟨n, t⟩, hs, heq⟩ := Option.map_eq_some_iff.mp h
      cases heq
      exact (ih hs).trans (List.tail_suffix _)
  | case3 => cases h

theorem cutPosixName?_append {s name r : Text} (h : cutPosixName? s = some (name, r)) (t : Text) :
    cutPosixName? (s ++ t) = some (name, r ++ t) := by
  fun_induction cutPosixName? s generalizing name with
  | case1 rest =>
      cases h
      rfl
  | case2 c rest hne ih =>
      obtain ⟨⟨n, u⟩, hs, heq⟩ := Option.map_eq_some_iff.mp h
      cases heq
      rw [List.cons_append, cutPosixName?, ih hs]
      · rfl
      · intro more hc hrest
        cases rest with
        | nil => cases hs
        | cons d rest =>
            obtain ⟨rfl, -⟩ := List.cons.inj hrest
            exact hne rest hc rfl
  | case3 => cases h

/-- Without a closing mark in front of the parenthesis the name would go on behind it. -/
theorem cutPosixName?_append_paren {s : Text} (h : cutPosixName? s = none) (more : Text) :
    cutPosixName? (s ++ ')' :: more) =
      (cutPosixName? more).map fun (name, r) => (s ++ ')' :: name, r) := by
  fun_induction cutPosixName? s with
  | case1 rest => cases h
  | case2 c rest hne ih =>
      rw [List.cons_append, cutPosixName?, ih (Option.map_eq_none_iff.mp h), Option.map_map]
      · rfl
      · intro t hc hrest
        cases rest with
        | nil => cases hrest
        | cons d rest =>
            obtain ⟨rfl, -⟩ := List.cons.inj hrest
            exact hne rest hc rfl
  | case3 => rfl

/-- No class has a parenthesis in its name. -/
theorem posixClass?_eq_none {name : Text} (h : ')' ∈ name) : CharSet.posixClass? name = none := by
  have hfind : ∀ plain : Text, ')' ∈ plain → CharSet.posixClass?.find plain = none := by
    intro plain hp
    have hall : ∀ entry ∈ CharSet.posixClasses, ')' ∉ entry.1.toList := by decide
    rw [CharSet.posixClass?.find, Option.map_eq_none_iff, List.find?_eq_none]
    intro entry he heq
    rw [beq_iff_eq] at heq
    exact hall entry he (heq ▸ hp)
  unfold CharSet.posixClass?
  split
  · next plain => rw [hfind plain (by simpa using h)]; rfl
  · rw [hfind name h]; rfl

theorem toOption_readMember (whole whole' s : Text) :
    (readMember whole s).toOption = (readMember whole' s).toOption := by
  unfold readMember
  split <;> rfl

/-- What follows the first code point `lo` of a range, or of what is no range. -/
def rangeEnd (lo : Nat) (rest : Text) : Option ((Nat × Nat) × Text) :=
  match rest with
  | '-' :: c :: more =>
    if c = ']' then some ((lo, lo), rest)
    else
      (readMember [] (c :: more)).toOption.bind fun (hi, rest) =>
        if hi < lo then none else some ((lo, hi), rest)
  | _ => some ((lo, lo), rest)

theorem toOption_readRange (whole s : Text) :
    (readRange whole s).toOption =
      (readMember [] s).toOption.bind fun (lo, rest) => rangeEnd lo rest := by
  unfold readRange
  rw [toOption_bind, toOption_readMember whole []]
  congr 1
  funext ⟨lo, rest⟩
  dsimp only
  split
  · next c more =>
      rw [rangeEnd]
      split
      · rfl
      · rw [toOption_bind, toOption_readMember whole []]
        congr 1
        funext ⟨hi, more⟩
        dsimp only
        split <;> rfl
  · next h =>
      rw [rangeEnd]
      · rfl
      · exact h

theorem toOption_readRangeSet (ignoreCase : Bool) (whole s : Text) :
    (readRangeSet ignoreCase whole s).toOption =
      (readMember [] s).toOption.bind fun (lo, rest) =>
        (rangeEnd lo rest).map fun (range, rest) =>
          (.closed ignoreCase (.ranges [range]), rest) := by
  unfold readRangeSet
  rw [toOption_bind, toOption_readRange]
  cases (readMember [] s).toOption with
  | none => rfl
  | some p => cases h : rangeEnd p.1 p.2 <;> simp [h, Except.toOption]

theorem toOption_readItem (ignoreCase : Bool) (whole whole' s : Text) :
    (readItem ignoreCase whole s).toOption = (readItem ignoreCase whole' s).toOption := by
  unfold readItem
  split
  · split
    · rfl
    · rw [toOption_readRangeSet, toOption_readRangeSet]
  · split
    · rfl
    · split
      · rfl
      · rw [toOption_readRangeSet, toOption_readRangeSet]
  · rw [toOption_readRangeSet, toOption_readRangeSet]

theorem toOption_readItems (ignoreCase : Bool) (whole whole' : Text) (fuel : Nat) (first : Bool)
    (acc : CharSet) (s : Text) :
    (readItems ignoreCase whole fuel first acc s).toOption =
      (readItems ignoreCase whole' fuel first acc s).toOption := by
  induction fuel generalizing first acc s with
  | zero => cases s <;> rfl
  | succ fuel ih =>
      cases s with
      | nil => rfl
      | cons c s =>
          simp only [readItems]
          split
          · rfl
          · rw [toOption_bind, toOption_bind, toOption_readItem ignoreCase whole whole']
            congr 1
            funext ⟨item, rest⟩
            exact ih ..

theorem isLocal_readMember : IsLocal fun s => (readMember [] s).toOption := by
  refine .cons rfl fun c => ?_
  by_cases hc : c = '\\'
  · subst hc
    have hread : (fun s => (readMember [] ('\\' :: s)).toOption) = fun s =>
        (readEscape [] s).toOption := by
      funext s
      exact toOption_readEscape ..
    rw [hread]
    exact isLocal_readEscape
  · have hread : (fun s => (readMember [] (c :: s)).toOption) = fun s => some (c.toNat, s) := by
      funext s
      rw [readMember]
      · rfl
      · exact hc
    rw [hread]
    exact .pure _

/-- The end of a range behind its dash, unless a bracket closes the class there. -/
theorem isLocal_rangeEnd (lo : Nat) :
    IsLocal fun s => (readMember [] s).toOption.bind fun (hi, rest) =>
      if hi < lo then none else some ((lo, hi), rest) := by
  have h := isLocal_readMember.bind fun hi =>
    IsLocal.ite (p := hi < lo) .none (.pure (lo, hi))
  exact h

theorem rangeEnd_of_ne {lo : Nat} {s : Text} (h : ∀ c more, s ≠ '-' :: c :: more) :
    rangeEnd lo s = some ((lo, lo), s) := by
  rw [rangeEnd]
  exact h

theorem rangeEnd_append_of_ne {lo : Nat} {s : Text} (h : ∀ c more, s ≠ '-' :: c :: more)
    (hd : s ≠ ['-']) (more : Text) :
    rangeEnd lo (s ++ ')' :: more) = some ((lo, lo), s ++ ')' :: more) := by
  refine rangeEnd_of_ne fun c t heq => ?_
  cases s with
  | nil => cases heq
  | cons x s =>
      obtain ⟨rfl, -⟩ := List.cons.inj heq
      cases s with
      | nil => exact hd rfl
      | cons y s => exact h y s rfl

theorem suffix_of_rangeEnd {lo : Nat} {s r : Text} {a : Nat × Nat}
    (h : rangeEnd lo s = some (a, r)) : r <:+ s := by
  unfold rangeEnd at h
  split at h
  · split at h
    · cases h
      exact List.suffix_rfl
    · exact ((isLocal_rangeEnd lo).suffix h).trans (List.suffix_cons _ _)
  · cases h
    exact List.suffix_rfl

theorem shrink_rangeEnd {lo : Nat} {s r more : Text} {a : Nat × Nat}
    (h : rangeEnd lo (s ++ ')' :: more) = some (a, r ++ ')' :: more)) :
    rangeEnd lo s = some (a, r) := by
  by_cases hs : ∃ c t, s = '-' :: c :: t
  · obtain ⟨c, t, rfl⟩ := hs
    simp only [List.cons_append, rangeEnd] at h ⊢
    split at h
    · next hc =>
        simp only [Option.some.injEq, Prod.mk.injEq] at h
        have ht : '-' :: c :: t = r := List.append_cancel_right h.2
        rw [if_pos hc, h.1, ht]
    · next hc =>
        rw [if_neg hc]
        exact ((isLocal_rangeEnd lo).local_at (c :: t)).shrink h
  · rw [rangeEnd_of_ne fun c t heq => hs ⟨c, t, heq⟩]
    by_cases hd : s = ['-']
    · subst hd
      simp only [List.cons_append, List.nil_append, rangeEnd] at h
      rw [if_neg (by decide)] at h
      have hsuf := ((isLocal_rangeEnd lo).local_at []).shrink h
      cases hsuf
    · rw [rangeEnd_append_of_ne (fun c t heq => hs ⟨c, t, heq⟩) hd] at h
      simp only [Option.some.injEq, Prod.mk.injEq] at h
      rw [h.1, List.append_cancel_right h.2]

theorem extend_rangeEnd {lo : Nat} {s r : Text} {a : Nat × Nat} (h : rangeEnd lo s = some (a, r))
    (hr : r ≠ ['-']) (more : Text) :
    rangeEnd lo (s ++ ')' :: more) = some (a, r ++ ')' :: more) ∨
      rangeEnd lo (s ++ ')' :: more) = none ∧ more ≠ [] := by
  by_cases hs : ∃ c t, s = '-' :: c :: t
  · obtain ⟨c, t, rfl⟩ := hs
    simp only [List.cons_append, rangeEnd] at h ⊢
    split at h
    · next hc =>
        cases h
        exact Or.inl (by rw [if_pos hc]; rfl)
    · next hc =>
        rw [if_neg hc]
        exact ((isLocal_rangeEnd lo).local_at (c :: t)).extend h more
  · rw [rangeEnd_of_ne fun c t heq => hs ⟨c, t, heq⟩] at h
    cases h
    exact Or.inl (rangeEnd_append_of_ne (fun c t heq => hs ⟨c, t, heq⟩) hr more)

theorem suffix_of_readMember {s r : Text} {n : Nat} (h : (readMember [] s).toOption = some (n, r)) :
    r <:+ s.tail := by
  unfold readMember at h
  split at h
  · cases h
  · rw [toOption_readEscape _ []] at h
    exact isLocal_readEscape.suffix h
  · cases h
    exact List.suffix_rfl

theorem suffix_of_readRangeSet {ignoreCase : Bool} {s r : Text} {a : CharSet}
    (h : (readRangeSet ignoreCase [] s).toOption = some (a, r)) : r <:+ s.tail := by
  rw [toOption_readRangeSet] at h
  obtain ⟨⟨lo, t⟩, hlo, hend⟩ := Option.bind_eq_some_iff.mp h
  obtain ⟨⟨range, u⟩, hrange, heq⟩ := Option.map_eq_some_iff.mp hend
  cases heq
  exact (suffix_of_rangeEnd hrange).trans (suffix_of_readMember hlo)

theorem shrink_readRangeSet {ignoreCase : Bool} {s r more : Text} {a : CharSet}
    (h : (readRangeSet ignoreCase [] (s ++ ')' :: more)).toOption = some (a, r ++ ')' :: more)) :
    (readRangeSet ignoreCase [] s).toOption = some (a, r) := by
  rw [toOption_readRangeSet] at h ⊢
  obtain ⟨⟨lo, t⟩, hlo, hend⟩ := Option.bind_eq_some_iff.mp h
  obtain ⟨⟨range, u⟩, hrange, heq⟩ := Option.map_eq_some_iff.mp hend
  cases heq
  obtain ⟨v, rfl, -, -⟩ :=
    exists_of_append_suffix (suffix_of_rangeEnd hrange) (isLocal_readMember.suffix hlo)
  rw [(isLocal_readMember.local_at s).shrink hlo]
  simp only [Option.bind_some, shrink_rangeEnd hrange, Option.map_some]

theorem extend_readRangeSet {ignoreCase : Bool} {s r : Text} {a : CharSet}
    (h : (readRangeSet ignoreCase [] s).toOption = some (a, r)) (hr : r ≠ ['-']) (more : Text) :
    (readRangeSet ignoreCase [] (s ++ ')' :: more)).toOption = some (a, r ++ ')' :: more) ∨
      (readRangeSet ignoreCase [] (s ++ ')' :: more)).toOption = none ∧ more ≠ [] := by
  rw [toOption_readRangeSet] at h ⊢
  obtain ⟨⟨lo, t⟩, hlo, hend⟩ := Option.bind_eq_some_iff.mp h
  obtain ⟨⟨range, u⟩, hrange, heq⟩ := Option.map_eq_some_iff.mp hend
  cases heq
  rcases (isLocal_readMember.local_at s).extend hlo more with hlo' | ⟨hlo', hm⟩
  · rw [hlo', Option.bind_some]
    rcases extend_rangeEnd hrange hr more with hrange' | ⟨hrange', hm⟩
    · exact Or.inl (by simp only [hrange', Option.map_some])
    · exact Or.inr ⟨by simp only [hrange', Option.map_none], hm⟩
  · exact Or.inr ⟨by rw [hlo']; rfl, hm⟩

/-- An item that begins with neither `[:` nor a backslash is a range. -/
theorem readItem_of_ne {ignoreCase : Bool} {s : Text} (h : ∀ body, s ≠ '[' :: ':' :: body)
    (hb : ∀ c body, s ≠ '\\' :: c :: body) :
    readItem ignoreCase [] s = readRangeSet ignoreCase [] s := by
  rw [readItem]
  · exact h
  · exact hb

/-- What a class has after a backslash. -/
theorem toOption_readItem_backslash (ignoreCase : Bool) (c : Char) (s : Text) :
    (readItem ignoreCase [] ('\\' :: c :: s)).toOption =
      if (c = 'p' ∨ c = 'P') ∧ s ≠ [] then
        (readUnicodeClass ignoreCase (c == 'p') [] s).toOption
      else
        match CharSet.shorthand? c with
        | some (rs, positive) => some (.signed ignoreCase positive (.ranges rs), s)
        | none => (readRangeSet ignoreCase [] ('\\' :: c :: s)).toOption := by
  rw [readItem]
  split
  · exact toOption_readUnicodeClass ..
  · cases CharSet.shorthand? c <;> rfl

/-- What a class has after `[:`. -/
theorem toOption_readItem_colon (ignoreCase : Bool) (s : Text) :
    (readItem ignoreCase [] ('[' :: ':' :: s)).toOption =
      match cutPosixName? s with
      | some (name, rest) =>
        (CharSet.posixClass? name).map fun (rs, positive) =>
          (.signed ignoreCase positive (.ranges rs), rest)
      | none => (readRangeSet ignoreCase [] ('[' :: ':' :: s)).toOption := by
  rw [readItem]
  cases cutPosixName? s with
  | none => rfl
  | some p => cases h : CharSet.posixClass? p.1 <;> simp [h, Except.toOption]

theorem suffix_of_readItem {ignoreCase : Bool} {s r : Text} {a : CharSet}
    (h : (readItem ignoreCase [] s).toOption = some (a, r)) : r <:+ s.tail := by
  unfold readItem at h
  split at h
  · split at h
    · next hname =>
        split at h
        · cases h
          exact ((cutPosixName?_suffix hname).trans (List.tail_suffix _)).trans
            (List.suffix_cons _ _)
        · cases h
    · exact suffix_of_readRangeSet h
  · split at h
    · rw [toOption_readUnicodeClass _ _ _ []] at h
      exact ((isLocal_readUnicodeClass ..).suffix h).trans (List.suffix_cons _ _)
    · split at h
      · cases h
        exact List.suffix_cons _ _
      · exact suffix_of_readRangeSet h
  · exact suffix_of_readRangeSet h

theorem toOption_readItem_append_of_ne {ignoreCase : Bool} {s : Text}
    (h : ∀ body, s ≠ '[' :: ':' :: body) (hb : ∀ c body, s ≠ '\\' :: c :: body) (more : Text) :
    (readItem ignoreCase [] (s ++ ')' :: more)).toOption =
      (readRangeSet ignoreCase [] (s ++ ')' :: more)).toOption := by
  by_cases hs : s = ['\\']
  · subst hs
    rw [List.cons_append, List.nil_append, toOption_readItem_backslash,
      if_neg fun hn => absurd hn.1 (by decide)]
    rfl
  · rw [readItem_of_ne]
    · intro body heq
      cases s with
      | nil => cases heq
      | cons x s =>
          obtain ⟨rfl, htail⟩ := List.cons.inj heq
          cases s with
          | nil => cases htail
          | cons y s =>
              obtain ⟨rfl, -⟩ := List.cons.inj htail
              exact h s rfl
    · intro c body heq
      cases s with
      | nil => cases heq
      | cons x s =>
          obtain ⟨rfl, -⟩ := List.cons.inj heq
          cases s with
          | nil => exact hs rfl
          | cons y s => exact hb y s rfl

theorem shrink_readItem_colon {ignoreCase : Bool} {s r more : Text} {a : CharSet}
    (h : (readItem ignoreCase [] ('[' :: ':' :: (s ++ ')' :: more))).toOption =
      some (a, r ++ ')' :: more)) :
    (readItem ignoreCase [] ('[' :: ':' :: s)).toOption = some (a, r) := by
  rw [toOption_readItem_colon] at h ⊢
  cases hname : cutPosixName? s with
  | some p =>
      rw [cutPosixName?_append hname] at h
      obtain ⟨q, hq, heq⟩ := Option.map_eq_some_iff.mp h
      simp only [Prod.mk.injEq] at heq
      simp only [hq, Option.map_some, heq.1, List.append_cancel_right heq.2]
  | none =>
      rw [cutPosixName?_append_paren hname] at h
      cases hmore : cutPosixName? more with
      | none =>
          rw [hmore] at h
          exact shrink_readRangeSet (s := '[' :: ':' :: s) h
      | some q =>
          have hnone : CharSet.posixClass? (s ++ ')' :: q.1) = none := posixClass?_eq_none (by simp)
          rw [hmore] at h
          simp only [Option.map_some, hnone, Option.map_none] at h
          cases h

theorem shrink_readItem_backslash {ignoreCase : Bool} {c : Char} {s r more : Text} {a : CharSet}
    (h : (readItem ignoreCase [] ('\\' :: c :: (s ++ ')' :: more))).toOption =
      some (a, r ++ ')' :: more)) :
    (readItem ignoreCase [] ('\\' :: c :: s)).toOption = some (a, r) := by
  rw [toOption_readItem_backslash] at h ⊢
  by_cases hc : c = 'p' ∨ c = 'P'
  · rw [if_pos ⟨hc, by simp⟩] at h
    have hbody := ((isLocal_readUnicodeClass ..).local_at s).shrink h
    have hne : s ≠ [] := by
      rintro rfl
      rw [toOption_readUnicodeClass_nil] at hbody
      cases hbody
    rw [if_pos ⟨hc, hne⟩]
    exact hbody
  · rw [if_neg fun hn => hc hn.1] at h ⊢
    cases hsh : CharSet.shorthand? c with
    | none =>
        rw [hsh] at h
        exact shrink_readRangeSet (s := '\\' :: c :: s) h
    | some q =>
        simp only [hsh, Option.some.injEq, Prod.mk.injEq] at h
        simp only [h.1, List.append_cancel_right h.2]

theorem shrink_readItem {ignoreCase : Bool} {s r more : Text} {a : CharSet}
    (h : (readItem ignoreCase [] (s ++ ')' :: more)).toOption = some (a, r ++ ')' :: more)) :
    (readItem ignoreCase [] s).toOption = some (a, r) := by
  by_cases hs : ∃ body, s = '[' :: ':' :: body
  · obtain ⟨body, rfl⟩ := hs
    exact shrink_readItem_colon h
  by_cases hb : ∃ c body, s = '\\' :: c :: body
  · obtain ⟨c, body, rfl⟩ := hb
    exact shrink_readItem_backslash h
  · have hs' : ∀ body, s ≠ '[' :: ':' :: body := fun body heq => hs ⟨body, heq⟩
    have hb' : ∀ c body, s ≠ '\\' :: c :: body := fun c body heq => hb ⟨c, body, heq⟩
    rw [toOption_readItem_append_of_ne hs' hb'] at h
    rw [readItem_of_ne hs' hb']
    exact shrink_readRangeSet h

theorem extend_readItem_colon {ignoreCase : Bool} {s r : Text} {a : CharSet}
    (h : (readItem ignoreCase [] ('[' :: ':' :: s)).toOption = some (a, r)) (hr : r ≠ ['-'])
    (more : Text) :
    (readItem ignoreCase [] ('[' :: ':' :: (s ++ ')' :: more))).toOption =
        some (a, r ++ ')' :: more) ∨
      (readItem ignoreCase [] ('[' :: ':' :: (s ++ ')' :: more))).toOption = none ∧ more ≠ [] := by
  rw [toOption_readItem_colon] at h ⊢
  cases hname : cutPosixName? s with
  | some p =>
      rw [hname] at h
      rw [cutPosixName?_append hname]
      obtain ⟨q, hq, heq⟩ := Option.map_eq_some_iff.mp h
      cases heq
      exact Or.inl (by simp only [hq, Option.map_some])
  | none =>
      rw [hname] at h
      rw [cutPosixName?_append_paren hname]
      cases hmore : cutPosixName? more with
      | none => exact extend_readRangeSet (s := '[' :: ':' :: s) h hr more
      | some q =>
          have hnone : CharSet.posixClass? (s ++ ')' :: q.1) = none := posixClass?_eq_none (by simp)
          refine Or.inr ⟨?_, ?_⟩
          · simp only [Option.map_some, hnone, Option.map_none]
          · rintro rfl
            cases hmore

theorem extend_readItem_backslash {ignoreCase : Bool} {c : Char} {s r : Text} {a : CharSet}
    (h : (readItem ignoreCase [] ('\\' :: c :: s)).toOption = some (a, r)) (hr : r ≠ ['-'])
    (more : Text) :
    (readItem ignoreCase [] ('\\' :: c :: (s ++ ')' :: more))).toOption =
        some (a, r ++ ')' :: more) ∨
      (readItem ignoreCase [] ('\\' :: c :: (s ++ ')' :: more))).toOption = none ∧ more ≠ [] := by
  rw [toOption_readItem_backslash] at h ⊢
  by_cases hc : (c = 'p' ∨ c = 'P') ∧ s ≠ []
  · rw [if_pos hc] at h
    rw [if_pos ⟨hc.1, by simp⟩]
    exact ((isLocal_readUnicodeClass ..).local_at s).extend h more
  · rw [if_neg hc] at h
    by_cases hp : c = 'p' ∨ c = 'P'
    · -- a class without a name is none
      cases s with
      | nil => rcases hp with rfl | rfl <;> cases h
      | cons d s => exact absurd ⟨hp, by simp⟩ hc
    · rw [if_neg fun hn => hp hn.1]
      cases hsh : CharSet.shorthand? c with
      | none =>
          rw [hsh] at h
          exact extend_readRangeSet (s := '\\' :: c :: s) h hr more
      | some q =>
          rw [hsh] at h
          cases h
          exact Or.inl rfl

theorem extend_readItem {ignoreCase : Bool} {s r : Text} {a : CharSet}
    (h : (readItem ignoreCase [] s).toOption = some (a, r)) (hr : r ≠ ['-']) (more : Text) :
    (readItem ignoreCase [] (s ++ ')' :: more)).toOption = some (a, r ++ ')' :: more) ∨
      (readItem ignoreCase [] (s ++ ')' :: more)).toOption = none ∧ more ≠ [] := by
  by_cases hs : ∃ body, s = '[' :: ':' :: body
  · obtain ⟨body, rfl⟩ := hs
    exact extend_readItem_colon h hr more
  by_cases hb : ∃ c body, s = '\\' :: c :: body
  · obtain ⟨c, body, rfl⟩ := hb
    exact extend_readItem_backslash h hr more
  · have hs' : ∀ body, s ≠ '[' :: ':' :: body := fun body heq => hs ⟨body, heq⟩
    have hb' : ∀ c body, s ≠ '\\' :: c :: body := fun c body heq => hb ⟨c, body, heq⟩
    rw [readItem_of_ne hs' hb'] at h
    rw [toOption_readItem_append_of_ne hs' hb']
    exact extend_readRangeSet h hr more

theorem toOption_readItems_cons (ignoreCase : Bool) (fuel : Nat) (first : Bool) (acc : CharSet)
    (c : Char) (s : Text) :
    (readItems ignoreCase [] (fuel + 1) first acc (c :: s)).toOption =
      if c = ']' ∧ first = false then some (acc, s)
      else
        (readItem ignoreCase [] (c :: s)).toOption.bind fun (item, rest) =>
          (readItems ignoreCase [] fuel false (.union acc item) rest).toOption := by
  rw [readItems]
  split
  · rfl
  · rw [toOption_bind]

theorem suffix_of_readItems {ignoreCase : Bool} {fuel : Nat} {first : Bool} {acc a : CharSet}
    {s r : Text} (h : (readItems ignoreCase [] fuel first acc s).toOption = some (a, r)) :
    r <:+ s.tail := by
  induction fuel generalizing first acc s with
  | zero => cases s <;> cases h
  | succ fuel ih =>
      cases s with
      | nil => cases h
      | cons c s =>
          rw [toOption_readItems_cons] at h
          split at h
          · cases h
            exact List.suffix_rfl
          · obtain ⟨⟨item, t⟩, hitem, hrest⟩ := Option.bind_eq_some_iff.mp h
            exact ((ih hrest).trans (List.tail_suffix _)).trans (suffix_of_readItem hitem)

theorem shrink_readItems {ignoreCase : Bool} {fuel fuel' : Nat} {first : Bool} {acc a : CharSet}
    {s r more : Text} (hfuel : s.length < fuel')
    (h : (readItems ignoreCase [] fuel first acc (s ++ ')' :: more)).toOption =
      some (a, r ++ ')' :: more)) :
    (readItems ignoreCase [] fuel' first acc s).toOption = some (a, r) := by
  induction fuel' generalizing fuel first acc s with
  | zero => omega
  | succ fuel' ih =>
      cases s with
      | nil => exact absurd (suffix_of_readItems h) (not_append_cons_suffix r more ')')
      | cons c s =>
          cases fuel with
          | zero => cases h
          | succ fuel =>
              rw [List.cons_append, toOption_readItems_cons] at h
              rw [toOption_readItems_cons]
              split at h
              · next hc =>
                  simp only [Option.some.injEq, Prod.mk.injEq] at h
                  rw [if_pos hc, h.1, List.append_cancel_right h.2]
              · next hc =>
                  rw [if_neg hc]
                  obtain ⟨⟨item, t⟩, hitem, hrest⟩ := Option.bind_eq_some_iff.mp h
                  obtain ⟨v, rfl, -, -⟩ := exists_of_append_suffix (s := s)
                    ((suffix_of_readItems hrest).trans (List.tail_suffix _))
                    (suffix_of_readItem hitem)
                  have hv := shrink_readItem (s := c :: s) hitem
                  have hlen := (suffix_of_readItem hv).length_le
                  rw [List.tail_cons] at hlen
                  rw [hv]
                  rw [List.length_cons] at hfuel
                  exact ih (by omega) hrest

/-- A dash alone does not finish a class. -/
theorem toOption_readItems_dash (ignoreCase : Bool) (fuel : Nat) (first : Bool) (acc : CharSet) :
    (readItems ignoreCase [] fuel first acc ['-']).toOption = none := by
  cases fuel with
  | zero => rfl
  | succ fuel =>
      rw [toOption_readItems_cons, if_neg fun h => absurd h.1 (by decide), Option.bind_eq_none_iff]
      intro p hp
      have hr := suffix_of_readItem hp
      rw [List.tail_cons, List.suffix_nil] at hr
      dsimp only
      rw [hr]
      cases fuel <;> rfl

theorem extend_readItems {ignoreCase : Bool} {fuel fuel' : Nat} {first : Bool} {acc a : CharSet}
    {s r : Text} (hfuel : fuel ≤ fuel')
    (h : (readItems ignoreCase [] fuel first acc s).toOption = some (a, r)) (more : Text) :
    (readItems ignoreCase [] fuel' first acc (s ++ ')' :: more)).toOption =
        some (a, r ++ ')' :: more) ∨
      (readItems ignoreCase [] fuel' first acc (s ++ ')' :: more)).toOption = none ∧
        more ≠ [] := by
  induction fuel generalizing fuel' first acc s with
  | zero => cases s <;> cases h
  | succ fuel ih =>
      obtain ⟨fuel', rfl⟩ : ∃ n, fuel' = n + 1 := ⟨fuel' - 1, by omega⟩
      cases s with
      | nil => cases h
      | cons c s =>
          rw [toOption_readItems_cons] at h
          rw [List.cons_append, toOption_readItems_cons]
          split at h
          · next hc =>
              cases h
              exact Or.inl (by rw [if_pos hc])
          · next hc =>
              rw [if_neg hc]
              obtain ⟨⟨item, t⟩, hitem, hrest⟩ := Option.bind_eq_some_iff.mp h
              have ht : t ≠ ['-'] := by
                rintro rfl
                exact absurd (hrest.symm.trans (toOption_readItems_dash ..)) (by simp)
              rcases extend_readItem hitem ht more with hitem' | ⟨hitem', hm⟩
              · rw [List.cons_append] at hitem'
                rw [hitem']
                exact ih (by omega) hrest
              · rw [List.cons_append] at hitem'
                exact Or.inr ⟨by rw [hitem']; rfl, hm⟩

theorem isLocal_readItems (ignoreCase : Bool) :
    IsLocal fun s => (readItems ignoreCase [] (s.length + 1) true .none s).toOption := by
  refine ⟨fun h => (suffix_of_readItems h).trans (List.tail_suffix _), fun s => ⟨?_, ?_⟩⟩
  · intro more r a h
    exact shrink_readItems (by omega) h
  · intro r a h more
    exact extend_readItems (by simp) h more

theorem isLocal_readBracket (ignoreCase : Bool) :
    IsLocal fun s => (readBracket ignoreCase s).toOption := by
  have hitems := isLocal_readItems ignoreCase
  have hread : ∀ s : Text, s.head? ≠ some '^' → (readBracket ignoreCase s).toOption =
      (readItems ignoreCase [] (s.length + 1) true .none s).toOption := by
    intro s hs
    rw [readBracket, toOption_readItems _ _ []]
    intro items heq
    exact hs (by rw [heq]; rfl)
  have hcaret : (fun s => (readBracket ignoreCase ('^' :: s)).toOption) = fun s =>
      (readItems ignoreCase [] (s.length + 1) true .none s).toOption.map fun (members, rest) =>
        (.compl members, rest) := by
    funext s
    rw [readBracket, toOption_bind, toOption_readItems _ _ []]
    cases (readItems ignoreCase [] (s.length + 1) true .none s).toOption <;> rfl
  refine .cons rfl fun c => ?_
  by_cases hc : c = '^'
  · subst hc
    rw [hcaret]
    exact hitems.map _
  · have hne : (fun s => (readBracket ignoreCase (c :: s)).toOption) = fun s =>
        (readItems ignoreCase [] ((c :: s).length + 1) true .none (c :: s)).toOption := by
      funext s
      exact hread (c :: s) (by simpa using hc)
    rw [hne]
    refine ⟨suffix_of_readItems, fun s => ⟨?_, ?_⟩⟩
    · exact (hitems.local_at (c :: s)).shrink
    · exact (hitems.local_at (c :: s)).extend

end RouteMask.Regex
