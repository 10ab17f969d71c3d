import RouteMask.Proofs.Url.Resolution

/-! # Paths without dot segments

Resolving leaves a path alone that has no dot segments (`Url.resolvePath_eq_self`).  Even so a rooted
path does not always stay as it is when it is put behind an origin: parameters are cut off first, so
their mark goes when nothing stands behind it, and a dot in front of it becomes a dot segment
(`Url.rejoinPath_eq_self_iff`).  No mark of a query or a fragment appears on the way
(`Url.of_mem_rejoinPath`). -/

namespace RouteMask

namespace Url

/-- No segment of the path is `.` or `..`. -/
def IsDotless (path : Text) : Prop :=
  ∀ segment ∈ Text.splitOn ['/'] path, segment ≠ ['.'] ∧ segment ≠ ['.', '.']

instance (path : Text) : Decidable (IsDotless path) :=
  List.decidableBAll _ _

theorem dropDots_append {segments : List Text}
    (h : ∀ segment ∈ segments, segment ≠ ['.'] ∧ segment ≠ ['.', '.']) (done rest : List Text) :
    dropDots done (segments ++ rest) = dropDots (segments.reverse ++ done) rest := by
  induction segments generalizing done with
  | nil => rfl
  | cons segment segments ih =>
      obtain ⟨hdot, hdots⟩ := h segment (List.mem_cons_self ..)
      rw [List.cons_append, dropDots, if_neg hdots, if_neg hdot,
        ih (fun s hs => h s (List.mem_cons_of_mem _ hs)), List.reverse_cons, List.append_assoc]
      rfl

/-- Resolving leaves a path without dot segments alone. -/
theorem resolvePath_eq_self {path : Text} (hpath : path.head? = some '/') (h : IsDotless path) :
    resolvePath [] path = path := by
  have hlast : ¬((Text.splitOn ['/'] path).getLast?.getD [] = ['.'] ∨
      (Text.splitOn ['/'] path).getLast?.getD [] = ['.', '.']) := by
    cases hget : (Text.splitOn ['/'] path).getLast? with
    | none => simp
    | some last =>
        have := h last (List.mem_of_getLast? hget)
        simpa using this
  have hdrop : dropDots [] (Text.splitOn ['/'] path) = Text.splitOn ['/'] path := by
    have := dropDots_append h [] []
    rw [List.append_nil, List.append_nil] at this
    rw [this, dropDots, List.reverse_reverse]
  have hne : path.isEmpty = false := by
    cases path with
    | nil => cases hpath
    | cons c path => rfl
  unfold resolvePath
  simp only [hpath, if_true, hlast, if_false, hdrop, Text.intercalate_splitOn (List.cons_ne_nil _ _),
    hne]
  rfl

/-! ### Behind an origin -/

/-- The path of a rooted mask as resolving puts it behind an origin. -/
def rejoinPath (path : Text) : Text :=
  atRoot (joinParameters (resolvePath [] (cutParameters path).1) (cutParameters path).2)

theorem atRoot_eq_self {path : Text} (h : path.head? = some '/') : atRoot path = path := by
  simp [atRoot, h]

/-- The parameters of the last segment, if it has any, are not empty, and what stands in front of them
is no dot segment. -/
def KeepsParameters (path : Text) : Prop :=
  ∀ cut ∈ Text.cut? (· == ';') (lastSegment path),
    cut.2 ≠ [] ∧ cut.1 ≠ ['.'] ∧ cut.1 ≠ ['.', '.']

instance (path : Text) : Decidable (KeepsParameters path) :=
  inferInstanceAs (Decidable (∀ cut ∈ Text.cut? (· == ';') (lastSegment path), _))

theorem intercalate_append_nil {segments : List Text} (h : segments ≠ []) (sep : Text) :
    sep.intercalate (segments ++ [[]]) = sep.intercalate segments ++ sep := by
  induction segments with
  | nil => exact absurd rfl h
  | cons a segments ih =>
      cases segments with
      | nil => simp
      | cons b segments =>
          rw [List.cons_append, List.intercalate_cons_of_ne_nil (by simp), ih (List.cons_ne_nil _ _),
            List.intercalate_cons_cons, List.append_assoc, List.append_assoc, List.append_assoc]

theorem length_intercalate_dropLast_le (segments : List Text) (sep : Text) :
    (sep.intercalate (segments.dropLast ++ [[]])).length ≤ (sep.intercalate segments).length := by
  induction segments with
  | nil => simp
  | cons a segments ih =>
      cases segments with
      | nil => simp
      | cons b segments =>
          rw [List.dropLast_cons_cons, List.cons_append, List.intercalate_cons_of_ne_nil (by simp),
            List.intercalate_cons_cons]
          simp only [List.length_append]
          omega

theorem head?_append_slash {d : Text} (h : d = [] ∨ d.head? = some '/') (rest : Text) :
    (d ++ '/' :: rest).head? = some '/' := by
  rcases h with rfl | h
  · rfl
  · simp [List.head?_append, h]

/-- What is left of a path that ends in a dot segment. -/
theorem resolvePath_append_dot {d : Text} (hd : IsDotless d) (hhead : d = [] ∨ d.head? = some '/') :
    resolvePath [] (d ++ "/.".toList) = d ++ ['/'] := by
  have hpath : (d ++ "/.".toList).head? = some '/' := head?_append_slash hhead ['.']
  have hsplit : Text.splitOn ['/'] (d ++ "/.".toList) = Text.splitOn ['/'] d ++ [['.']] :=
    Text.splitOn_append_sep '/' d ['.']
  have hdrop : dropDots [] (Text.splitOn ['/'] d ++ [['.']]) = Text.splitOn ['/'] d := by
    rw [dropDots_append hd, List.append_nil]
    simp [dropDots]
  have hjoin : List.intercalate ['/'] (Text.splitOn ['/'] d ++ [[]]) = d ++ ['/'] := by
    rw [intercalate_append_nil (Text.splitOn_ne_nil '/' d),
      Text.intercalate_splitOn (List.cons_ne_nil _ _)]
  unfold resolvePath
  simp only [hpath, if_true, hsplit, List.getLast?_concat, Option.getD_some, true_or, hdrop, hjoin]
  simp

theorem length_resolvePath_append_dots_le {d : Text} (hd : IsDotless d)
    (hhead : d = [] ∨ d.head? = some '/') :
    (resolvePath [] (d ++ "/..".toList)).length ≤ d.length + 1 := by
  have hpath : (d ++ "/..".toList).head? = some '/' := head?_append_slash hhead ['.', '.']
  have hsplit : Text.splitOn ['/'] (d ++ "/..".toList) = Text.splitOn ['/'] d ++ [['.', '.']] :=
    Text.splitOn_append_sep '/' d ['.', '.']
  have hdrop : dropDots [] (Text.splitOn ['/'] d ++ [['.', '.']]) =
      (Text.splitOn ['/'] d).dropLast := by
    rw [dropDots_append hd, List.append_nil]
    simp [dropDots]
  have hjoin : (List.intercalate ['/'] ((Text.splitOn ['/'] d).dropLast ++ [[]])).length ≤
      d.length := by
    have hle := length_intercalate_dropLast_le (Text.splitOn ['/'] d) ['/']
    rwa [Text.intercalate_splitOn (List.cons_ne_nil _ _)] at hle
  unfold resolvePath
  simp only [hpath, if_true, hsplit, List.getLast?_concat, Option.getD_some, or_true, hdrop]
  split
  · simp
  · omega

theorem length_atRoot_le (path : Text) : (atRoot path).length ≤ path.length + 1 := by
  unfold atRoot
  split
  · simp
  · omega

theorem head?_joinParameters {path : Text} (h : path.head? = some '/') (parameters : Text) :
    (joinParameters path parameters).head? = some '/' := by
  unfold joinParameters
  split
  · exact h
  · simp [List.head?_append, h]

theorem length_joinParameters_le (path parameters : Text) :
    (joinParameters path parameters).length ≤ path.length + 1 + parameters.length := by
  unfold joinParameters
  split
  · omega
  · simp only [List.length_append, List.length_cons]
    omega

theorem exists_append_slash {path : Text} (hpath : path.head? = some '/') :
    ∃ d l, path = d ++ '/' :: l ∧ '/' ∉ l ∧ (d = [] ∨ d.head? = some '/') := by
  obtain ⟨d, hcut, hd⟩ := exists_append_lastSegment path
  have hl := not_mem_lastSegment path
  generalize lastSegment path = l at hcut hl
  subst hcut
  rcases hd with rfl | hd
  · exact absurd (List.mem_of_head? hpath) hl
  · obtain ⟨e, rfl⟩ := List.getLast?_eq_some_iff.mp hd
    refine ⟨e, l, by simp, hl, ?_⟩
    cases e with
    | nil => exact .inl rfl
    | cons c e => exact .inr hpath

theorem isDotless_append_slash {d l : Text} (hl : '/' ∉ l) :
    IsDotless (d ++ '/' :: l) ↔ IsDotless d ∧ l ≠ ['.'] ∧ l ≠ ['.', '.'] := by
  unfold IsDotless
  rw [Text.splitOn_append_sep, Text.splitOn_eq_singleton hl]
  constructor
  · intro h
    exact ⟨fun s hs => h s (List.mem_append_left _ hs), h l (by simp)⟩
  · rintro ⟨hd, hlast⟩ s hs
    rcases List.mem_append.mp hs with hs | hs
    · exact hd s hs
    · rwa [List.mem_singleton.mp hs]

/-- A dot segment in front of parameters goes, so the path becomes shorter. -/
theorem length_atRoot_joinParameters_lt {d segment : Text} (hd : IsDotless d)
    (hhead : d = [] ∨ d.head? = some '/') (hdots : segment = ['.'] ∨ segment = ['.', '.'])
    (parameters : Text) :
    (atRoot (joinParameters (resolvePath [] (d ++ '/' :: segment)) parameters)).length <
      (d ++ '/' :: (segment ++ ';' :: parameters)).length := by
  have hjoin := length_joinParameters_le (resolvePath [] (d ++ '/' :: segment)) parameters
  have hroot := length_atRoot_le (joinParameters (resolvePath [] (d ++ '/' :: segment)) parameters)
  simp only [List.length_append, List.length_cons]
  rcases hdots with rfl | rfl
  · have hresolve : resolvePath [] (d ++ '/' :: ['.']) = d ++ ['/'] := resolvePath_append_dot hd hhead
    have hslash : (d ++ ['/']).head? = some '/' := head?_append_slash hhead []
    rw [hresolve, atRoot_eq_self (head?_joinParameters hslash parameters)]
    rw [hresolve] at hjoin
    simp only [List.length_append, List.length_cons, List.length_nil] at hjoin ⊢
    omega
  · have hle : (resolvePath [] (d ++ '/' :: ['.', '.'])).length ≤ d.length + 1 :=
      length_resolvePath_append_dots_le hd hhead
    simp only [List.length_cons, List.length_nil]
    omega

/-- Exactly the paths that keep their parameters stay as they are. -/
theorem rejoinPath_eq_self_iff {path : Text} (hpath : path.head? = some '/') (h : IsDotless path) :
    rejoinPath path = path ↔ KeepsParameters path := by
  obtain ⟨d, l, rfl, hl, hd⟩ := exists_append_slash hpath
  have hassoc : ∀ t : Text, d ++ '/' :: t = (d ++ ['/']) ++ t := fun t => by simp
  have hend : d ++ ['/'] = [] ∨ (d ++ ['/']).getLast? = some '/' := .inr (by simp)
  have hlast : lastSegment (d ++ '/' :: l) = l := by rw [hassoc, lastSegment_append hl hend]
  have hcutpath := cutParameters_append hl hend
  rw [← hassoc] at hcutpath
  unfold rejoinPath KeepsParameters
  rw [hlast]
  cases hcut : Text.cut? (· == ';') l with
  | none =>
      have hself := resolvePath_eq_self hpath h
      simp only [hcut] at hcutpath
      simp [hcutpath, joinParameters, hself, atRoot_eq_self hpath]
  | some parts =>
      obtain ⟨segment, parameters⟩ := parts
      obtain ⟨c, rfl, hc, -⟩ := Text.cut?_eq_some hcut
      obtain rfl := beq_iff_eq.mp hc
      have hsegment : '/' ∉ segment := fun hmem => hl (by simp [hmem])
      have hdotless := (isDotless_append_slash hl).mp h
      simp only [hcut, ← hassoc] at hcutpath
      simp only [hcutpath, Option.mem_some_iff, forall_eq', ne_eq]
      by_cases hdots : segment = ['.'] ∨ segment = ['.', '.']
      · have hlt := length_atRoot_joinParameters_lt hdotless.1 hd hdots parameters
        constructor
        · intro heq
          rw [heq] at hlt
          exact absurd hlt (Nat.lt_irrefl _)
        · rintro ⟨-, hdot, hdotdot⟩
          exact (hdots.elim hdot hdotdot).elim
      · obtain ⟨hdot, hdotdot⟩ := not_or.mp hdots
        have hname : IsDotless (d ++ '/' :: segment) :=
          (isDotless_append_slash hsegment).mpr ⟨hdotless.1, hdot, hdotdot⟩
        have hslash := head?_append_slash hd segment
        rw [resolvePath_eq_self hslash hname, atRoot_eq_self (head?_joinParameters hslash parameters)]
        cases parameters <;> simp [joinParameters, hdot, hdotdot]

/-! ### Characters of a path -/

theorem mem_intercalate_iff {c : Char} {sep : Text} (hc : c ∉ sep) (segments : List Text) :
    c ∈ sep.intercalate segments ↔ ∃ segment ∈ segments, c ∈ segment := by
  induction segments with
  | nil => simp
  | cons a segments ih =>
      cases segments with
      | nil => simp
      | cons b segments =>
          rw [List.intercalate_cons_cons, List.append_assoc, List.mem_append, List.mem_append, ih]
          simp [hc]

theorem of_mem_dropDots {done segments : List Text} {segment : Text}
    (h : segment ∈ dropDots done segments) : segment ∈ done ∨ segment ∈ segments := by
  induction segments generalizing done with
  | nil => exact .inl (List.mem_reverse.mp h)
  | cons first rest ih =>
      rw [dropDots] at h
      split at h
      · rcases ih h with h | h
        · exact .inl (List.mem_of_mem_drop h)
        · exact .inr (List.mem_cons_of_mem _ h)
      split at h
      · rcases ih h with h | h
        · exact .inl h
        · exact .inr (List.mem_cons_of_mem _ h)
      · rcases ih h with h | h
        · rcases List.mem_cons.mp h with rfl | h
          · exact .inr (List.mem_cons_self ..)
          · exact .inl h
        · exact .inr (List.mem_cons_of_mem _ h)

theorem of_mem_resolvePath {c : Char} (hslash : c ≠ '/') {path : Text}
    (hpath : path.head? = some '/') (h : c ∈ resolvePath [] path) : c ∈ path := by
  have hsep : c ∉ ['/'] := by simpa using hslash
  have hown : ∀ segments : List Text,
      (∀ segment ∈ segments, segment = [] ∨ segment ∈ Text.splitOn ['/'] path) →
        c ∈ (if (List.intercalate ['/'] segments).isEmpty then ['/']
          else List.intercalate ['/'] segments) → c ∈ path := by
    intro segments hsegments hmem
    split at hmem
    · exact absurd hmem hsep
    · obtain ⟨segment, hsegment, hc⟩ := (mem_intercalate_iff hsep segments).mp hmem
      rcases hsegments segment hsegment with rfl | hsegment
      · cases hc
      · rw [← Text.intercalate_splitOn (List.cons_ne_nil _ _) path]
        exact (mem_intercalate_iff hsep _).mpr ⟨segment, hsegment, hc⟩
  have hkept : ∀ segment ∈ dropDots [] (Text.splitOn ['/'] path),
      segment = [] ∨ segment ∈ Text.splitOn ['/'] path := by
    intro segment hsegment
    rcases of_mem_dropDots hsegment with hsegment | hsegment
    · cases hsegment
    · exact .inr hsegment
  unfold resolvePath at h
  simp only [hpath, if_true] at h
  split at h
  · refine hown _ ?_ h
    intro segment hsegment
    rcases List.mem_append.mp hsegment with hsegment | hsegment
    · exact hkept segment hsegment
    · exact .inl (List.mem_singleton.mp hsegment)
  · exact hown _ hkept h

theorem of_mem_atRoot {c : Char} (hslash : c ≠ '/') {path : Text} (h : c ∈ atRoot path) : c ∈ path := by
  unfold atRoot at h
  split at h
  · exact (List.mem_cons.mp h).resolve_left hslash
  · exact h

theorem of_mem_joinParameters {c : Char} (hsemicolon : c ≠ ';') {path parameters : Text}
    (h : c ∈ joinParameters path parameters) : c ∈ path ∨ c ∈ parameters := by
  unfold joinParameters at h
  split at h
  · exact .inl h
  · rcases List.mem_append.mp h with h | h
    · exact .inl h
    · exact .inr ((List.mem_cons.mp h).resolve_left hsemicolon)

theorem of_mem_cutParameters {c : Char} {path : Text}
    (h : c ∈ (cutParameters path).1 ∨ c ∈ (cutParameters path).2) : c ∈ path := by
  obtain ⟨d, hpath, hd⟩ := exists_append_lastSegment path
  have hl := not_mem_lastSegment path
  generalize lastSegment path = l at hpath hl
  subst hpath
  rw [cutParameters_append hl hd] at h
  cases hcut : Text.cut? (· == ';') l with
  | none => simpa [hcut] using h
  | some parts =>
      obtain ⟨e, rfl, -, -⟩ := Text.cut?_eq_some hcut
      simp only [hcut, List.mem_append] at h
      rcases h with (h | h) | h
      · exact List.mem_append_left _ h
      · simp [h]
      · simp [h]

/-- Putting a path behind an origin makes slashes and marks of parameters only. -/
theorem of_mem_rejoinPath {c : Char} (hslash : c ≠ '/') (hsemicolon : c ≠ ';') {path : Text}
    (hpath : path.head? = some '/') (h : c ∈ rejoinPath path) : c ∈ path := by
  rcases of_mem_joinParameters hsemicolon (of_mem_atRoot hslash h) with h | h
  · exact of_mem_cutParameters (.inl (of_mem_resolvePath hslash (head?_cutParameters hpath) h))
  · exact of_mem_cutParameters (.inr h)

end Url

end RouteMask
