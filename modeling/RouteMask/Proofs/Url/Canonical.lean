import RouteMask.Proofs.Url.Site

/-! # The shape of canonical URLs

A URL with a scheme and an authority has an origin (`Url.HasOrigin`).  Its canonical form is the scheme,
the host, the port where it has to be written, and a path that begins with a slash
(`Url.HasOrigin.exists_canonical`).  So where the canonical form can be read as a scheme, a host and a
port, the port is not the scheme's own (`Url.HasOrigin.schemePort?_ne`). -/

namespace RouteMask.Url

/-- The text is a URL with a scheme and an authority. -/
def HasOrigin (s : Text) : Prop :=
  ∃ u, parse [] s = .ok u ∧ u.scheme ≠ [] ∧ u.authority ≠ []

/-! ### Parts -/

/-- What follows an authority begins with a mark that ends it. -/
theorem head?_splitAuthority {s : Text} (h : (splitAuthority s).1 ≠ []) :
    (splitAuthority s).2 = [] ∨
      ∃ c, (c = '/' ∨ c = '?' ∨ c = '#') ∧ (splitAuthority s).2.head? = some c := by
  revert h
  fun_cases splitAuthority s with
  | case1 rest =>
      intro _
      cases hrest : rest.dropWhile (!endsAuthority ·) with
      | nil => exact Or.inl rfl
      | cons c more =>
          have hends := List.head?_dropWhile_not (!endsAuthority ·) rest
          rw [hrest] at hends
          have hc : endsAuthority c = true := by simpa using hends
          exact Or.inr ⟨c, endsAuthority_iff.mp hc, rfl⟩
  | case2 => exact fun h => absurd rfl h

/-- The parts that are read. -/
theorem eq_of_parse {scheme s : Text} {u : Url} (h : parse scheme s = .ok u) :
    ∃ rest, (splitScheme? (tidy s)).getD (scheme, tidy s) = (u.scheme, rest) ∧
      u.authority = (splitAuthority rest).1 ∧
      u.path = (splitMark '?' (splitMark '#' (splitAuthority rest).2).1).1 := by
  unfold parse at h
  obtain ⟨⟨⟩, -, h⟩ := exists_of_bind_eq_ok h
  obtain ⟨⟨⟩, -, h⟩ := exists_of_bind_eq_ok h
  obtain rfl := Except.ok.inj h
  exact ⟨_, rfl, rfl, rfl⟩

/-- A scheme that is there can be written again, and is in lower case. -/
theorem isScheme_of_parse {s : Text} {u : Url} (h : parse [] s = .ok u) (hne : u.scheme ≠ []) :
    IsScheme u.scheme ∧ ∀ c ∈ u.scheme, c.toLower = c := by
  obtain ⟨rest, hsplit, -⟩ := eq_of_parse h
  cases hscheme : splitScheme? (tidy s) with
  | none =>
      rw [hscheme] at hsplit
      exact absurd (Prod.mk.inj hsplit).1.symm hne
  | some split =>
      rw [hscheme] at hsplit
      obtain rfl : split = (u.scheme, rest) := hsplit
      exact isScheme_of_splitScheme? hscheme

theorem range_of_mem_scheme {s : Text} {u : Url} (h : parse [] s = .ok u) {c : Char}
    (hc : c ∈ u.scheme) : c.toNat < 0x80 ∧ c ≠ ':' ∧ ¬ (0x41 ≤ c.toNat ∧ c.toNat ≤ 0x5A) := by
  obtain ⟨hscheme, hlower⟩ := isScheme_of_parse h (List.ne_nil_of_mem hc)
  obtain ⟨-, hle, hcolon⟩ := range_of_isSchemeChar (hscheme.isSchemeChar_of_mem c hc)
  refine ⟨by omega, hcolon, fun hrange => ?_⟩
  have hmoved := Text.toNat_toLower (c := c)
  rw [if_pos (Text.isUpper_iff.mpr hrange), hlower c hc] at hmoved
  omega

/-- An authority that is read has passed its checks. -/
theorem checkAuthority_of_parse {scheme s : Text} {u : Url} (h : parse scheme s = .ok u) :
    checkBrackets u.authority = .ok () ∧ checkHidden u.authority = .ok () := by
  unfold parse at h
  obtain ⟨⟨⟩, hbrackets, h⟩ := exists_of_bind_eq_ok h
  obtain ⟨⟨⟩, hhidden, h⟩ := exists_of_bind_eq_ok h
  obtain rfl := Except.ok.inj h
  exact ⟨hbrackets, hhidden⟩

/-- What is read behind the scheme has no blanks that are filtered out. -/
theorem not_mem_of_eq_of_parse {scheme s : Text} {u : Url} {rest : Text}
    (h : (splitScheme? (tidy s)).getD (scheme, tidy s) = (u.scheme, rest)) {c : Char} (hc : c ∈ rest) :
    c ∉ "\t\r\n".toList := by
  have htidy : ∀ d ∈ tidy s, d ∉ "\t\r\n".toList := by
    intro d hd
    have := (List.mem_filter.mp hd).2
    simpa [and_assoc] using this
  refine htidy c ?_
  unfold splitScheme? at h
  split at h
  · next hcut =>
      obtain ⟨d, htext, -⟩ := Text.cut?_eq_some hcut
      split at h
      · obtain ⟨-, rfl⟩ := Prod.mk.inj h
        rw [htext]
        exact List.mem_append_right _ (List.mem_cons_of_mem d hc)
      · exact (Prod.mk.inj h).2 ▸ hc
  · exact (Prod.mk.inj h).2 ▸ hc

theorem isAuthority_of_parse {scheme s : Text} {u : Url} (h : parse scheme s = .ok u) :
    IsAuthority u.authority := by
  obtain ⟨rest, hsplit, hauthority, -⟩ := eq_of_parse h
  intro c hc
  rw [hauthority] at hc
  unfold splitAuthority at hc
  split at hc
  · next more =>
      have hends : (!endsAuthority c) = true := List.all_eq_true.mp List.all_takeWhile c hc
      have hmem : c ∈ '/' :: '/' :: more := by simp [(List.takeWhile_prefix _).subset hc]
      have hblank := not_mem_of_eq_of_parse hsplit hmem
      have hmark : c ∉ "/?#".toList := by simpa [endsAuthority, and_assoc] using hends
      have hcases : ∀ d ∈ "\t\r\n/?#".toList, d ∈ "\t\r\n".toList ∨ d ∈ "/?#".toList := by decide
      exact fun hmem => (hcases c hmem).elim hblank hmark
  · cases hc

/-- A path that is read has no marks behind which a query or a fragment begins, and no blanks that are
filtered out. -/
theorem not_mem_of_mem_path {scheme s : Text} {u : Url} (h : parse scheme s = .ok u) {c : Char}
    (hc : c ∈ u.path) : c ∉ "\t\r\n?#".toList := by
  obtain ⟨rest, hsplit, -, hpath⟩ := eq_of_parse h
  rw [hpath, splitMark_fst, splitMark_fst] at hc
  have hfront := (List.takeWhile_prefix _).subset hc
  have hbehind := (List.takeWhile_prefix _).subset hfront
  have hquery : (c != '?') = true := List.all_eq_true.mp List.all_takeWhile c hc
  have hfragment : (c != '#') = true := List.all_eq_true.mp List.all_takeWhile c hfront
  have hmem : c ∈ rest := by
    unfold splitAuthority at hbehind
    split at hbehind
    · simp [(List.dropWhile_suffix _).subset hbehind]
    · exact hbehind
  have hblank := not_mem_of_eq_of_parse hsplit hmem
  have hmark : c ∉ "?#".toList := by simpa using And.intro hquery hfragment
  have hcases : ∀ d ∈ "\t\r\n?#".toList, d ∈ "\t\r\n".toList ∨ d ∈ "?#".toList := by decide
  exact fun hmem => (hcases c hmem).elim hblank hmark

/-- Behind an authority a path begins with a slash, if it is not empty. -/
theorem head?_path_of_parse {scheme s : Text} {u : Url} (h : parse scheme s = .ok u)
    (hauthority : u.authority ≠ []) : u.path = [] ∨ u.path.head? = some '/' := by
  obtain ⟨rest, -, hfirst, hpath⟩ := eq_of_parse h
  rw [hfirst] at hauthority
  rw [hpath, splitMark_fst, splitMark_fst]
  rcases head?_splitAuthority hauthority with hnil | ⟨c, hc, hhead⟩
  · rw [hnil]
    exact Or.inl rfl
  · obtain ⟨more, hmore⟩ := List.head?_eq_some_iff.mp hhead
    rw [hmore]
    rcases hc with rfl | rfl | rfl
    · exact Or.inr rfl
    · exact Or.inl rfl
    · exact Or.inl rfl

/-! ### The canonical form -/

/-- A path, where the empty path is that of the root. -/
def rootedPath (path : Text) : Text :=
  if path.isEmpty then ['/'] else path

theorem head?_rootedPath {path : Text} (h : path = [] ∨ path.head? = some '/') :
    (rootedPath path).head? = some '/' := by
  rcases h with rfl | h
  · rfl
  · obtain ⟨rest, rfl⟩ := List.head?_eq_some_iff.mp h
    rfl

/-- The port that has to be written: one that is not the scheme's own. -/
def writtenPort (scheme : Text) (port : Option Nat) : Option Nat :=
  if port = schemePort? scheme then none else port

theorem portText_eq_part (scheme : Text) (port : Option Nat) :
    portText scheme port =
      Text.part ':' ((writtenPort scheme port).map fun n => (toString n).toList) := by
  unfold writtenPort
  cases port with
  | none => split <;> rfl
  | some n =>
      dsimp only [portText]
      by_cases hn : schemePort? scheme = some n
      · rw [if_pos hn, if_pos hn.symm]
        rfl
      · rw [if_neg hn, if_neg fun h => hn h.symm]
        rfl

/-- The canonical form of a URL with a scheme and an authority. -/
theorem canonical_eq_of_parse {s : Text} {u : Url} (hu : parse [] s = .ok u) (hscheme : u.scheme ≠ [])
    (hauthority : u.authority ≠ []) :
    canonical s = u.port?.map fun port =>
      u.scheme ++ "://".toList ++ (hostText u.host ++ portText u.scheme port) ++ rootedPath u.path := by
  have hparts : (u.scheme.isEmpty || u.authority.isEmpty) = false := by simp [hscheme, hauthority]
  unfold canonical
  rw [hu]
  dsimp only [bind, Except.bind]
  rw [hparts]
  cases u.port? with
  | error e => rfl
  | ok port =>
      dsimp only [Except.map]
      rw [List.append_assoc (u.scheme ++ "://".toList) (hostText u.host)]
      rfl

/-- The canonical form of a URL with an origin. -/
theorem HasOrigin.exists_canonical {s c : Text} (h : HasOrigin s) (hc : canonical s = .ok c) :
    ∃ (u : Url) (port : Option Nat) (path : Text), parse [] s = .ok u ∧ path.head? = some '/' ∧
      c = u.scheme ++ "://".toList ++ hostText u.host ++ portText u.scheme port ++ path := by
  obtain ⟨u, hu, hscheme, hauthority⟩ := h
  rw [canonical_eq_of_parse hu hscheme hauthority] at hc
  cases hport : u.port? with
  | error e =>
      rw [hport] at hc
      cases hc
  | ok port =>
      rw [hport] at hc
      refine ⟨u, port, _, hu, head?_rootedPath (head?_path_of_parse hu hauthority), ?_⟩
      rw [← Except.ok.inj hc]
      simp

/-- A host that begins with a bracket aside, the host of a canonical form has no colon. -/
theorem hostText_eq (host : Text) :
    (∃ rest, hostText host = '[' :: rest) ∨ ':' ∉ hostText host := by
  unfold hostText
  split
  · exact Or.inl ⟨_, rfl⟩
  · next h => exact Or.inr (by simpa using h)

/-- A path does not go on as a port does behind a host. -/
theorem append_path_ne {s host path rest : Text} (hs : ':' ∉ s) (hhost : '/' ∉ host)
    (hpath : path.head? = some '/') : s ++ path ≠ host ++ ':' :: rest := by
  intro h
  obtain ⟨more, rfl⟩ := List.head?_eq_some_iff.mp hpath
  rcases List.append_eq_append_iff.mp h with ⟨between, rfl, hbetween⟩ | ⟨between, rfl, hbetween⟩
  · cases between with
    | nil => cases hbetween
    | cons c between =>
        obtain ⟨rfl, -⟩ := List.cons.inj hbetween
        exact hhost (by simp)
  · cases between with
    | nil => cases hbetween
    | cons c between =>
        obtain ⟨rfl, -⟩ := List.cons.inj hbetween
        exact hs (by simp)

/-- Where the canonical form is a scheme, a name and a port, the scheme is in lower case and the port is
not the scheme's own. -/
theorem HasOrigin.schemePort?_ne {s scheme host digits rest : Text} (h : HasOrigin s)
    (hc : canonical s = .ok (scheme ++ "://".toList ++ (host ++ ':' :: digits) ++ rest))
    (hscheme : ':' ∉ scheme) (hhost : host ≠ [] ∧ ∀ c ∈ host, c ≠ ':' ∧ c ≠ '/' ∧ c ≠ '[')
    (hdigits : ∀ c ∈ digits, c.isDigit = true) (hrest : ∀ c ∈ rest.head?, c.isDigit = false) :
    (∀ c ∈ scheme, c.toNat < 0x80 ∧ ¬ (0x41 ≤ c.toNat ∧ c.toNat ≤ 0x5A)) ∧
      ∃ n, digits = (toString n).toList ∧ schemePort? scheme ≠ some n := by
  obtain ⟨u, port, path, hu, hpath, htext⟩ := h.exists_canonical hc
  have hcolon : ':' ∉ u.scheme := fun hmem => (range_of_mem_scheme hu hmem).2.1 rfl
  have hcut : scheme ++ ':' :: ("//".toList ++ (host ++ ':' :: (digits ++ rest))) =
      u.scheme ++ ':' :: ("//".toList ++ (hostText u.host ++ (portText u.scheme port ++ path))) := by
    simpa using htext
  obtain ⟨rfl, htail⟩ := Text.append_inj_of_not_mem hscheme hcolon (Or.inr rfl) (Or.inr rfl) hcut
  have hauthority : host ++ ':' :: (digits ++ rest) =
      hostText u.host ++ (portText u.scheme port ++ path) :=
    List.append_cancel_left (List.cons.inj htail).2
  have hname : ':' ∉ hostText u.host := by
    refine (hostText_eq u.host).resolve_left ?_
    rintro ⟨more, hbracket⟩
    obtain ⟨c, name, rfl⟩ := List.exists_cons_of_ne_nil hhost.1
    rw [hbracket] at hauthority
    exact (hhost.2 c List.mem_cons_self).2.2 (List.cons.inj hauthority).1
  refine ⟨fun c hmem => ?_, ?_⟩
  · obtain ⟨hascii, -, hlower⟩ := range_of_mem_scheme hu hmem
    exact ⟨hascii, hlower⟩
  · rcases portText_eq u.scheme port with hnone | ⟨n, -, hne, hsome⟩
    · rw [hnone, List.nil_append] at hauthority
      exact absurd hauthority.symm (append_path_ne hname (fun hmem => (hhost.2 _ hmem).2.1 rfl) hpath)
    · rw [hsome, List.cons_append] at hauthority
      obtain ⟨-, hport⟩ := Text.append_inj_of_not_mem (fun hmem => (hhost.2 _ hmem).1 rfl) hname
        (Or.inr rfl) (Or.inr rfl) hauthority
      have hslash : ∀ c ∈ path.head?, c.isDigit = false := by
        intro c hmem
        rw [hpath] at hmem
        rw [← Option.some.inj hmem]
        rfl
      obtain ⟨hsame, -⟩ := Text.append_inj_of_forall hdigits
        (fun c hmem => Text.isDigit_of_mem_toString hmem) hrest hslash (List.cons.inj hport).2
      exact ⟨n, hsame, hne⟩

end RouteMask.Url
