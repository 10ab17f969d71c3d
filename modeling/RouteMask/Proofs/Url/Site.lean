import RouteMask.Mask.Skeleton
import RouteMask.Proofs.Url.Written

/-! # Sites

A site is a scheme, a host that stands for itself in a mask, and a port.  A URL that is a site and a path
is split into these again (`Site.parse_append_eq`), and its canonical form is the same for every path in
front of the path (`Site.canonical_append`).  So where one URL of a site is its own canonical form, all
of them are (`Site.isCanonical_of_canonical_append`), and the port has at most five digits. -/

namespace RouteMask

namespace Skeleton

theorem isBlank_eq_false {c : Char} (h : 0x20 < c.toNat ∧ c.toNat < 0x80) :
    Unicode.isBlank c = false := by
  rw [Unicode.isBlank, Bool.eq_false_iff]
  intro hc
  obtain ⟨r, hr, hfirst, hlast⟩ := Unicode.Ranges.has_iff.mp hc
  have hranges : ∀ r ∈ Unicode.blanks, r.2 ≤ 0x20 ∨ 0x80 ≤ r.1 := by decide
  have := hranges r hr
  omega

theorem isHostChar_of_range {c : Char} (h : 0x2D ≤ c.toNat ∧ c.toNat ≤ 0x7A)
    (hslash : c.toNat ≠ 0x2F) (hletter : c.toNat ≤ 0x3A ∨ 0x61 ≤ c.toNat) :
    isHostChar c = true := by
  simp only [isHostChar, isBlank_eq_false (show 0x20 < c.toNat ∧ c.toNat < 0x80 by omega),
    Bool.and_eq_true, bne_iff_ne, ne_eq, Text.eq_iff_toNat, Char.reduceToNat, Bool.not_false,
    and_true]
  omega

end Skeleton

/-! ### Parts of a site -/

namespace HostMask

/-- The characters that have a meaning in a template or in the authority of a URL. -/
def marks : Text := "\\:*+?(\x7b\x7d#@".toList

/-- A host that stands for itself in a mask: a name without marks, or an address. -/
def IsSimple : HostMask → Prop
  | plain text => text ≠ [] ∧ ∀ c ∈ text, Skeleton.isHostChar c = true ∧ c ∉ marks
  | bracketed address => address ≠ [] ∧ ∀ c ∈ address, Skeleton.isAddressChar c = true

end HostMask

/-- A scheme, a host that stands for itself, and a port, which is empty when there is none. -/
structure Site where
  scheme : Text
  host : HostMask
  port : Text
  scheme_ne_nil : scheme ≠ []
  isLower_of_mem_scheme : ∀ c ∈ scheme, c.isLower = true
  host_isSimple : host.IsSimple
  isDigit_of_mem_port : ∀ c ∈ port, c.isDigit = true

namespace Site

variable (site : Site)

/-- The port behind its colon. -/
def portPart : Text :=
  if site.port = [] then [] else ':' :: site.port

/-- The host and the port. -/
def authority : Text :=
  site.host.text ++ site.portPart

/-- The text of a site. -/
def text : Text :=
  site.scheme ++ "://".toList ++ site.authority

theorem range_of_mem_scheme {c : Char} (h : c ∈ site.scheme) : 0x61 ≤ c.toNat ∧ c.toNat ≤ 0x7A :=
  Text.isLower_iff.mp (site.isLower_of_mem_scheme c h)

theorem range_of_mem_port {c : Char} (h : c ∈ site.port) : 0x30 ≤ c.toNat ∧ c.toNat ≤ 0x39 :=
  Text.isDigit_iff.mp (site.isDigit_of_mem_port c h)

theorem colon_not_mem_scheme : ':' ∉ site.scheme := by
  intro h
  have := site.range_of_mem_scheme h
  revert this
  decide

theorem colon_not_mem_port : ':' ∉ site.port := by
  intro h
  have := site.range_of_mem_port h
  revert this
  decide

theorem ne_nil_of_isSimple {host : HostMask} (h : host.IsSimple) : host.text ≠ [] := by
  cases host with
  | plain name => exact h.1
  | bracketed address => exact List.cons_ne_nil _ _

theorem authority_ne_nil : site.authority ≠ [] := by
  have := ne_nil_of_isSimple site.host_isSimple
  simp [authority, this]

theorem mem_portPart {c : Char} (h : c ∈ site.portPart) : c = ':' ∨ c.isDigit = true := by
  unfold portPart at h
  split at h
  · cases h
  · rcases List.mem_cons.mp h with rfl | h
    · exact Or.inl rfl
    · exact Or.inr (site.isDigit_of_mem_port c h)

/-- No blank that is filtered out, no mark of a part of a URL and no star stands in an authority. -/
theorem not_mem_of_mem_authority {c : Char} (h : c ∈ site.authority) :
    c ∉ "\t\r\n/?#@*".toList := by
  intro hmark
  rcases List.mem_append.mp h with h | h
  · have hsimple := site.host_isSimple
    cases hhost : site.host with
    | plain name =>
        rw [hhost] at hsimple h
        have hmarks : ∀ d ∈ "\t\r\n/?#@*".toList,
            Skeleton.isHostChar d = false ∨ d ∈ HostMask.marks := by decide
        obtain ⟨hchar, hfree⟩ := hsimple.2 c h
        rcases hmarks c hmark with hfalse | hmem
        · rw [hfalse] at hchar
          cases hchar
        · exact hfree hmem
    | bracketed address =>
        rw [hhost] at hsimple h
        have hmarks : ∀ d ∈ "\t\r\n/?#@*".toList,
            Skeleton.isAddressChar d = false ∧ d ≠ '[' ∧ d ≠ ']' := by decide
        obtain ⟨hchar, hopen, hclose⟩ := hmarks c hmark
        simp only [HostMask.text, List.cons_append, List.mem_cons, List.mem_append, List.not_mem_nil,
          or_false] at h
        rcases h with h | h | h
        · exact hopen h
        · rw [hsimple.2 c h] at hchar
          cases hchar
        · exact hclose h
  · have hmarks : ∀ d ∈ "\t\r\n/?#@*".toList, d ≠ ':' ∧ d.isDigit = false := by decide
    obtain ⟨hcolon, hdigit⟩ := hmarks c hmark
    rcases site.mem_portPart h with h | h
    · exact hcolon h
    · rw [hdigit] at h
      cases h

/-! ### Splitting -/

theorem isScheme : Url.IsScheme site.scheme where
  isAlpha_head := by
    obtain ⟨c, s, hs⟩ := List.exists_cons_of_ne_nil site.scheme_ne_nil
    exact ⟨c, by rw [hs]; rfl, Text.isAlpha_of_isLower (site.isLower_of_mem_scheme c (by simp [hs]))⟩
  isSchemeChar_of_mem c hc := by
    have halpha := Text.isAlpha_of_isLower (site.isLower_of_mem_scheme c hc)
    simp [Url.isSchemeChar, Char.isAlphanum, halpha]

theorem map_toLower_scheme : site.scheme.map Char.toLower = site.scheme := by
  refine Url.map_toLower_eq_self fun c hc => ?_
  have := site.range_of_mem_scheme hc
  have hlower := Text.toNat_toLower (c := c)
  rw [if_neg (by rw [Text.isUpper_iff]; omega)] at hlower
  exact Char.toNat_inj.mp hlower

theorem isAuthority : Url.IsAuthority site.authority := by
  have hmarks : ∀ d ∈ "\t\r\n/?#".toList, d ∈ "\t\r\n/?#@*".toList := by decide
  exact fun c hc hmark => site.not_mem_of_mem_authority hc (hmarks c hmark)

/-- The checks of an authority. -/
def check : Except UrlError Unit := do
  Url.checkBrackets site.authority
  Url.checkHidden site.authority

theorem parse_append_eq (scheme : Text) {path : Text} (hpath : path = [] ∨ path.head? = some '/') :
    let clean := path.filter fun c => c != '\t' && c != '\r' && c != '\n'
    Url.parse scheme (site.text ++ path) = site.check.map fun _ =>
      ⟨site.scheme, site.authority, (Url.splitMark '?' (Url.splitMark '#' clean).1).1,
        (Url.splitMark '?' (Url.splitMark '#' clean).1).2, (Url.splitMark '#' clean).2⟩ := by
  intro clean
  have hparse := Url.parse_written scheme site.isScheme site.isAuthority
    (Url.endsAuthority_of_head? hpath)
  rw [site.map_toLower_scheme] at hparse
  exact hparse

end Site

/-! ### Paths -/

namespace Url

/-- A path as the parts of a URL keep it: without tabs and line ends, up to the first mark of a
fragment or a query. -/
def barePath (path : Text) : Text :=
  ((path.filter fun c => c != '\t' && c != '\r' && c != '\n').takeWhile (· != '#')).takeWhile
    (· != '?')

theorem splitMark_fst (mark : Char) (s : Text) :
    (Url.splitMark mark s).1 = s.takeWhile (· != mark) := by
  induction s with
  | nil => rfl
  | cons c s ih =>
      unfold Url.splitMark at ih ⊢
      rw [Text.cut?]
      by_cases hc : c = mark
      · simp [hc]
      · rw [if_neg (by simpa using hc), List.takeWhile_cons_of_pos (by simpa using hc), ← ih]
        cases Text.cut? (· == mark) s <;> rfl

theorem barePath_eq_self {path : Text} (h : ∀ c ∈ path, 0x20 < c.toNat ∧ c ≠ '#' ∧ c ≠ '?') :
    barePath path = path := by
  have hfilter : path.filter (fun c => c != '\t' && c != '\r' && c != '\n') = path := by
    refine List.filter_eq_self.mpr fun c hc => ?_
    have := (h c hc).1
    simp only [Bool.and_eq_true, bne_iff_ne, ne_eq, Text.eq_iff_toNat, Char.reduceToNat]
    omega
  have htake : ∀ mark : Char, (∀ c ∈ path, c ≠ mark) → path.takeWhile (· != mark) = path := by
    intro mark hmark
    have hall : ∀ c ∈ path, (c != mark) = true := fun c hc => bne_iff_ne.mpr (hmark c hc)
    rw [← List.append_nil path, List.takeWhile_append_of_pos hall]
    rfl
  rw [barePath, hfilter, htake '#' fun c hc => (h c hc).2.1, htake '?' fun c hc => (h c hc).2.2]

/-- The path that a canonical URL has for the path of a URL. -/
def fullPath (path : Text) : Text :=
  if barePath path = [] then ['/'] else barePath path

theorem head?_barePath {path : Text} (hpath : path.head? = some '/') :
    (barePath path).head? = some '/' := by
  obtain ⟨rest, rfl⟩ := List.head?_eq_some_iff.mp hpath
  rfl

theorem fullPath_eq {path : Text} (hpath : path.head? = some '/') : fullPath path = barePath path := by
  refine if_neg ?_
  intro hnil
  have := head?_barePath hpath
  rw [hnil] at this
  cases this

theorem le_of_port?_eq_some {u : Url} {n : Nat} (h : u.port? = .ok (some n)) : n ≤ 65535 := by
  unfold Url.port? at h
  dsimp only at h
  split at h
  · cases h
  split at h
  · cases h
  split at h
  · cases h
  split at h
  · cases h
  · cases h
    omega

theorem host_congr {u v : Url} (h : u.authority = v.authority) : u.host = v.host := by
  unfold Url.host
  rw [h]

theorem port?_congr {u v : Url} (h : u.authority = v.authority) : u.port? = v.port? := by
  unfold Url.port?
  rw [h]

/-- A port as it is written in an origin: not at all, or behind a colon if it is not the scheme's own. -/
theorem portText_eq (scheme : Text) (port : Option Nat) :
    Url.portText scheme port = [] ∨
      ∃ n, port = some n ∧ Url.schemePort? scheme ≠ some n ∧
        Url.portText scheme port = ':' :: (toString n).toList := by
  unfold Url.portText
  split
  · next n =>
      split
      · exact Or.inl rfl
      · next hne => exact Or.inr ⟨n, rfl, hne, rfl⟩
  · exact Or.inl rfl

theorem range_of_mem_portText {scheme : Text} {port : Option Nat} {c : Char}
    (h : c ∈ portText scheme port) : 0x30 ≤ c.toNat ∧ c.toNat ≤ 0x3A := by
  rcases portText_eq scheme port with hport | ⟨n, -, -, hport⟩
  · rw [hport] at h
    cases h
  · rw [hport] at h
    rcases List.mem_cons.mp h with rfl | h
    · decide
    · have := Text.isDigit_iff.mp (Text.isDigit_of_mem_toString h)
      omega

end Url

namespace Site

variable (site : Site)

/-! ### Host and port -/

/-- The host without its brackets. -/
def hostName : HostMask → Text
  | .plain name => name
  | .bracketed address => address

/-- The port, unless it is empty. -/
def port? : Option Text :=
  if site.port = [] then none else some site.port

theorem portPart_eq : site.portPart = Text.part ':' site.port? := by
  unfold portPart port?
  split <;> rfl

theorem getD_port? : site.port?.getD [] = site.port := by
  unfold port?
  split
  · next hport => exact hport.symm
  · rfl

theorem hostAndPort_authority : Url.hostAndPort site.authority = (hostName site.host, site.port) := by
  have hsimple := site.host_isSimple
  have huser : '@' ∉ site.authority := fun h => site.not_mem_of_mem_authority h (by decide)
  rw [← site.getD_port?]
  unfold authority at huser ⊢
  rw [portPart_eq] at huser ⊢
  cases hhost : site.host with
  | plain name =>
      rw [hhost] at hsimple huser
      have hopen : '[' ∉ name ++ Text.part ':' site.port? := by
        rw [← portPart_eq]
        intro h
        rcases List.mem_append.mp h with h | h
        · exact absurd (hsimple.2 _ h).1 (by decide)
        · rcases site.mem_portPart h with h | h <;> exact absurd h (by decide)
      exact Url.hostAndPort_plain huser hopen fun h => (hsimple.2 _ h).2 (by decide)
  | bracketed address =>
      rw [hhost] at hsimple huser
      have htext : HostMask.text (.bracketed address) ++ Text.part ':' site.port? =
          '[' :: address ++ ']' :: Text.part ':' site.port? := by simp [HostMask.text]
      rw [htext] at huser ⊢
      exact Url.hostAndPort_bracketed huser fun h => absurd (hsimple.2 _ h) (by decide)

/-! ### Canonical sites -/

/-- The parts of the URL of a site. -/
def url : Url :=
  ⟨site.scheme, site.authority, ['/'], [], []⟩

/-- What stands in front of the path in the canonical form of a URL of the site. -/
def front? : Except UrlError Text := do
  site.check
  let port ← site.url.port?
  .ok (site.scheme ++ "://".toList ++ Url.hostText site.url.host ++ Url.portText site.scheme port)

theorem parse_append (scheme : Text) {path : Text} (hpath : path = [] ∨ path.head? = some '/') :
    ∃ u, Url.parse scheme (site.text ++ path) = site.check.map (fun _ => u) ∧
      u.scheme = site.scheme ∧ u.authority = site.authority ∧ u.path = Url.barePath path := by
  refine ⟨_, site.parse_append_eq scheme hpath, rfl, rfl, ?_⟩
  dsimp only
  rw [Url.splitMark_fst, Url.splitMark_fst]
  rfl

theorem canonical_append {path : Text} (hpath : path = [] ∨ path.head? = some '/') :
    Url.canonical (site.text ++ path) = site.front?.map (· ++ Url.fullPath path) := by
  obtain ⟨u, hparse, hscheme, hauthority, hplace⟩ := site.parse_append [] hpath
  have hurl : u.authority = site.url.authority := hauthority
  have hne : (site.scheme.isEmpty || site.authority.isEmpty) = false := by
    simp [site.scheme_ne_nil, site.authority_ne_nil]
  unfold Url.canonical front?
  rw [hparse]
  cases site.check with
  | error e => rfl
  | ok _ =>
      dsimp only [Except.map, bind, Except.bind]
      rw [hscheme, hauthority, hne, hplace, Url.port?_congr hurl, Url.host_congr hurl]
      simp only [Bool.false_eq_true, if_false, List.isEmpty_iff]
      cases site.url.port? <;> rfl

/-- The site is written in the canonical way. -/
def IsCanonical : Prop :=
  site.front? = .ok site.text

variable {site}

/-- A URL that is its own canonical form is of a canonical site. -/
theorem isCanonical_of_canonical_append {path : Text} (hpath : path.head? = some '/')
    (hkept : ∀ c ∈ path, 0x20 < c.toNat ∧ c ≠ '#' ∧ c ≠ '?')
    (h : Url.canonical (site.text ++ path) = .ok (site.text ++ path)) : site.IsCanonical := by
  rw [site.canonical_append (Or.inr hpath), Url.fullPath_eq hpath, Url.barePath_eq_self hkept] at h
  unfold IsCanonical
  cases hfront : site.front? with
  | error e => rw [hfront] at h; cases h
  | ok front =>
      rw [hfront] at h
      rw [List.append_cancel_right (Except.ok.inj h)]

/-- Behind a canonical site a path is canonical when it is kept as it is. -/
theorem IsCanonical.canonical_append (h : site.IsCanonical) {path : Text}
    (hpath : path.head? = some '/') (hkept : ∀ c ∈ path, 0x20 < c.toNat ∧ c ≠ '#' ∧ c ≠ '?') :
    Url.canonical (site.text ++ path) = .ok (site.text ++ path) := by
  rw [site.canonical_append (Or.inr hpath), Url.fullPath_eq hpath, Url.barePath_eq_self hkept, h]
  rfl

theorem IsCanonical.check_eq (h : site.IsCanonical) : site.check = .ok () := by
  obtain ⟨_, hcheck, -⟩ := exists_of_bind_eq_ok h
  exact hcheck

/-- A port that is written as it has to be has at most five digits. -/
theorem IsCanonical.length_port_le (h : site.IsCanonical) : site.port.length ≤ 5 := by
  by_cases hport : site.port = []
  · rw [hport]
    exact Nat.zero_le _
  -- The port in the text of the site can only come from a port that has been read.
  obtain ⟨_, -, h⟩ := exists_of_bind_eq_ok h
  obtain ⟨port, hread, h⟩ := exists_of_bind_eq_ok h
  have htext : site.scheme ++ "://".toList ++ Url.hostText site.url.host ++
      Url.portText site.scheme port =
        site.scheme ++ "://".toList ++ (site.host.text ++ ':' :: site.port) := by
    have hpart : site.portPart = ':' :: site.port := if_neg hport
    rw [← hpart]
    exact Except.ok.inj h
  rw [List.append_assoc, List.append_cancel_left_eq] at htext
  obtain ⟨d, hd, hlast⟩ : ∃ d, d.isDigit = true ∧
      (site.host.text ++ ':' :: site.port).getLast? = some d := by
    refine ⟨site.port.getLast hport, site.isDigit_of_mem_port _ (List.getLast_mem hport), ?_⟩
    rw [List.getLast?_append, List.getLast?_cons, List.getLast?_eq_some_getLast hport]
    rfl
  rcases Url.portText_eq site.scheme port with hnone | ⟨n, rfl, -, hsome⟩
  · rw [hnone, List.append_nil] at htext
    exfalso
    unfold Url.hostText at htext
    split at htext
    · rw [← htext, List.getLast?_concat] at hlast
      rw [← Option.some.inj hlast] at hd
      exact absurd hd (by decide)
    · next hcolon =>
        rw [htext] at hcolon
        simp at hcolon
  · have hdigits : (toString n).toList = site.port := by
      have hnot : ':' ∉ (toString n).toList :=
        fun hmem => absurd (Text.isDigit_of_mem_toString hmem) (by decide)
      rw [hsome] at htext
      have hreverse := congrArg List.reverse htext
      simp only [List.reverse_append, List.reverse_cons, List.append_assoc, List.singleton_append]
        at hreverse
      obtain ⟨hsame, -⟩ := Text.append_inj_of_not_mem (by simpa using hnot)
        (by simpa using site.colon_not_mem_port) (Or.inr rfl) (Or.inr rfl) hreverse
      exact List.reverse_inj.mp hsame
    have hn := Url.le_of_port?_eq_some hread
    rw [← hdigits]
    exact Text.length_toString_le hn

end Site

end RouteMask
