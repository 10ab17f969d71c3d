import RouteMask.Proofs.Text.Lower
import RouteMask.Proofs.Url.Site

/-! # Canonical origins

An origin is the site of a URL in which nothing is wrong (`Origin.check_site`).  So the canonical form of
a URL that is an origin and a path has the same scheme and host, and it is the URL itself exactly when
the port is written as it has to be and the path holds no mark of a query or a fragment
(`Origin.canonical_append`). -/

namespace RouteMask

/-- Whether a character may stand in the host of an origin. -/
def isHostLetter (c : Char) : Bool :=
  c.isLower || c.isDigit || c == '.' || c == '-'

/-- A scheme, a host and a port, which is empty when there is none. -/
structure Origin where
  scheme : Text
  host : Text
  port : Text
  scheme_ne_nil : scheme ≠ []
  isLower_of_mem_scheme : ∀ c ∈ scheme, c.isLower = true
  host_ne_nil : host ≠ []
  isHostLetter_of_mem_host : ∀ c ∈ host, isHostLetter c = true
  isDigit_of_mem_port : ∀ c ∈ port, c.isDigit = true

namespace Origin

/-- The port behind its colon. -/
def portPart (o : Origin) : Text :=
  if o.port = [] then [] else ':' :: o.port

/-- The host and the port. -/
def authority (o : Origin) : Text :=
  o.host ++ o.portPart

/-- The text of an origin. -/
def text (o : Origin) : Text :=
  o.scheme ++ "://".toList ++ o.authority

/-- The origin is written in the canonical way. -/
def IsCanonical (o : Origin) : Prop :=
  Url.canonical (o.text ++ ['/']) = .ok (o.text ++ ['/'])

/-! ### Characters of an origin -/

theorem isHostLetter_iff {c : Char} :
    isHostLetter c = true ↔
      0x61 ≤ c.toNat ∧ c.toNat ≤ 0x7A ∨ 0x30 ≤ c.toNat ∧ c.toNat ≤ 0x39 ∨
        c.toNat = 0x2E ∨ c.toNat = 0x2D := by
  simp only [isHostLetter, Bool.or_eq_true, beq_iff_eq, Text.isLower_iff, Text.isDigit_iff,
    Text.eq_iff_toNat, Char.reduceToNat]
  omega

variable (o : Origin)

theorem range_of_mem_scheme {c : Char} (h : c ∈ o.scheme) : 0x61 ≤ c.toNat ∧ c.toNat ≤ 0x7A :=
  Text.isLower_iff.mp (o.isLower_of_mem_scheme c h)

theorem range_of_mem_port {c : Char} (h : c ∈ o.port) : 0x30 ≤ c.toNat ∧ c.toNat ≤ 0x39 :=
  Text.isDigit_iff.mp (o.isDigit_of_mem_port c h)

theorem range_of_mem_portPart {c : Char} (h : c ∈ o.portPart) :
    0x30 ≤ c.toNat ∧ c.toNat ≤ 0x3A := by
  unfold portPart at h
  split at h
  · cases h
  · rcases List.mem_cons.mp h with rfl | h
    · decide
    · have := o.range_of_mem_port h
      omega

theorem range_of_mem_authority {c : Char} (h : c ∈ o.authority) :
    0x2D ≤ c.toNat ∧ c.toNat ≤ 0x7A ∧ c.toNat ≠ 0x2F ∧ (c.toNat ≤ 0x3A ∨ 0x61 ≤ c.toNat) := by
  rcases List.mem_append.mp h with h | h
  · have := isHostLetter_iff.mp (o.isHostLetter_of_mem_host c h)
    omega
  · have := o.range_of_mem_portPart h
    omega

theorem range_of_mem_text {c : Char} (h : c ∈ o.text) :
    0x2D ≤ c.toNat ∧ c.toNat ≤ 0x7A ∧ (c.toNat ≤ 0x3A ∨ 0x61 ≤ c.toNat) := by
  rcases List.mem_append.mp h with h | h
  · rcases List.mem_append.mp h with h | h
    · have := o.range_of_mem_scheme h
      omega
    · have hmarks : ∀ d ∈ "://".toList, 0x2D ≤ d.toNat ∧ d.toNat ≤ 0x3A := by decide
      have := hmarks c h
      omega
  · have := o.range_of_mem_authority h
    omega

/-! ### Splitting -/

/-- An origin is a site whose host is a name. -/
def site : Site where
  scheme := o.scheme
  host := .plain o.host
  port := o.port
  scheme_ne_nil := o.scheme_ne_nil
  isLower_of_mem_scheme := o.isLower_of_mem_scheme
  host_isSimple := by
    refine ⟨o.host_ne_nil, fun c hc => ?_⟩
    have hrange := isHostLetter_iff.mp (o.isHostLetter_of_mem_host c hc)
    refine ⟨Skeleton.isHostChar_of_range (by omega) (by omega) (by omega), fun hmark => ?_⟩
    have hmarks : ∀ d ∈ HostMask.marks, ¬ (0x61 ≤ d.toNat ∧ d.toNat ≤ 0x7A ∨
        0x30 ≤ d.toNat ∧ d.toNat ≤ 0x39 ∨ d.toNat = 0x2E ∨ d.toNat = 0x2D) := by decide
    exact hmarks c hmark hrange
  isDigit_of_mem_port := o.isDigit_of_mem_port

theorem checkBrackets_authority : Url.checkBrackets o.authority = .ok () := by
  have hopen : o.authority.contains '[' = false := by
    rw [Bool.eq_false_iff, ne_eq, List.contains_iff_mem]
    intro h
    have := (o.range_of_mem_authority h).2.2.2
    revert this
    decide
  have hclose : o.authority.contains ']' = false := by
    rw [Bool.eq_false_iff, ne_eq, List.contains_iff_mem]
    intro h
    have := (o.range_of_mem_authority h).2.2.2
    revert this
    decide
  rw [Url.checkBrackets, hopen, hclose]
  rfl

theorem checkHidden_authority : Url.checkHidden o.authority = .ok () := by
  have hhides : o.authority.any Unicode.hidesDelimiter = false := by
    refine List.any_eq_false.mpr fun c hc => ?_
    have := o.range_of_mem_authority hc
    rw [Unicode.hidesDelimiter_ascii (by omega)]
    exact Bool.false_ne_true
  rw [Url.checkHidden, hhides]
  rfl

theorem check_site : o.site.check = .ok () := by
  have hbrackets : Url.checkBrackets o.site.authority = .ok () := o.checkBrackets_authority
  have hhidden : Url.checkHidden o.site.authority = .ok () := o.checkHidden_authority
  rw [Site.check, hbrackets, hhidden]
  rfl

/-! ### Host and port -/

theorem lower_eq_self {host : Text} (h : ∀ c ∈ host, isHostLetter c = true) :
    Text.lower host = host := by
  have happly : ∀ c, isHostLetter c = true → Unicode.lowerMap.apply c = [c] := by
    intro c hc
    have hrange := isHostLetter_iff.mp hc
    have hruns : ∀ r ∈ Unicode.lowerMap.runs, 0x41 ≤ r.first ∧ (r.last ≤ 0x5A ∨ 0x80 ≤ r.first) := by
      decide +kernel
    have hexpansions : ∀ e ∈ Unicode.lowerMap.expansions, 0x80 ≤ e.1 := by decide +kernel
    have himage : Unicode.lowerMap.runs.findSome? (·.image? c.toNat) = none := by
      refine List.findSome?_eq_none_iff.mpr fun r hr => if_neg ?_
      have := hruns r hr
      omega
    have hlookup : Unicode.lowerMap.expansions.lookup c.toNat = none := by
      refine List.lookup_eq_none_iff.mpr fun e he => ?_
      have := hexpansions e he
      rw [bne_iff_ne]
      omega
    rw [Unicode.CaseMap.apply, himage, hlookup]
  exact Text.lowerFrom_eq_self (fun c hc => happly c (h c hc)) false

/-- The parts of the URL of an origin. -/
def url : Url :=
  o.site.url

theorem hostText_url : Url.hostText o.url.host = o.host := by
  have hpercent : ∀ c ∈ o.host, (c != '%') = true := by
    intro c hc
    have := isHostLetter_iff.mp (o.isHostLetter_of_mem_host c hc)
    simp only [bne_iff_ne, ne_eq, Text.eq_iff_toNat, Char.reduceToNat]
    omega
  have hhost : o.url.host = o.host := by
    have hparts : Url.hostAndPort o.url.authority = (o.host, o.port) := o.site.hostAndPort_authority
    unfold Url.host
    rw [hparts]
    dsimp only
    rw [← List.append_nil o.host, List.takeWhile_append_of_pos hpercent,
      List.dropWhile_append_of_pos hpercent]
    simp [lower_eq_self o.isHostLetter_of_mem_host]
  rw [hhost]
  refine if_neg ?_
  rw [List.contains_iff_mem]
  intro h
  have := isHostLetter_iff.mp (o.isHostLetter_of_mem_host _ h)
  revert this
  decide

theorem canonical_append {path : Text} (hpath : path = [] ∨ path.head? = some '/') :
    Url.canonical (o.text ++ path) = o.url.port?.map fun port =>
      o.scheme ++ "://".toList ++ o.host ++ Url.portText o.scheme port ++ Url.fullPath path := by
  have hcanonical := o.site.canonical_append hpath
  have hfront : o.site.front? = o.url.port?.map fun port =>
      o.scheme ++ "://".toList ++ o.host ++ Url.portText o.scheme port := by
    have hhost : Url.hostText o.site.url.host = o.host := o.hostText_url
    unfold Site.front?
    rw [check_site, hhost]
    dsimp only [bind, Except.bind]
    rw [url]
    cases o.site.url.port? <;> rfl
  rw [hfront] at hcanonical
  refine hcanonical.trans ?_
  cases o.url.port? <;> rfl

/-! ### Canonical origins -/

theorem slash_not_mem_portPart : '/' ∉ o.portPart := by
  intro h
  have := o.range_of_mem_portPart h
  revert this
  decide

theorem slash_not_mem_portText (scheme : Text) (port : Option Nat) :
    '/' ∉ Url.portText scheme port := by
  intro h
  exact absurd (Url.range_of_mem_portText h) (by decide)

/-- A URL is its own canonical form when its port is written as it has to be and its path is kept. -/
theorem canonical_eq_self_iff {path : Text} (hpath : path.head? = some '/') :
    Url.canonical (o.text ++ path) = .ok (o.text ++ path) ↔
      (∃ port, o.url.port? = .ok port ∧ Url.portText o.scheme port = o.portPart) ∧
        Url.barePath path = path := by
  have htext : o.text ++ path = o.scheme ++ "://".toList ++ o.host ++ (o.portPart ++ path) := by
    simp [text, authority]
  rw [o.canonical_append (Or.inr hpath), Url.fullPath_eq hpath, htext]
  cases hport : o.url.port? with
  | error e =>
      constructor
      · intro h
        cases h
      · rintro ⟨⟨port, h, -⟩, -⟩
        cases h
  | ok port =>
      rw [Except.map, Except.ok.injEq, List.append_assoc, List.append_cancel_left_eq]
      constructor
      · intro h
        obtain ⟨hsame, htail⟩ := Text.append_inj_of_not_mem (slash_not_mem_portText _ _)
          o.slash_not_mem_portPart (Or.inr (Url.head?_barePath hpath)) (Or.inr hpath) h
        exact ⟨⟨port, rfl, hsame⟩, htail⟩
      · rintro ⟨⟨port', h, hsame⟩, hpath⟩
        cases h
        rw [hsame, hpath]

variable {o}

theorem isCanonical_iff :
    o.IsCanonical ↔ ∃ port, o.url.port? = .ok port ∧ Url.portText o.scheme port = o.portPart := by
  unfold IsCanonical
  rw [o.canonical_eq_self_iff rfl]
  exact ⟨fun h => h.1, fun h => ⟨h, rfl⟩⟩

/-- Behind a canonical origin a path is canonical when it is kept as it is. -/
theorem IsCanonical.canonical_append (h : o.IsCanonical) {path : Text}
    (hpath : path = [] ∨ path.head? = some '/') :
    Url.canonical (o.text ++ path) = .ok (o.text ++ Url.fullPath path) := by
  obtain ⟨port, hport, hsame⟩ := isCanonical_iff.mp h
  rw [o.canonical_append hpath, hport, Except.map, hsame]
  simp [text, authority]

/-- A port that is written as it has to be has at most five digits. -/
theorem IsCanonical.length_port_le (h : o.IsCanonical) : o.port.length ≤ 5 := by
  have hkept : ∀ c ∈ ['/'], 0x20 < c.toNat ∧ c ≠ '#' ∧ c ≠ '?' := by decide
  have hsite : o.site.IsCanonical := Site.isCanonical_of_canonical_append rfl hkept h
  exact hsite.length_port_le

end Origin

end RouteMask
