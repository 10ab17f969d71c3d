import RouteMask.Proofs.Request.Expansion
import RouteMask.Proofs.Request.Query
import RouteMask.Proofs.Url.Canonical

/-! # Ports that need not be written

A URL is the same request with and without the port of its scheme (`Origin.sameRequest_withoutPort`).
For a mask it makes a difference: it is taken as it is, and the canonical form of a URL with an origin
never has the port.  So a mask that writes it matches no such URL, and with and without it a mask gives
the same outcome exactly where neither matches (`Mask.outcome_withoutPort`). -/

namespace RouteMask

namespace Origin

variable {o : Origin}

theorem isDigit_of_mem_nil : ∀ c ∈ ([] : Text), c.isDigit = true :=
  List.forall_mem_nil _

/-- The same scheme and host, and no port. -/
def withoutPort (o : Origin) : Origin :=
  { o with port := [], isDigit_of_mem_port := isDigit_of_mem_nil }

/-- The port is there and is the scheme's own. -/
def WritesSchemePort (o : Origin) : Prop :=
  ∃ n, Url.schemePort? o.scheme = some n ∧ o.port = (toString n).toList

/-- A text begins with an origin, in any case, which ends where the text does or at a delimiter. -/
def Begins (o : Origin) (url : Text) : Prop :=
  ∃ front rest, url = front ++ rest ∧ SameFold o.text front ∧
    ∀ c ∈ rest.head?, c ∈ Template.usualDelimiter

/-- The ports that need not be written are ports. -/
theorem le_of_schemePort? {scheme : Text} {n : Nat} (h : Url.schemePort? scheme = some n) :
    n ≤ 65535 := by
  unfold Url.schemePort? at h
  obtain ⟨before, behind, htable, -⟩ := List.lookup_eq_some_iff.mp h
  have hports : ∀ p ∈ [("http".toList, 80), ("https".toList, 443), ("ws".toList, 80),
      ("wss".toList, 443), ("ftp".toList, 21)], p.2 ≤ 65535 := by decide
  exact hports (scheme, n) (htable ▸ by simp)

theorem WritesSchemePort.port_ne_nil (h : o.WritesSchemePort) : o.port ≠ [] := by
  obtain ⟨n, -, hport⟩ := h
  rw [hport]
  exact Text.toString_ne_nil n

theorem WritesSchemePort.length_port_le (h : o.WritesSchemePort) : o.port.length ≤ 5 := by
  obtain ⟨n, hn, hport⟩ := h
  rw [hport]
  exact Text.length_toString_le (le_of_schemePort? hn)

/-! ### Requests -/

theorem port?_url_withoutPort (o : Origin) : o.withoutPort.url.port? = .ok none := by
  have hparts : Url.hostAndPort o.withoutPort.url.authority = (o.host, []) :=
    o.withoutPort.site.hostAndPort_authority
  unfold Url.port?
  rw [hparts]
  rfl

theorem WritesSchemePort.port?_url (h : o.WritesSchemePort) :
    ∃ n, Url.schemePort? o.scheme = some n ∧ o.url.port? = .ok (some n) := by
  obtain ⟨n, hn, hport⟩ := h
  have hdigits : (Url.hostAndPort o.url.authority).2 = (toString n).toList :=
    (congrArg Prod.snd o.site.hostAndPort_authority).trans hport
  refine ⟨n, hn, Url.port?_of_written hdigits fun m hm => ?_⟩
  rw [← Option.some.inj hm]
  exact le_of_schemePort? hn

/-- A canonical form leaves out the port of the scheme. -/
theorem WritesSchemePort.canonical_append (h : o.WritesSchemePort) {rest : Text}
    (hrest : ∀ c ∈ rest.head?, Url.endsAuthority c = true) :
    Url.canonical (o.text ++ rest) = Url.canonical (o.withoutPort.text ++ rest) := by
  have hpath : ∀ path : Text, path = [] ∨ path.head? = some '/' →
      Url.canonical (o.text ++ path) = Url.canonical (o.withoutPort.text ++ path) := by
    intro path hpath
    obtain ⟨n, hn, hport⟩ := h.port?_url
    have hleft : Url.portText o.scheme (some n) = [] := if_pos hn
    rw [o.canonical_append hpath, o.withoutPort.canonical_append hpath, hport,
      port?_url_withoutPort]
    dsimp only [Except.map]
    rw [hleft]
    rfl
  have hbare := hpath [] (Or.inl rfl)
  rw [List.append_nil, List.append_nil] at hbare
  cases rest with
  | nil => exact hpath [] (Or.inl rfl)
  | cons c rest =>
      rcases Url.endsAuthority_iff.mp (hrest c rfl) with rfl | hmark
      · exact hpath _ (Or.inr rfl)
      · rw [Url.canonical_append_mark hmark, Url.canonical_append_mark hmark, hbare]

/-- In the URL of a request the port of the scheme makes no difference. -/
theorem sameRequest_withoutPort (h : o.WritesSchemePort) {rest : Text}
    (hrest : ∀ c ∈ rest.head?, Url.endsAuthority c = true) :
    SameRequest (o.text ++ rest) (o.withoutPort.text ++ rest) :=
  .of_canonical_eq (h.canonical_append hrest)

/-! ### What begins with an origin -/

theorem text_eq_append (h : o.port ≠ []) : o.text = o.withoutPort.text ++ ':' :: o.port := by
  have hwith : o.portPart = ':' :: o.port := if_neg h
  have hwithout : o.withoutPort.portPart = [] := rfl
  unfold text authority
  rw [hwith, hwithout]
  simp [withoutPort]

/-- A port has no letters, so it stands for itself only. -/
theorem eq_of_sameFold_port {s : Text} (h : SameFold (':' :: o.port) s) : s = ':' :: o.port := by
  refine h.eq_of_lt fun c hc => ?_
  rcases List.mem_cons.mp hc with rfl | hc
  · decide
  · have := o.range_of_mem_port hc
    omega

/-- A text that is an origin but for case is a scheme, a host and the port. -/
theorem exists_of_sameFold_text (h : o.port ≠ []) {s : Text} (hs : SameFold o.text s) :
    ∃ scheme host, s = scheme ++ "://".toList ++ (host ++ ':' :: o.port) ∧
      SameFold o.scheme scheme ∧ SameFold o.host host := by
  have hpart : o.portPart = ':' :: o.port := if_neg h
  rw [text, authority, hpart, SameFold.append_iff] at hs
  obtain ⟨front, behind, rfl, hfront, hbehind⟩ := hs
  obtain ⟨scheme, marks, rfl, hscheme, hmarks⟩ := SameFold.append_iff.mp hfront
  obtain ⟨host, port, rfl, hhost, hport⟩ := SameFold.append_iff.mp hbehind
  obtain rfl := hmarks.eq_of_lt (by decide)
  obtain rfl := eq_of_sameFold_port hport
  exact ⟨scheme, host, rfl, hscheme, hhost⟩

/-- No text begins with an origin both with a port and without one. -/
theorem Begins.not_withoutPort (h : o.port ≠ []) {url : Text} (hwith : o.Begins url) :
    ¬ o.withoutPort.Begins url := by
  obtain ⟨front, rest, rfl, hfront, -⟩ := hwith
  rintro ⟨front', rest', hurl, hfront', hdelimiter⟩
  rw [text_eq_append h, SameFold.append_iff] at hfront
  obtain ⟨a, b, rfl, ha, hb⟩ := hfront
  rw [eq_of_sameFold_port hb, List.append_assoc] at hurl
  have hlength : a.length = front'.length := ha.length_eq.symm.trans hfront'.length_eq
  obtain ⟨-, rfl⟩ := List.append_inj hurl hlength
  exact absurd (hdelimiter ':' rfl) (by decide)

/-- But for case, a host is a host still. -/
theorem ne_of_sameFold_host {host : Text} (h : SameFold o.host host) :
    host ≠ [] ∧ ∀ c ∈ host, c ≠ ':' ∧ c ≠ '/' ∧ c ≠ '[' := by
  have hrange : ∀ c ∈ o.host, _ := fun c hc => isHostLetter_iff.mp (o.isHostLetter_of_mem_host c hc)
  have hnot : ∀ d ∈ o.host, d ≠ ':' ∧ d ≠ '/' := by
    intro d hd
    have := hrange d hd
    simp only [ne_eq, Text.eq_iff_toNat, Char.reduceToNat]
    omega
  refine ⟨?_, fun c hc => ⟨?_, ?_, ?_⟩⟩
  · rintro rfl
    cases hhost : o.host with
    | nil => exact o.host_ne_nil hhost
    | cons c s =>
        rw [hhost] at h
        cases h
  · rintro rfl
    exact h.not_mem_of_lt (by decide) (fun hmem => (hnot _ hmem).1 rfl) hc
  · rintro rfl
    exact h.not_mem_of_lt (by decide) (fun hmem => (hnot _ hmem).2 rfl) hc
  · rintro rfl
    obtain ⟨d, hd, horbit⟩ := h.exists_of_mem hc
    have hletter := hrange d hd
    by_cases hlower : 0x61 ≤ d.toNat ∧ d.toNat ≤ 0x7A
    · have := Unicode.of_mem_orbit_lower hlower horbit
      simp only [Char.reduceToNat] at this
      omega
    · have := Unicode.eq_of_mem_orbit horbit (Or.inl (by omega))
      simp only [Char.reduceToNat] at this
      omega

/-- But for case, a scheme in lower case is the scheme. -/
theorem eq_of_sameFold_scheme {scheme : Text} (h : SameFold o.scheme scheme)
    (hlower : ∀ c ∈ scheme, c.toNat < 0x80 ∧ ¬ (0x41 ≤ c.toNat ∧ c.toNat ≤ 0x5A)) :
    scheme = o.scheme := by
  refine eq_of_sameFold h fun c hc d hd horbit => ?_
  have hletter := Unicode.of_mem_orbit_lower (o.range_of_mem_scheme hc) horbit
  have hascii := hlower d hd
  exact Char.toNat_inj.mp (by omega)

/-- A canonical form with an origin does not begin with one that writes the port of its scheme. -/
theorem WritesSchemePort.not_begins (h : o.WritesSchemePort) {s url : Text}
    (horigin : Url.HasOrigin s) (hurl : Url.canonical s = .ok url) : ¬ o.Begins url := by
  rintro ⟨front, rest, rfl, hfront, hrest⟩
  obtain ⟨scheme, host, rfl, hscheme, hhost⟩ := exists_of_sameFold_text h.port_ne_nil hfront
  have hcolon : ':' ∉ scheme := hscheme.not_mem_of_lt (by decide) o.site.colon_not_mem_scheme
  have hdelimiters : ∀ c ∈ Template.usualDelimiter, c.isDigit = false := by decide
  obtain ⟨hlower, n, hport, hne⟩ := horigin.schemePort?_ne hurl hcolon (ne_of_sameFold_host hhost)
    o.isDigit_of_mem_port fun c hc => hdelimiters c (hrest c hc)
  obtain ⟨m, hm, hwritten⟩ := h
  rw [hport] at hwritten
  rw [eq_of_sameFold_scheme hscheme hlower, Text.toList_toString_injective hwritten] at hne
  exact hne hm

end Origin

/-! ### Masks -/

namespace Mask

/-- The mask that is an origin and a path. -/
def ofOrigin (o : Origin) (segments : List PathSegment) : Mask :=
  .text (o.text ++ PathSegment.path (segments.map PathSegment.inMask))

/-- The URL matches the mask. -/
def Matches (base : Option Text) (mask : Mask) (url : Text) : Prop :=
  ∃ params, mask.outcome base url = .ok ⟨true, params⟩

section

variable {base : Option Text} {mask : Mask} {m : Matcher} {url : Text}

theorem outcome_of_matcher (hm : mask.matcher base = .ok m) (url : Text) :
    mask.outcome base url = m.outcome url := by
  rw [outcome, hm]
  rfl

/-- A URL that matches has a canonical form that the matcher accepts. -/
theorem Matches.exists_apply (hm : mask.matcher base = .ok m) (h : mask.Matches base url) :
    ∃ form params, Url.canonical url = .ok form ∧ m.apply form = .ok (some params) := by
  obtain ⟨params, h⟩ := h
  rw [outcome_of_matcher hm] at h
  obtain ⟨form, hform, h⟩ := exists_of_bind_eq_ok h
  obtain ⟨answer, hanswer, h⟩ := exists_of_bind_eq_ok h
  cases answer with
  | none => cases h
  | some found => exact ⟨form, found, eq_ok_of_mapError hform, hanswer⟩

/-- The outcome for a URL that does not match: the fault of the URL, if it has one. -/
theorem outcome_of_not_matches (hm : mask.matcher base = .ok m)
    (hok : ∀ form e, m.apply form ≠ .error e) (h : ¬ mask.Matches base url) :
    mask.outcome base url =
      ((Url.canonical url).mapError MatchError.url).map fun _ => Outcome.refused := by
  rw [Matches, outcome_of_matcher hm] at h
  rw [outcome_of_matcher hm]
  unfold Matcher.outcome at h ⊢
  cases hform : Url.canonical url with
  | error e => rfl
  | ok form =>
      rw [hform] at h
      dsimp only [Except.mapError, bind, Except.bind] at h ⊢
      cases hanswer : m.apply form with
      | error e => exact absurd hanswer (hok form e)
      | ok answer =>
          rw [hanswer] at h
          cases answer with
          | none => rfl
          | some params => exact absurd ⟨params, rfl⟩ h

/-- Where the URL has a canonical form there is an outcome. -/
theorem exists_outcome (hm : mask.matcher base = .ok m) (hok : ∀ form e, m.apply form ≠ .error e)
    {form : Text} (hform : Url.canonical url = .ok form) : ∃ x, mask.outcome base url = .ok x := by
  rw [outcome_of_matcher hm]
  unfold Matcher.outcome
  rw [hform]
  dsimp only [Except.mapError, bind, Except.bind]
  cases hanswer : m.apply form with
  | error e => exact absurd hanswer (hok form e)
  | ok answer => exact ⟨_, rfl⟩

end

variable {o : Origin} {segments : List PathSegment}

/-- A mask that is an origin and a path can be compiled, and its matcher accepts nothing that does not
begin with the origin. -/
theorem exists_matcher_ofOrigin (hlen : o.port.length ≤ 5) (hvalid : ∀ s ∈ segments, s.IsValid)
    (base : Option Text) :
    ∃ m, (ofOrigin o segments).matcher base = .ok m ∧ (∀ url e, m.apply url ≠ .error e) ∧
      ∀ url params, m.apply url = .ok (some params) → o.Begins url := by
  have hmarks : ∀ c ∈ Item.texts (segments.flatMap PathSegment.items),
      c ≠ '?' ∧ c ≠ '#' ∧ c ≠ '*' := by
    intro c hc
    rw [PathSegment.texts_items] at hc
    exact PathSegment.mem_path_inMask hvalid hc
  have hstructure :
      Skeleton.isPath (Item.texts (segments.flatMap PathSegment.items)) = true := by
    rw [PathSegment.texts_items]
    exact PathSegment.isPath_inMask hvalid
  obtain ⟨m, hm, hpattern, hkeys, -⟩ := exists_matcher (o := o)
    (PathSegment.arePlain_items hvalid) hlen hmarks hstructure base
  rw [PathSegment.texts_items] at hm
  have hp := Item.isPlain_parts [] (o.items ++ segments.flatMap PathSegment.items)
  have hgroups : m.keys.length = m.pattern.groups := by
    rw [hpattern.groups, hkeys, Item.keys_parts]
  have happly := Matcher.apply_of_recognises (hpattern.recognises hp) hgroups
  refine ⟨m, hm, fun url => (happly url).2.2, fun url params hfound => ?_⟩
  obtain ⟨taken, ⟨body, hfits, hurl⟩, -⟩ := (happly url).2.1 params hfound
  rw [Item.parts_append id o.names_items, Item.fits_parts_iff, o.fill_items] at hfits
  obtain ⟨front, rest, rfl, hfront, hrest⟩ := hfits
  have hbehind : ∀ c ∈ rest.head?, c ∈ Template.usualDelimiter := by
    intro c hc
    rcases Item.fits_behind_slot PathSegment.head?_texts_items hrest with rfl | hslash
    · cases hc
    · rw [hslash] at hc
      rw [← Option.some.inj hc]
      decide
  rcases hurl with rfl | ⟨d, hd, rfl⟩
  · exact ⟨front, rest, rfl, hfront, hbehind⟩
  · refine ⟨front, rest ++ [d], by simp, hfront, fun c hc => ?_⟩
    cases rest with
    | nil =>
        rw [← Option.some.inj hc]
        exact hd
    | cons first rest => exact hbehind c hc

/-- A URL without an origin can look like one. -/
example : Mask.outcome none (.text "http://a:80/x".toList) "x:http://a:80/x".toList =
    .ok ⟨true, []⟩ := by
  decide +kernel

end Mask

end RouteMask
