import RouteMask.Proofs.Url.Reference

/-! # Masks inside an origin

A relative mask that is resolved against a web page should become a place in the page's origin.  It does,
unless it begins with a scheme that is not the page's; then it is left alone
(`MaskText.isInside_absolute_iff`).  A word in front of a parameter is such a scheme. -/

namespace RouteMask

open Percent MaskText

/-- The URL is the origin and something behind it that begins with a mark by which an origin ends. -/
def IsInside (origin url : Text) : Prop :=
  ∃ rest, url = origin ++ rest ∧ ∀ c ∈ rest.head?, Url.endsAuthority c = true

/-- The URL of a web page.  Its authority can be read, and holds no escapes. -/
structure PageUrl where
  scheme : Text
  authority : Text
  /-- The path, the query and the fragment. -/
  rest : Text
  isWeb : scheme = "http".toList ∨ scheme = "https".toList
  authority_ne_nil : authority ≠ []
  isAuthority : Url.IsAuthority authority
  check_eq : Url.checkAuthority authority = .ok ()
  percent_not_mem : '%' ∉ authority
  endsAuthority_of_mem_head? : ∀ c ∈ rest.head?, Url.endsAuthority c = true

namespace PageUrl

variable (page : PageUrl)

/-- The scheme and the authority. -/
def origin : Text :=
  page.scheme ++ "://".toList ++ page.authority

/-- The whole URL. -/
def text : Text :=
  page.origin ++ page.rest

theorem isScheme : Url.IsScheme page.scheme :=
  Url.isScheme_of_web page.isWeb

theorem percent_not_mem_origin : '%' ∉ page.origin := by
  have hscheme : '%' ∉ page.scheme :=
    fun h => absurd (page.isScheme.isSchemeChar_of_mem '%' h) (by decide)
  simp [origin, hscheme, page.percent_not_mem]

theorem text_ne_nil : page.text ≠ [] := by
  simp [text, origin]

theorem exists_parse_text :
    ∃ u, Url.parse [] page.text = .ok u ∧ u.scheme = page.scheme ∧ u.authority = page.authority := by
  have hparse := Url.parse_written [] page.isScheme page.isAuthority page.endsAuthority_of_mem_head?
  rw [page.check_eq, Url.map_toLower_of_web page.isWeb] at hparse
  exact ⟨_, hparse, rfl, rfl⟩

end PageUrl

/-! ### Places in an origin -/

/-- Decoding does not lead out of an origin without escapes. -/
theorem IsInside.decodeUnreserved {origin url : Text} (horigin : '%' ∉ origin)
    (h : IsInside origin url) : IsInside origin (decodeUnreserved url) := by
  obtain ⟨rest, rfl, hrest⟩ := h
  refine ⟨Percent.decodeUnreserved rest, decodeExcept_append horigin rest, ?_⟩
  cases rest with
  | nil => exact fun c hc => nomatch hc
  | cons d rest =>
      have hd := hrest d rfl
      have hplain : '%' ∉ [d] := by
        rw [List.mem_singleton]
        rintro rfl
        exact absurd hd (by decide)
      have hdecode : Percent.decodeUnreserved (d :: rest) = d :: Percent.decodeUnreserved rest :=
        decodeExcept_append hplain rest
      rw [hdecode]
      intro c hc
      exact Option.some.inj hc ▸ hd

theorem isInside_render (page : PageUrl) (path query fragment : Text) :
    IsInside page.origin (Url.render ⟨page.scheme, page.authority, path, query, fragment⟩) := by
  refine ⟨_, Url.render_eq page.isScheme.ne_nil page.authority_ne_nil path query fragment, ?_⟩
  -- The first part that is not empty begins with its mark.
  by_cases hpath : path = []
  · subst hpath
    cases query with
    | cons d query => exact fun c hc => Option.some.inj hc ▸ rfl
    | nil =>
        cases fragment with
        | cons d fragment => exact fun c hc => Option.some.inj hc ▸ rfl
        | nil => exact fun c hc => nomatch hc
  · obtain ⟨more, hmore⟩ := List.head?_eq_some_iff.mp (Url.head?_atRoot hpath)
    rw [hmore]
    exact fun c hc => Option.some.inj hc ▸ rfl

theorem isAbsolute_of_isInside {page : PageUrl} {url : Text} (h : IsInside page.origin url) :
    isAbsolute url = true := by
  obtain ⟨rest, rfl, -⟩ := h
  rw [PageUrl.origin, List.append_assoc]
  exact isAbsolute_of_isScheme page.isScheme _

namespace MaskText

/-- A relative mask becomes a place in the origin of its base exactly when it does not begin with another
scheme.  If it does, it stays as it is. -/
theorem isInside_absolute_iff (page : PageUrl) {mask : Text} (hmask : IsRelative mask) :
    ∃ url, absolute mask (some page.text) = .ok url ∧
      (IsInside page.origin url ↔ ¬HasForeignScheme page.scheme mask) ∧
      (HasForeignScheme page.scheme mask → url = mask) := by
  have hdecode : ∀ url, IsInside page.origin url → IsInside page.origin (decodeUnreserved url) :=
    fun url => IsInside.decodeUnreserved page.percent_not_mem_origin
  rw [hmask.absolute_eq page.text_ne_nil]
  by_cases hnil : mask = []
  · have hresolve : Url.resolve page.text (encode resolvable mask) = .ok page.text := by
      rw [hnil, Url.resolve, if_neg (by simpa using page.text_ne_nil)]
      rfl
    have hforeign : ¬HasForeignScheme page.scheme mask := by
      rintro ⟨name, rest, hs, -⟩
      rw [hnil] at hs
      simp at hs
    have hinside : IsInside page.origin page.text :=
      ⟨page.rest, rfl, page.endsAuthority_of_mem_head?⟩
    rw [hresolve]
    exact ⟨_, rfl, iff_of_true (hdecode _ hinside) hforeign, fun h => absurd h hforeign⟩
  · obtain ⟨b, hb, hscheme, hauthority⟩ := page.exists_parse_text
    rcases Url.resolve_encode_cases hb (hscheme ▸ page.isWeb) page.text_ne_nil hnil hmask.1 with
      ⟨hforeign, hresolve⟩ | ⟨hforeign, path, query, fragment, hresolve⟩
    · rw [hscheme] at hforeign
      have hout : ¬IsInside page.origin mask := fun h => by
        have habsolute := isAbsolute_of_isInside h
        rw [hmask.1] at habsolute
        cases habsolute
      rw [hresolve, Except.map, decodeUnreserved_encode]
      exact ⟨_, rfl, iff_of_false hout (not_not.mpr hforeign), fun _ => rfl⟩
    · rw [hscheme] at hforeign
      rw [hscheme, hauthority] at hresolve
      rw [hresolve]
      exact ⟨_, rfl, iff_of_true (hdecode _ (isInside_render page path query fragment)) hforeign,
        fun h => absurd h hforeign⟩

/-- A parameter behind a word is not resolved, a parameter behind a slash is. -/
theorem isInside_absolute_iff_word :
    ∃ page : PageUrl, page.text = "https://api.com:8080/v1/?q".toList ∧
      page.origin = "https://api.com:8080".toList ∧
      (IsRelative "user:id".toList ∧ HasForeignScheme page.scheme "user:id".toList ∧
        absolute "user:id".toList (some page.text) = .ok "user:id".toList ∧
        ¬IsInside page.origin "user:id".toList) ∧
      IsRelative "../user/:id".toList ∧ ¬HasForeignScheme page.scheme "../user/:id".toList ∧
        absolute "../user/:id".toList (some page.text) =
          .ok "https://api.com:8080/user/:id".toList ∧
        IsInside page.origin "https://api.com:8080/user/:id".toList := by
  let page : PageUrl := ⟨"https".toList, "api.com:8080".toList, "/v1/?q".toList, .inr rfl, by decide,
    by decide, rfl, by decide, fun c hc => Option.some.inj hc ▸ rfl⟩
  have hword : IsRelative "user:id".toList := by decide
  have hslash : IsRelative "../user/:id".toList := by decide
  have hforeign : HasForeignScheme page.scheme "user:id".toList :=
    ⟨"user".toList, "id".toList, rfl, ⟨⟨'u', rfl, rfl⟩, by decide⟩, by decide⟩
  have hown : ¬HasForeignScheme page.scheme "../user/:id".toList := by
    rw [hasForeignScheme_iff]
    rintro ⟨other, rest, hsplit, -⟩
    revert hsplit
    have hnone : Url.splitScheme? "../user/:id".toList = none := by decide
    rw [hnone]
    exact fun h => nomatch h
  obtain ⟨url, hurl, hinside, hself⟩ := isInside_absolute_iff page hword
  obtain ⟨url', hurl', hinside', -⟩ := isInside_absolute_iff page hslash
  obtain rfl := hself hforeign
  have hplace : absolute "../user/:id".toList (some "https://api.com:8080/v1/?q".toList) =
      .ok "https://api.com:8080/user/:id".toList := rfl
  obtain rfl := Except.ok.inj (hurl'.symm.trans hplace)
  exact ⟨page, rfl, rfl, ⟨hword, hforeign, hurl, fun h => hinside.mp h hforeign⟩, hslash, hown, hurl',
    hinside'.mpr hown⟩

end MaskText

end RouteMask
