import RouteMask.Proofs.Mask.Escaping
import RouteMask.Proofs.Mask.Glob
import RouteMask.Proofs.Request.Cached

/-! # Globs in a cache

A mask of characters and stars, which may stand behind an origin (`IsGlob`), becomes a template of
characters and wildcards: the colons of its origin are escaped and every longest run of stars is
replaced (`IsGlob.exists_template`).  So a cache that does not decode gives a matcher that takes the
mask as a glob (`MatcherCache.matcher_glob`). -/

namespace RouteMask

/-- A character that stands for itself in a mask, or a star. -/
def IsGlobChar (c : Char) : Prop :=
  c ∉ "\\:()\x7b\x7d+?#".toList ∧ Unicode.isBlank c = false

instance : DecidablePred IsGlobChar :=
  fun _ => inferInstanceAs (Decidable (_ ∧ _))

/-- Any characters and stars, or an origin and a path of such. -/
inductive IsGlob : Text → Prop where
  | bare {rest : Text} (hrest : ∀ c ∈ rest, IsGlobChar c) : IsGlob rest
  | behind {scheme host port path : Text} (hscheme : scheme ≠ [] ∧ ∀ c ∈ scheme, c.isAlpha = true)
      (hhost : host ≠ [] ∧ ∀ c ∈ host, isHostLetter c = true) (hport : port = [] ∨ IsPort port)
      (hpath : Skeleton.IsPlainPath path) (hchars : ∀ c ∈ path, IsGlobChar c) :
      IsGlob (scheme ++ "://".toList ++ host ++ port ++ path)

namespace Wildcard

/-- The text, apart from a delimiter at the end, is made from the mask with the values. -/
def Matches (mask : Text) (values : List Text) (url : Text) : Prop :=
  ∃ body, Fills mask values body ∧ (url = body ∨ ∃ d ∈ Template.usualDelimiter, url = body ++ [d])

/-! ### Expansion of paths -/

theorem expandFrom_append_slash (before : Context) (s t : Text) :
    expandFrom before (s ++ '/' :: t) = expandFrom before s ++ '/' :: expandFrom .open t := by
  induction s generalizing before with
  | nil => cases before <;> rfl
  | cons c s ih =>
      rw [List.cons_append, expandFrom, expandFrom]
      split
      · rw [ih, List.append_assoc]
      · rw [ih, List.cons_append]

/-- The segments of a path are expanded one by one. -/
theorem expandFrom_append_path (before : Context) (s : Text) (segments : List Text) :
    expandFrom before (s ++ PathSegment.path segments) =
      expandFrom before s ++ PathSegment.path (segments.map expand) := by
  induction segments generalizing before s with
  | nil => simp [PathSegment.path]
  | cons segment segments ih =>
      have hpath : PathSegment.path (segment :: segments) =
          '/' :: (segment ++ PathSegment.path segments) := rfl
      rw [hpath, expandFrom_append_slash, ih]
      rfl

theorem mem_of_mem_expandFrom {before : Context} {s : Text} {c : Char}
    (h : c ∈ expandFrom before s) : c ∈ s ∨ c ∈ anyText := by
  induction s generalizing before with
  | nil => cases h
  | cons d s ih =>
      rw [expandFrom] at h
      split at h
      · next hd =>
          rcases List.mem_append.mp h with h | h
          · have hstar : ∀ context : Context, ∀ x ∈ (star context).1, x = '*' ∨ x ∈ anyText := by
              intro context
              cases context <;> decide
            rcases hstar before c h with rfl | h
            · exact Or.inl (hd ▸ List.mem_cons_self)
            · exact Or.inr h
          · exact (ih h).imp_left (List.mem_cons_of_mem d)
      · rcases List.mem_cons.mp h with rfl | h
        · exact Or.inl List.mem_cons_self
        · exact (ih h).imp_left (List.mem_cons_of_mem d)

theorem expand_ne_nil {s : Text} (h : s ≠ []) : expand s ≠ [] := by
  obtain ⟨c, s, rfl⟩ := List.exists_cons_of_ne_nil h
  rw [expand, expandFrom]
  split
  · exact List.cons_ne_nil _ _
  · exact List.cons_ne_nil _ _

/-- In front of a path nothing changes how it is expanded. -/
theorem expand_append {front path : Text} (hfront : '*' ∉ front)
    (hpath : path = [] ∨ path.head? = some '/') : expand (front ++ path) = front ++ expand path := by
  have hexpand : expand (front ++ path) = expandFrom (contextOf []) (front ++ path) := rfl
  rw [hexpand, expandFrom_append hfront]
  rcases hpath with rfl | hpath
  · rfl
  · obtain ⟨rest, rfl⟩ := List.head?_eq_some_iff.mp hpath
    have hslash : expandFrom (contextOf ([] ++ front)) ('/' :: rest) =
        '/' :: expandFrom .open rest := by
      cases contextOf ([] ++ front) <;> rfl
    rw [hslash]
    rfl

end Wildcard

namespace Skeleton

/-- A path whose segments are expanded is a path again. -/
theorem IsPlainPath.isPath_expand {path : Text} (h : IsPlainPath path) :
    Skeleton.isPath (Wildcard.expand path) = true := by
  cases h with
  | slash => rfl
  | @segments segments hsegments =>
      have hexpand := Wildcard.expandFrom_append_path .open [] segments
      rw [List.nil_append] at hexpand
      have hpath : Wildcard.expand (PathSegment.path segments) =
          PathSegment.path (segments.map Wildcard.expand) := hexpand
      rw [hpath]
      refine PathSegment.isPath_path fun s hs => ?_
      obtain ⟨t, ht, rfl⟩ := List.mem_map.mp hs
      refine ⟨Wildcard.expand_ne_nil (hsegments t ht).1, fun c hc => ?_⟩
      rcases Wildcard.mem_of_mem_expandFrom hc with hc | hc
      · exact (hsegments t ht).2 c hc
      · have hany : ∀ d ∈ Wildcard.anyText, isSegmentChar d = true := by decide
        exact hany c hc

end Skeleton

/-! ### Templates of globs -/

/-- A character that can stand in the origin of a glob. -/
def IsFrontChar (c : Char) : Prop :=
  c ∉ "\\*+?({}#".toList

namespace IsGlob

theorem isFrontChar_of_mem {scheme host port : Text}
    (hscheme : ∀ c ∈ scheme, c.isAlpha = true) (hhost : ∀ c ∈ host, isHostLetter c = true)
    (hport : port = [] ∨ IsPort port) {c : Char}
    (hc : c ∈ scheme ++ "://".toList ++ host ++ port) : IsFrontChar c := by
  have hrange : 0x2D ≤ c.toNat ∧ c.toNat ≤ 0x3A ∨ c.isAlpha = true := by
    simp only [List.mem_append] at hc
    obtain ((hc | hc) | hc) | hc := hc
    · exact Or.inr (hscheme c hc)
    · have hmarks : ∀ d ∈ "://".toList, 0x2D ≤ d.toNat ∧ d.toNat ≤ 0x3A := by decide
      exact Or.inl (hmarks c hc)
    · have := Origin.isHostLetter_iff.mp (hhost c hc)
      rw [Text.isAlpha_iff]
      omega
    · rcases hport with rfl | ⟨digits, rfl, -, -, hdigits⟩
      · cases hc
      · rcases List.mem_cons.mp hc with rfl | hc
        · exact Or.inl (by decide)
        · have := Text.isDigit_iff.mp (hdigits c hc)
          omega
  have hmarks : ∀ d ∈ "\\*+?({}#".toList,
      ¬ (0x2D ≤ d.toNat ∧ d.toNat ≤ 0x3A ∨ d.isAlpha = true) := by decide
  exact fun hmem => hmarks c hmem hrange

/-- The colons of an origin are escaped. -/
theorem escape_origin {scheme host port path : Text}
    (hscheme : scheme ≠ [] ∧ ∀ c ∈ scheme, c.isAlpha = true)
    (hhost : host ≠ [] ∧ ∀ c ∈ host, isHostLetter c = true) (hport : port = [] ∨ IsPort port)
    (hpath : Skeleton.isPath path = true) :
    Skeleton.escape (scheme ++ "://".toList ++ host ++ port ++ path) =
      Skeleton.escapeColons (scheme ++ "://".toList ++ host ++ port) ++ path := by
  have hname : IsSchemeName scheme := by
    refine ⟨hscheme.1, fun c hc => ?_⟩
    have hletter := Text.isAlpha_iff.mp (hscheme.2 c hc)
    refine ⟨PathSegment.isSegmentChar_of_range (by omega) ?_, ?_⟩
    · rintro rfl
      exact absurd hletter (by decide)
    · rintro rfl
      exact absurd hletter (by decide)
  have hrange : ∀ c ∈ host, Skeleton.isHostChar c = true ∧ c ≠ ':' := by
    intro c hc
    have hletter := Origin.isHostLetter_iff.mp (hhost.2 c hc)
    refine ⟨Skeleton.isHostChar_of_range (by omega) (by omega) (by omega), ?_⟩
    rintro rfl
    exact absurd hletter (by decide)
  have hcolon : ':' ∉ host := fun hmem => (hrange ':' hmem).2 rfl
  have haddress : Skeleton.AddressEscaped host host :=
    .plain hhost.1 (fun c hc => (hrange c hc).1) (not_endsInPort hcolon)
  have hescaped : Skeleton.escapeColons (scheme ++ "://".toList ++ host ++ port) =
      scheme ++ "\\://".toList ++ host ++ Skeleton.escapeColons port := by
    rw [Skeleton.escapeColons_append, Skeleton.escapeColons_append, Skeleton.escapeColons_append,
      Skeleton.escapeColons_eq_self fun hmem => (hname.2 _ hmem).2 rfl,
      Skeleton.escapeColons_eq_self hcolon]
    rfl
  rw [hescaped]
  exact Skeleton.escape_append_path (.name hname) haddress (Skeleton.PortEscaped.of_isPort hport) hpath

/-- The template of a glob: the colons in front are escaped, and the rest is expanded. -/
theorem exists_template {mask : Text} (h : IsGlob mask) :
    ∃ front rest, mask = front ++ rest ∧ (∀ c ∈ front, IsFrontChar c) ∧
      (∀ c ∈ rest, IsGlobChar c) ∧ (front ≠ [] → rest.head? ≠ some '*') ∧
      MaskText.template mask = Skeleton.escapeColons front ++ Wildcard.expand rest := by
  cases h with
  | bare hrest =>
      have hcolon : ':' ∉ Wildcard.expand mask := by
        intro hmem
        rcases Wildcard.mem_of_mem_expandFrom hmem with hmem | hmem
        · exact (hrest ':' hmem).1 (by decide)
        · exact absurd hmem (by decide)
      refine ⟨[], mask, rfl, fun c hc => (nomatch hc), hrest, fun h => absurd rfl h, ?_⟩
      rw [MaskText.template, Skeleton.escape_eq_self hcolon]
      rfl
  | @behind scheme host port path hscheme hhost hport hpath hchars =>
      have hfront : ∀ c ∈ scheme ++ "://".toList ++ host ++ port, IsFrontChar c :=
        fun c => isFrontChar_of_mem hscheme.2 hhost.2 hport
      have hhead := Skeleton.head?_of_isPath hpath.isPath
      refine ⟨_, path, rfl, hfront, hchars, fun _ => ?_, ?_⟩
      · rcases hhead with rfl | hhead
        · simp
        · simp [hhead]
      · have hstar : '*' ∉ scheme ++ "://".toList ++ host ++ port :=
          fun hmem => hfront '*' hmem (by decide)
        rw [MaskText.template, Wildcard.expand_append hstar hhead]
        exact escape_origin hscheme hhost hport hpath.isPath_expand

/-- A glob is in normal form. -/
theorem normalize_eq {mask : Text} (h : IsGlob mask) : MaskText.normalize mask none = .ok mask := by
  obtain ⟨front, rest, rfl, hfront, hrest, -, -⟩ := h.exists_template
  have hmarks : ∀ c ∈ front ++ rest, c ≠ '?' ∧ c ≠ '#' := by
    intro c hc
    constructor
    · rintro rfl
      rcases List.mem_append.mp hc with hc | hc
      · exact hfront _ hc (by decide)
      · exact (hrest _ hc).1 (by decide)
    · rintro rfl
      rcases List.mem_append.mp hc with hc | hc
      · exact hfront _ hc (by decide)
      · exact (hrest _ hc).1 (by decide)
  have hwhole : MaskText.withoutQuery (front ++ rest) = front ++ rest := by
    unfold MaskText.withoutQuery
    split
    · rfl
    · refine List.takeWhile_eq_self_iff.mpr fun c hc => ?_
      simp [hmarks c hc]
  have habsolute : MaskText.absolute (front ++ rest) none = .ok (front ++ rest) := by
    unfold MaskText.absolute
    split <;> rfl
  rw [MaskText.normalize, habsolute, Except.map, hwhole]

/-- The template of a glob consists of characters and wildcards, and the texts on one line that fill it
are those that the glob stands for. -/
theorem exists_glyphs {mask : Text} (h : IsGlob mask) :
    ∃ glyphs, Glyph.ArePlain glyphs ∧ MaskText.template mask = Glyph.texts glyphs ∧
      ∀ s values, '\n' ∉ s →
        (Glyph.Fills Glyph.IsLine glyphs values s ↔ Wildcard.Fills mask values s) := by
  obtain ⟨front, rest, rfl, hfront, hrest, hhead, htemplate⟩ := h.exists_template
  refine ⟨front.map Wildcard.colonGlyph ++ Wildcard.glyphs rest, ?_, ?_, fun s values hs => ?_⟩
  · have hopens : ∀ c ∈ Item.openers, c = ':' ∨ c ∈ "\\*+?({}#".toList := by decide
    have hopens' : ∀ c ∈ Item.openers, c = '*' ∨ c ∈ "\\:()\x7b\x7d+?#".toList := by decide
    refine Wildcard.arePlain_colonGlyphs (fun c hc hopen => ?_)
      (Wildcard.arePlain_glyphs fun c hc hopen => ?_) fun hne => Wildcard.head?_glyphs (hhead hne)
    · exact (hopens c hopen).resolve_right (hfront c hc)
    · exact (hopens' c hopen).resolve_right (hrest c hc).1
  · have hcolon : ':' ∉ rest := fun hmem => (hrest ':' hmem).1 (by decide)
    rw [htemplate, Wildcard.texts_colonGlyphs, Wildcard.texts_glyphs hcolon]
  · have hstar : '*' ∉ front := fun hmem => hfront '*' hmem (by decide)
    rw [Wildcard.fills_colonGlyphs_iff, Wildcard.fills_append_iff hstar]
    constructor
    · rintro ⟨a, t, rfl, ha, ht⟩
      rw [List.mem_append, not_or] at hs
      exact ⟨a, t, rfl, ha, (Wildcard.fills_glyphs_iff hs.2).mp ht⟩
    · rintro ⟨a, t, rfl, ha, ht⟩
      rw [List.mem_append, not_or] at hs
      exact ⟨a, t, rfl, ha, (Wildcard.fills_glyphs_iff hs.2).mpr ht⟩

end IsGlob

/-! ### Matching -/

/-- A matcher takes a mask as a glob: it accepts the texts that the mask stands for, gives those that the
runs of stars were replaced by, numbered, and fails for URLs that hold a surrogate only. -/
structure Matcher.IsGlob (m : Matcher) (mask : Text) : Prop where
  accepts_iff : ∀ url : RawText, .char '\n' ∉ url →
    ((∃ params, m.applyRaw url = .ok (some params)) ↔
      ∃ (text : Text) (values : List Text), url = text ∧ Wildcard.Matches mask values text)
  params_eq : ∀ url : RawText, .char '\n' ∉ url → ∀ params, m.applyRaw url = .ok (some params) →
    ∃ (text : Text) (values : List Text),
      url = text ∧ Wildcard.Matches mask values text ∧ params = numbered values
  error_iff : ∀ url e,
    m.applyRaw url = .error e ↔ ∃ cause, e = .encoding cause ∧ url.toText = .error cause

/-- Matching without memory accepts the texts that a glob stands for. -/
theorem Mask.exists_apply_glob {mask : Text} (h : IsGlob mask) :
    ∃ m, (Mask.text mask).matcherBy id none = .ok m ∧
      (∀ text, '\n' ∉ text →
        ((∃ params, m.apply text = .ok (some params)) ↔ ∃ values, Wildcard.Matches mask values text) ∧
          ∀ params, m.apply text = .ok (some params) →
            ∃ values, Wildcard.Matches mask values text ∧ params = numbered values) ∧
      ∀ text e, m.apply text ≠ .error e := by
  obtain ⟨glyphs, hplain, htemplate, hfills⟩ := h.exists_glyphs
  obtain ⟨m, hm, hmatches⟩ := Glyph.exists_matcher hplain id
  have hbody : ∀ {text body : Text}, '\n' ∉ text →
      (text = body ∨ ∃ d ∈ Template.usualDelimiter, text = body ++ [d]) → '\n' ∉ body := by
    rintro text body hnewline (rfl | ⟨d, -, rfl⟩)
    · exact hnewline
    · exact fun hmem => hnewline (List.mem_append_left [d] hmem)
  refine ⟨m, ?_, fun text hnewline => ⟨(hmatches text).1.trans ⟨?_, ?_⟩, ?_⟩,
    fun text => (hmatches text).2.2⟩
  · unfold Mask.matcherBy
    rw [Mask.prepare, Mask.normalize, h.normalize_eq]
    dsimp only [Except.map, Except.mapError, bind, Except.bind]
    rw [htemplate, Mask.compile, hm]
  · rintro ⟨values, body, hfilled, hends⟩
    exact ⟨values, body, (hfills body values (hbody hnewline hends)).mp hfilled, hends⟩
  · rintro ⟨values, body, hfilled, hends⟩
    exact ⟨values, body, (hfills body values (hbody hnewline hends)).mpr hfilled, hends⟩
  · intro params happly
    obtain ⟨values, body, hfilled, hends, hparams⟩ := (hmatches text).2.1 params happly
    rw [List.map_id] at hparams
    exact ⟨values, ⟨body, (hfills body values (hbody hnewline hends)).mp hfilled, hends⟩, hparams⟩

/-- Matching without memory takes a glob as such. -/
theorem Mask.exists_matcher_glob {mask : Text} (h : IsGlob mask) :
    ∃ m, (Mask.text mask).matcherBy id none = .ok m ∧ m.IsGlob mask := by
  obtain ⟨m, hm, htexts, hnever⟩ := Mask.exists_apply_glob h
  have hraw := fun (url : RawText) (hurl : .char '\n' ∉ url) =>
    Matcher.applyRaw_of_apply url fun text htext =>
      htexts text fun hmem => hurl (htext ▸ List.mem_map_of_mem hmem)
  exact ⟨m, hm, fun url hurl => (hraw url hurl).1, fun url hurl => (hraw url hurl).2,
    fun url e => Matcher.applyRaw_eq_error_iff hnever⟩

/-- A cache that does not decode gives a matcher that takes a glob as such. -/
theorem MatcherCache.matcher_glob {c : MatcherCache} (hc : c.IsSound id) {mask : Text}
    (hmask : IsGlob mask) :
    ∃ stored, (c.matcher none (.text mask)).1 = .ok stored ∧ stored.value.IsGlob mask := by
  obtain ⟨m, hm, hglob⟩ := Mask.exists_matcher_glob hmask
  have hmatcher := hc.map_matcher none (.text mask)
  rw [hm] at hmatcher
  cases hfound : (c.matcher none (.text mask)).1 with
  | error e =>
      rw [hfound] at hmatcher
      cases hmatcher
  | ok stored =>
      rw [hfound] at hmatcher
      refine ⟨stored, rfl, ?_⟩
      rw [Except.ok.inj hmatcher]
      exact hglob

/-- A wildcard takes slashes, and case and a last slash do not matter. -/
theorem MatcherCache.matcher_glob_slashes :
    ∃ stored, (MatcherCache.matcher ⟨id, .empty 4⟩ none
        (.text "http://a:80/*/x.**".toList)).1 = .ok stored ∧
      ∃ params, stored.value.applyRaw ("http://A:80/u/v/X.js/".toList : Text) =
        .ok (some params) := by
  have hcache : MatcherCache.IsSound id ⟨id, .empty 4⟩ := .empty id 4
  have hmask : IsGlob "http://a:80/*/x.**".toList := by
    have hpath : Skeleton.IsPlainPath (PathSegment.path ["*".toList, "x.**".toList]) :=
      .segments (by decide)
    have hport : IsPort ":80".toList := ⟨"80".toList, rfl, by decide, by decide, by decide⟩
    have hscheme : "http".toList ≠ [] ∧ ∀ c ∈ "http".toList, c.isAlpha = true := by decide
    have hhost : "a".toList ≠ [] ∧ ∀ c ∈ "a".toList, isHostLetter c = true := by decide
    exact .behind hscheme hhost (Or.inr hport) hpath (by decide)
  obtain ⟨stored, hstored, hglob⟩ := MatcherCache.matcher_glob hcache hmask
  have hlast : Wildcard.Fills "**".toList ["js".toList] "js".toList :=
    Wildcard.Fills.run (n := 1) (s := []) (by decide) .done
  have hmiddle : Wildcard.Fills ("/x.".toList ++ "**".toList) ["js".toList]
      ("/X.".toList ++ "js".toList) :=
    (Wildcard.fills_append_iff (by decide)).mpr ⟨_, _, rfl, by decide, hlast⟩
  have hrun : Wildcard.Fills "*/x.**".toList ["u/v".toList, "js".toList] "u/v/X.js".toList :=
    Wildcard.Fills.run (n := 0) (by decide) hmiddle
  have hbody : Wildcard.Fills ("http://a:80/".toList ++ "*/x.**".toList)
      ["u/v".toList, "js".toList] ("http://A:80/".toList ++ "u/v/X.js".toList) :=
    (Wildcard.fills_append_iff (by decide)).mpr ⟨_, _, rfl, by decide, hrun⟩
  exact ⟨stored, hstored, (hglob.accepts_iff _ (by decide)).mpr
    ⟨_, _, rfl, _, hbody, Or.inr ⟨'/', by decide, rfl⟩⟩⟩

/-- A run of stars may stand for any text, but no URL is accepted in which a surrogate stands there. -/
theorem MatcherCache.not_matcher_glob_surrogate :
    let run : RawText := [.surrogate 0]
    let url : RawText := .ofText "a".toList ++ run ++ .ofText "b".toList
    IsGlob "a*b".toList ∧ .char '\n' ∉ url ∧
      ∃ stored, (MatcherCache.matcher ⟨id, .empty 1⟩ none (.text "a*b".toList)).1 = .ok stored ∧
        ∀ params, stored.value.applyRaw url ≠ .ok (some params) := by
  intro run url
  refine ⟨.bare (by decide), by decide, _, rfl, fun params h => ?_⟩
  obtain ⟨text, htext, -⟩ := Matcher.applyRaw_eq_ok_iff.mp h
  cases RawText.toText_eq_ok_iff.mpr htext

end RouteMask
