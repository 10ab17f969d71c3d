import RouteMask.Proofs.Mask.Relative
import RouteMask.Proofs.Url.Resolution

/-! # Relative masks as references

A mask is resolved as a reference.  One that is not absolute has no authority then, but it may have a
scheme of its own: a word and a colon, such as stand in front of a parameter
(`Url.exists_parse_encode`).  Resolving always has a result if the base can be read
(`Url.exists_resolve`), and against a web page this is a place in the page's origin, unless the mask has
a scheme that is not the page's (`Url.resolve_encode_cases`). -/

namespace RouteMask

open Percent MaskText

namespace Url

/-! ### Schemes of encoded masks -/

theorem splitScheme?_eq_some_iff {s scheme rest : Text} :
    splitScheme? s = some (scheme, rest) ↔
      ∃ name, s = name ++ ':' :: rest ∧ IsScheme name ∧ name.map Char.toLower = scheme := by
  constructor
  · intro h
    unfold splitScheme? at h
    split at h
    · next name more hcut =>
        obtain ⟨c, hs, hc, -⟩ := Text.cut?_eq_some hcut
        obtain rfl := beq_iff_eq.mp hc
        split at h
        · next hname =>
            obtain ⟨rfl, rfl⟩ := Prod.mk.inj (Option.some.inj h)
            obtain ⟨halpha, hchars⟩ := Bool.and_eq_true_iff.mp hname
            refine ⟨name, hs, ⟨?_, List.all_eq_true.mp hchars⟩, rfl⟩
            cases name with
            | nil => cases halpha
            | cons d name => exact ⟨d, rfl, halpha⟩
        · cases h
    · cases h
  · rintro ⟨name, rfl, hname, rfl⟩
    exact splitScheme?_written hname rest

theorem isSafe_of_isSchemeChar {c : Char} (h : isSchemeChar c = true) :
    unreserved c = true ∨ c ∈ resolvable := by
  have hplus : '+' ∈ resolvable := by decide
  simp only [isSchemeChar, Bool.or_eq_true, beq_iff_eq] at h
  rcases h with ((h | rfl) | rfl) | rfl
  · exact .inl (by simp [unreserved, h])
  · exact .inr hplus
  · exact .inl (by decide)
  · exact .inl (by decide)

/-- The scheme of a mask is not encoded. -/
theorem splitScheme?_encode (s : Text) :
    splitScheme? (encode resolvable s) =
      (splitScheme? s).map fun (scheme, rest) => (scheme, encode resolvable rest) := by
  have hcolon : IsMark resolvable ':' := by decide
  unfold splitScheme?
  rw [hcolon.cut?_encode]
  cases Text.cut? (· == ':') s with
  | none => rfl
  | some parts =>
      obtain ⟨name, rest⟩ := parts
      have hself : (encode resolvable name).all isSchemeChar = true ∨ name.all isSchemeChar = true →
          encode resolvable name = name := by
        rintro (h | h)
        · refine encode_eq_self_of_not_mem fun hmem => ?_
          exact absurd (List.all_eq_true.mp h _ hmem) (by decide)
        · exact encode_eq_self_of_safe fun c hc => isSafe_of_isSchemeChar (List.all_eq_true.mp h c hc)
      dsimp only [Option.map_some]
      by_cases h : (encode resolvable name).all isSchemeChar = true ∨ name.all isSchemeChar = true
      · rw [hself h]
        split <;> rfl
      · obtain ⟨hencoded, hname⟩ := not_or.mp h
        rw [Bool.not_eq_true] at hencoded hname
        simp only [hencoded, hname, Bool.and_false]
        rfl

end Url

/-! ### Masks with a scheme -/

/-- The text begins with a word that can be a scheme, and a colon; in lower case the word is not the
given scheme. -/
def HasForeignScheme (scheme s : Text) : Prop :=
  ∃ name rest, s = name ++ ':' :: rest ∧ Url.IsScheme name ∧ name.map Char.toLower ≠ scheme

theorem hasForeignScheme_iff {scheme s : Text} :
    HasForeignScheme scheme s ↔ ∃ other rest, Url.splitScheme? s = some (other, rest) ∧ other ≠ scheme := by
  constructor
  · rintro ⟨name, rest, hs, hname, hne⟩
    exact ⟨_, rest, Url.splitScheme?_eq_some_iff.mpr ⟨name, hs, hname, rfl⟩, hne⟩
  · rintro ⟨other, rest, hsplit, hne⟩
    obtain ⟨name, hs, hname, rfl⟩ := Url.splitScheme?_eq_some_iff.mp hsplit
    exact ⟨name, rest, hs, hname, hne⟩

namespace MaskText

theorem take_ne_of_isAbsolute {s : Text} (h : isAbsolute s = false) : s.take 2 ≠ ['/', '/'] := by
  intro htake
  rcases s with _ | ⟨c, _ | ⟨d, s⟩⟩
  · cases htake
  · cases htake
  · obtain ⟨rfl, rfl⟩ : c = '/' ∧ d = '/' := by simpa using htake
    cases h

end MaskText

namespace Url

/-! ### Reading a relative mask -/

/-- A mask that is not absolute has no authority. -/
theorem exists_parse_encode {s : Text} (h : isAbsolute s = false) (scheme : Text) :
    ∃ r, parse scheme (encode resolvable s) = .ok r ∧ r.authority = [] ∧
      (r.scheme ≠ scheme ↔ HasForeignScheme scheme s) := by
  have hread : ∀ {own rest : Text}, (splitScheme? s).getD (scheme, s) = (own, rest) →
      rest.take 2 ≠ ['/', '/'] →
      ∃ r, parse scheme (encode resolvable s) = .ok r ∧ r.authority = [] ∧ r.scheme = own := by
    intro own rest hsplit hslashes
    have hencoded : (splitScheme? (encode resolvable s)).getD (scheme, encode resolvable s) =
        (own, encode resolvable rest) := by
      rw [splitScheme?_encode]
      cases hs : splitScheme? s with
      | none =>
          rw [hs] at hsplit
          obtain ⟨rfl, rfl⟩ := Prod.mk.inj hsplit
          rfl
      | some parts =>
          rw [hs] at hsplit
          obtain rfl : parts = (own, rest) := hsplit
          rfl
    unfold parse
    simp only [tidy_eq_self fun c hc => lt_of_mem_encode hc, hencoded, splitAuthority_encode hslashes]
    exact ⟨_, rfl, rfl, rfl⟩
  rw [hasForeignScheme_iff]
  cases hs : splitScheme? s with
  | none =>
      obtain ⟨r, hr, hauthority, hscheme⟩ := hread (by rw [hs]; rfl) (take_ne_of_isAbsolute h)
      exact ⟨r, hr, hauthority, by simp [hscheme]⟩
  | some parts =>
      obtain ⟨own, rest⟩ := parts
      obtain ⟨name, rfl, hname, -⟩ := splitScheme?_eq_some_iff.mp hs
      have hslashes : rest.take 2 ≠ ['/', '/'] := by
        intro htake
        obtain ⟨more, rfl⟩ : ∃ more, rest = '/' :: '/' :: more :=
          ⟨rest.drop 2, by rw [← List.take_append_drop 2 rest, htake]; rfl⟩
        have habsolute := isAbsolute_of_isScheme hname more
        rw [List.append_assoc] at habsolute
        exact absurd (habsolute.symm.trans h) (by decide)
      obtain ⟨r, hr, hauthority, rfl⟩ := hread (by rw [hs]; rfl) hslashes
      exact ⟨r, hr, hauthority, by simp⟩

/-! ### Resolving a relative mask -/

/-- Resolving has a result if the base and the reference can be read. -/
theorem exists_resolve {base reference : Text} {b r : Url} (hb : parse [] base = .ok b)
    (hr : parse b.scheme reference = .ok r) : ∃ url, resolve base reference = .ok url := by
  unfold resolve
  split
  · exact ⟨_, rfl⟩
  split
  · exact ⟨_, rfl⟩
  rw [hb]
  dsimp only [bind, Except.bind]
  rw [hr]
  dsimp only
  split
  · exact ⟨_, rfl⟩
  split
  · exact ⟨_, rfl⟩
  split
  · exact ⟨_, rfl⟩
  · exact ⟨_, rfl⟩

/-- A mask that is not absolute can be resolved exactly when the base can be read. -/
theorem resolve_encode_eq_error_iff {base s : Text} (h : isAbsolute s = false) {e : UrlError} :
    resolve base (encode resolvable s) = .error e ↔
      base ≠ [] ∧ s ≠ [] ∧ parse [] base = .error e := by
  cases hb : parse [] base with
  | ok b =>
      obtain ⟨r, hr, -⟩ := exists_parse_encode h b.scheme
      obtain ⟨url, hurl⟩ := exists_resolve hb hr
      simp [hurl]
  | error cause =>
      unfold resolve
      simp only [List.isEmpty_iff, encode_eq_nil_iff, hb]
      by_cases hbase : base = []
      · simp [hbase]
      · by_cases hs : s = []
        · simp [hbase, hs]
        · simp [hbase, hs, bind, Except.bind]

/-- Against a web page, a mask that is not absolute is resolved to a place in the page's origin, or left
alone. -/
theorem resolve_encode_cases {base s : Text} {b : Url} (hb : parse [] base = .ok b)
    (hweb : b.scheme = "http".toList ∨ b.scheme = "https".toList) (hbase : base ≠ []) (hs : s ≠ [])
    (h : isAbsolute s = false) :
    (HasForeignScheme b.scheme s ∧ resolve base (encode resolvable s) = .ok (encode resolvable s)) ∨
      (¬HasForeignScheme b.scheme s ∧ ∃ path query fragment,
        resolve base (encode resolvable s) =
          .ok (render ⟨b.scheme, b.authority, path, query, fragment⟩)) := by
  obtain ⟨hrelative, -, hauthorities⟩ := contains_of_web hweb
  obtain ⟨r, hr, hauthority, hforeign⟩ := exists_parse_encode h b.scheme
  have hencoded : encode resolvable s ≠ [] := fun hnil => hs (encode_eq_nil_iff.mp hnil)
  unfold resolve
  rw [if_neg (by simpa using hbase), if_neg (by simpa using hencoded), hb]
  dsimp only [bind, Except.bind]
  rw [hr]
  dsimp only
  by_cases hscheme : r.scheme = b.scheme
  · refine .inr ⟨fun hother => hforeign.mpr hother hscheme, ?_⟩
    rw [hscheme, if_neg (by simp [List.contains_iff_mem.mp hrelative]), hauthority,
      if_neg (by simp), if_pos hauthorities]
    split
    · exact ⟨_, _, _, rfl⟩
    · exact ⟨_, _, _, rfl⟩
  · exact .inl ⟨hforeign.mp hscheme, if_pos (.inl hscheme)⟩

end Url

end RouteMask
