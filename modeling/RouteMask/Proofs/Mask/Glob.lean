import RouteMask.Proofs.Mask.Structure
import RouteMask.Proofs.Mask.Wildcard
import RouteMask.Proofs.Template.Glyphs

/-! # Masks as globs

A mask stands for the texts in which every longest run of stars has been replaced by some text
(`Wildcard.Fills`).  What `Wildcard.expand` makes of a mask without colons is a template of characters
and wildcards (`Wildcard.texts_glyphs`), which is filled by the same texts
(`Wildcard.fills_glyphs_iff`). -/

namespace RouteMask

namespace Wildcard

/-- The text is made from the mask: each longest run of stars is replaced by one of the values, in order,
and every other character stands for itself, in any case. -/
inductive Fills : Text → List Text → Text → Prop where
  | done : Fills [] [] []
  | char {c d : Char} {mask s : Text} {values : List Text} (hc : c ≠ '*')
      (hd : d.toNat ∈ Unicode.orbit c.toNat) (hs : Fills mask values s) :
      Fills (c :: mask) values (d :: s)
  | run {n : Nat} {mask v s : Text} {values : List Text} (hmask : mask.head? ≠ some '*')
      (hs : Fills mask values s) : Fills (stars (n + 1) ++ mask) (v :: values) (v ++ s)

theorem fills_char_iff {c : Char} (hc : c ≠ '*') {mask s : Text} {values : List Text} :
    Fills (c :: mask) values s ↔
      ∃ a t, s = a ++ t ∧ SameFold [c] a ∧ Fills mask values t := by
  constructor
  · intro h
    generalize hwhole : c :: mask = whole at h
    cases h with
    | done => cases hwhole
    | char _ hd hs =>
        cases hwhole
        exact ⟨[_], _, rfl, .cons hd .nil, hs⟩
    | run _ _ => exact absurd (List.cons.inj hwhole).1 hc
  · rintro ⟨a, t, rfl, ha, ht⟩
    cases ha with
    | cons hd hnil =>
        cases hnil
        exact .char hc hd ht

theorem fills_stars_iff {n : Nat} {mask s : Text} (hmask : mask.head? ≠ some '*')
    {values : List Text} :
    Fills (stars (n + 1) ++ mask) values s ↔
      ∃ v t rest, s = v ++ t ∧ values = v :: rest ∧ Fills mask rest t := by
  constructor
  · intro h
    generalize hwhole : stars (n + 1) ++ mask = whole at h
    cases h with
    | done => simp [stars_succ] at hwhole
    | char hc _ _ => exact absurd (List.cons.inj hwhole).1.symm hc
    | run hmask' hs =>
        obtain ⟨-, rfl⟩ := stars_append_inj hmask hmask' hwhole
        exact ⟨_, _, _, rfl, rfl, hs⟩
  · rintro ⟨v, t, rest, rfl, rfl, ht⟩
    exact .run hmask ht

/-- Characters other than stars stand for themselves. -/
theorem fills_append_iff {front mask s : Text} (hfront : '*' ∉ front) {values : List Text} :
    Fills (front ++ mask) values s ↔
      ∃ a t, s = a ++ t ∧ SameFold front a ∧ Fills mask values t := by
  induction front generalizing s with
  | nil => exact SameFold.exists_nil_iff.symm
  | cons c front ih =>
      rw [List.mem_cons, not_or] at hfront
      rw [List.cons_append, fills_char_iff (Ne.symm hfront.1)]
      simp only [ih hfront.2]
      exact SameFold.exists_append_iff.symm

/-! ### The glyphs of a mask -/

/-- Put a character in front of glyphs; a pattern takes it. -/
def consGlyph (c : Char) : List Glyph → List Glyph
  | .any none :: glyphs => .any (some c) :: glyphs
  | glyphs => .char c :: glyphs

/-- The glyphs of a mask. -/
def glyphs : Text → List Glyph
  | [] => []
  | c :: mask =>
    if c = '*' then if mask.head? = some '*' then glyphs mask else .any none :: glyphs mask
    else consGlyph c (glyphs mask)

theorem glyphs_stars (n : Nat) {mask : Text} (hmask : mask.head? ≠ some '*') :
    glyphs (stars (n + 1) ++ mask) = .any none :: glyphs mask := by
  induction n with
  | zero =>
      have htext : stars (0 + 1) ++ mask = '*' :: mask := rfl
      rw [htext, glyphs, if_pos rfl, if_neg hmask]
  | succ n ih =>
      have htext : stars (n + 1 + 1) ++ mask = '*' :: (stars (n + 1) ++ mask) := rfl
      have hnext : (stars (n + 1) ++ mask).head? = some '*' := rfl
      rw [htext, glyphs, if_pos rfl, if_pos hnext, ih]

theorem head?_consGlyph (c : Char) (glyphs : List Glyph) :
    (consGlyph c glyphs).head? ≠ some (.any none) := by
  unfold consGlyph
  split <;> simp

theorem head?_glyphs {mask : Text} (hmask : mask.head? ≠ some '*') :
    (glyphs mask).head? ≠ some (.any none) := by
  cases mask with
  | nil => simp [glyphs]
  | cons c mask =>
      have hc : c ≠ '*' := by simpa using hmask
      rw [glyphs, if_neg hc]
      exact head?_consGlyph c _

theorem texts_consGlyph (c : Char) (glyphs : List Glyph) :
    Glyph.texts (consGlyph c glyphs) = c :: Glyph.texts glyphs := by
  unfold consGlyph
  split <;> rfl

theorem arePlain_consGlyph {c : Char} (hc : c ∉ Item.openers) {glyphs : List Glyph}
    (h : Glyph.ArePlain glyphs) : Glyph.ArePlain (consGlyph c glyphs) := by
  unfold consGlyph
  split
  · refine ⟨fun d hd => ?_, h.2⟩
    rw [← Option.some.inj hd]
    exact hc
  · next hnone =>
      refine ⟨hc, ?_, h⟩
      intro hhead
      obtain ⟨more, rfl⟩ := List.head?_eq_some_iff.mp hhead
      exact hnone more rfl

theorem arePlain_glyphs {mask : Text} (h : ∀ c ∈ mask, c ∈ Item.openers → c = '*') :
    Glyph.ArePlain (glyphs mask) := by
  fun_induction glyphs mask with
  | case1 => trivial
  | case2 mask hnext ih => exact ih fun c hc => h c (List.mem_cons_of_mem _ hc)
  | case3 mask hnext ih =>
      refine ⟨?_, head?_glyphs hnext, ih fun c hc => h c (List.mem_cons_of_mem _ hc)⟩
      intro c hc
      cases hc
  | case4 c mask hc ih =>
      exact arePlain_consGlyph (fun hmem => hc (h c List.mem_cons_self hmem))
        (ih fun d hd => h d (List.mem_cons_of_mem _ hd))

/-- Where every run is replaced, a mask becomes the text of its glyphs. -/
theorem Expands.texts_glyphs {before mask out : Text} (h : Expands (fun _ => False) before mask out) :
    Glyph.texts (glyphs mask) = out := by
  induction h with
  | done => rfl
  | char hc _ ih => rw [glyphs, if_neg hc, texts_consGlyph, ih]
  | kept _ hkeeps _ _ => exact hkeeps.elim
  | @replaced before rest out n hrest _ _ ih =>
      rw [glyphs_stars n hrest, ← ih]
      rfl

/-- In a mask without colons every run is replaced. -/
theorem texts_glyphs {mask : Text} (h : ':' ∉ mask) : Glyph.texts (glyphs mask) = expand mask := by
  have hscan : Expands OpensWithColon [] mask (expand mask) := expands_expandFrom [] mask
  refine Expands.texts_glyphs (hscan.congr (.inl (by simp)) fun front hfront => ?_)
  obtain ⟨⟨rest, rfl⟩, -⟩ := hfront
  refine iff_false_intro fun hopens => h ?_
  have hword : ':' ∈ lastWord front := List.mem_of_head? hopens
  exact List.mem_append_left _ ((List.rtakeWhile_suffix isWordChar front).subset hword)

theorem fills_consGlyph_iff {L : Text → Prop} {c : Char} {glyphs : List Glyph} {values : List Text}
    {s : Text} :
    Glyph.Fills L (consGlyph c glyphs) values s ↔
      ∃ a t, s = a ++ t ∧ SameFold [c] a ∧ Glyph.Fills L glyphs values t := by
  unfold consGlyph
  split
  · have hlead : (some c).toList = [c] := rfl
    have hnone : (none : Option Char).toList = [] := rfl
    simp only [Glyph.fills_any_iff, hlead, hnone, SameFold.exists_nil_iff]
  · exact Glyph.fills_char_iff

/-- The glyphs of a mask are filled by the texts on one line that the mask stands for. -/
theorem fills_glyphs_iff {mask s : Text} (hs : '\n' ∉ s) {values : List Text} :
    Glyph.Fills Glyph.IsLine (glyphs mask) values s ↔ Fills mask values s := by
  induction hlength : mask.length using Nat.strong_induction_on generalizing mask values s with
  | _ length ih =>
      obtain ⟨n, rest, rfl, hrest⟩ := exists_stars_append mask
      cases n with
      | zero =>
          cases rest with
          | nil =>
              constructor
              · intro h
                cases h
                exact .done
              · intro h
                cases h
                exact .nil
          | cons c rest =>
              have hc : c ≠ '*' := by simpa using hrest
              have hrec : ∀ t, '\n' ∉ t →
                  (Glyph.Fills Glyph.IsLine (glyphs rest) values t ↔ Fills rest values t) :=
                fun t ht => ih rest.length (by simp [← hlength, stars]) ht rfl
              rw [show stars 0 ++ c :: rest = c :: rest from rfl, glyphs, if_neg hc,
                fills_consGlyph_iff, fills_char_iff hc]
              constructor
              · rintro ⟨a, t, rfl, ha, ht⟩
                rw [List.mem_append, not_or] at hs
                exact ⟨a, t, rfl, ha, (hrec t hs.2).mp ht⟩
              · rintro ⟨a, t, rfl, ha, ht⟩
                rw [List.mem_append, not_or] at hs
                exact ⟨a, t, rfl, ha, (hrec t hs.2).mpr ht⟩
      | succ n =>
          have hrec : ∀ t more, '\n' ∉ t →
              (Glyph.Fills Glyph.IsLine (glyphs rest) more t ↔ Fills rest more t) :=
            fun t more ht => ih rest.length (by simp [← hlength, stars]) ht rfl
          have hnone : (none : Option Char).toList = [] := rfl
          rw [glyphs_stars n hrest, Glyph.fills_any_iff, hnone, SameFold.exists_nil_iff,
            fills_stars_iff hrest]
          constructor
          · rintro ⟨v, t, more, rfl, rfl, -, ht⟩
            rw [List.mem_append, not_or] at hs
            exact ⟨v, t, more, rfl, rfl, (hrec t more hs.2).mp ht⟩
          · rintro ⟨v, t, more, rfl, rfl, ht⟩
            rw [List.mem_append, not_or] at hs
            exact ⟨v, t, more, rfl, rfl, hs.1, (hrec t more hs.2).mpr ht⟩

/-! ### Colons in front of a mask -/

/-- A character as a glyph; colons are escaped. -/
def colonGlyph (c : Char) : Glyph :=
  if c = ':' then .escaped c else .char c

theorem text_colonGlyph (c : Char) :
    (colonGlyph c).text = if c = ':' then ['\\', ':'] else [c] := by
  unfold colonGlyph
  split
  · next h => rw [h]; rfl
  · rfl

theorem texts_colonGlyphs (front : Text) (glyphs : List Glyph) :
    Glyph.texts (front.map colonGlyph ++ glyphs) =
      Skeleton.escapeColons front ++ Glyph.texts glyphs := by
  rw [Glyph.texts, List.flatMap_append, List.flatMap_map, Skeleton.escapeColons]
  simp only [text_colonGlyph]
  rfl

theorem head?_colonGlyphs {front : Text} {glyphs : List Glyph}
    (h : front = [] → glyphs.head? ≠ some (.any none)) :
    (front.map colonGlyph ++ glyphs).head? ≠ some (.any none) := by
  cases front with
  | nil => exact h rfl
  | cons c front =>
      have hne : colonGlyph c ≠ .any none := by
        unfold colonGlyph
        split <;> simp
      exact fun hhead => hne (Option.some.inj hhead)

theorem arePlain_colonGlyphs {front : Text} (hfront : ∀ c ∈ front, c ∈ Item.openers → c = ':')
    {glyphs : List Glyph} (h : Glyph.ArePlain glyphs)
    (hhead : front ≠ [] → glyphs.head? ≠ some (.any none)) :
    Glyph.ArePlain (front.map colonGlyph ++ glyphs) := by
  induction front with
  | nil => exact h
  | cons c front ih =>
      have hbehind := hhead (List.cons_ne_nil c front)
      refine ⟨?_, head?_colonGlyphs fun _ => hbehind,
        ih (fun d hd => hfront d (List.mem_cons_of_mem c hd)) fun _ => hbehind⟩
      unfold colonGlyph
      split
      · trivial
      · next hc => exact fun hmem => hc (hfront c List.mem_cons_self hmem)

/-- Characters in front stand for themselves. -/
theorem fills_colonGlyphs_iff {L : Text → Prop} {front : Text} {glyphs : List Glyph}
    {values : List Text} {s : Text} :
    Glyph.Fills L (front.map colonGlyph ++ glyphs) values s ↔
      ∃ a t, s = a ++ t ∧ SameFold front a ∧ Glyph.Fills L glyphs values t := by
  induction front generalizing s with
  | nil => exact SameFold.exists_nil_iff.symm
  | cons c front ih =>
      have hfirst : Glyph.Fills L (colonGlyph c :: (front.map colonGlyph ++ glyphs)) values s ↔
          ∃ a t, s = a ++ t ∧ SameFold [c] a ∧
            Glyph.Fills L (front.map colonGlyph ++ glyphs) values t := by
        unfold colonGlyph
        split
        · exact Glyph.fills_escaped_iff
        · exact Glyph.fills_char_iff
      rw [List.map_cons, List.cons_append, hfirst]
      simp only [ih]
      exact SameFold.exists_append_iff.symm

end Wildcard

end RouteMask
