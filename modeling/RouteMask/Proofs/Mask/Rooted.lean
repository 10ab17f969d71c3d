import Mathlib.Data.List.Basic
import Mathlib.Data.List.TakeWhile
import RouteMask.Proofs.Url.Dotless
import RouteMask.Proofs.Url.Origin
import RouteMask.Request

/-! # Rooted masks and absolute masks

A mask that begins with a single slash and is resolved against an origin should mean what the mask
with the origin in front means.  Its normal form is the same exactly when the mask survives resolving
(`MaskText.Survives`); then the matchers are the same, or are refused for the same reason
(`Mask.matcher_rooted`).  What does not survive is the mark of an optional parameter at the end of a
mask without a query: resolving takes it for the mark of an empty query. -/

namespace RouteMask

open Percent

namespace MaskText

/-! ### Marks of a mask -/

/-- What stands in front of query and fragment. -/
def path (mask : Text) : Text :=
  mask.takeWhile fun c => c != '?' && c != '#'

/-- What stands between the mark of the query and that of the fragment. -/
def query? (mask : Text) : Option Text :=
  Text.behind? '?' (mask.takeWhile (· != '#'))

/-- What stands behind the mark of the fragment. -/
def fragment? (mask : Text) : Option Text :=
  Text.behind? '#' mask

theorem path_eq (mask : Text) :
    path mask = (mask.takeWhile (· != '#')).takeWhile (· != '?') := by
  simp only [List.takeWhile_takeWhile, path, Bool.decide_and, Bool.decide_eq_true]

/-- A mask is its path and the parts behind their marks. -/
theorem path_append_parts (mask : Text) :
    path mask ++ (Text.part '?' (query? mask) ++ Text.part '#' (fragment? mask)) = mask := by
  rw [path_eq, ← List.append_assoc, query?, Text.takeWhile_append_part, fragment?,
    Text.takeWhile_append_part]

/-- A part that is not empty. -/
def nonempty? : Option Text → Option Text
  | some (c :: t) => some (c :: t)
  | _ => none

theorem renderPart_getD (mark : Char) (t : Option Text) :
    Url.renderPart mark (t.getD []) = Text.part mark (nonempty? t) := by
  rcases t with _ | _ | ⟨c, t⟩ <;> rfl

theorem splitMark_snd (mark : Char) (s : Text) :
    (Url.splitMark mark s).2 = (Text.behind? mark s).getD [] := by
  unfold Url.splitMark Text.behind?
  cases Text.cut? (· == mark) s <;> rfl

/-- Resolving puts the path of a mask behind the origin, and the parts that are not empty. -/
theorem rejoin_eq (mask : Text) :
    Url.rejoin mask = Url.rejoinPath (path mask) ++
      (Text.part '?' (nonempty? (query? mask)) ++ Text.part '#' (nonempty? (fragment? mask))) := by
  unfold Url.rejoin
  dsimp only
  rw [splitMark_snd, splitMark_snd, renderPart_getD, renderPart_getD,
    Url.splitMark_fst, Url.splitMark_fst, ← path_eq]
  rfl

section Parts

variable {a : Text} (ha : ∀ c ∈ a, c ≠ '?' ∧ c ≠ '#')
include ha

theorem path_append (query fragment : Option Text) :
    path (a ++ (Text.part '?' query ++ Text.part '#' fragment)) = a := by
  have hall : ∀ c ∈ a, (c != '?' && c != '#') = true := fun c hc => by
    simpa using ha c hc
  rw [path, List.takeWhile_append_of_pos hall]
  cases query with
  | some q => simp [Text.part]
  | none => cases fragment <;> simp [Text.part]

theorem withoutQuery_parts (query fragment : Option Text) :
    withoutQuery (a ++ (Text.part '?' query ++ Text.part '#' fragment)) =
      if (a ++ (Text.part '?' query ++ Text.part '#' fragment)).getLast? = some '?' then
        a ++ (Text.part '?' query ++ Text.part '#' fragment)
      else a := by
  have hpath := path_append ha query fragment
  unfold path at hpath
  rw [withoutQuery, hpath]

theorem getLast?_ne : a.getLast? ≠ some '?' := fun h => (ha '?' (List.mem_of_getLast? h)).1 rfl

/-- Leaving out the marks of empty parts makes a difference for two of them. -/
theorem withoutQuery_nonempty_eq_iff (query fragment : Option Text) :
    withoutQuery (a ++ (Text.part '?' (nonempty? query) ++ Text.part '#' (nonempty? fragment))) =
        withoutQuery (a ++ (Text.part '?' query ++ Text.part '#' fragment)) ↔
      ((a ++ (Text.part '?' query ++ Text.part '#' fragment)).getLast? = some '?' →
          query ≠ some []) ∧
        (fragment = some [] → query.bind List.getLast? ≠ some '?') := by
  have hlast := getLast?_ne ha
  rw [withoutQuery_parts ha, withoutQuery_parts ha]
  rcases query with _ | _ | ⟨c, q⟩
  · rcases fragment with _ | _ | ⟨d, f⟩
    · simp [nonempty?]
    · simp [nonempty?, Text.part]
    · simp [nonempty?]
  · rcases fragment with _ | _ | ⟨d, f⟩
    · simp [nonempty?, Text.part]
    · simp [nonempty?, Text.part]
    · -- The mark of the empty query matters when the fragment ends in a question mark.
      by_cases hend : (d :: f).getLast? = some '?'
      · simp [nonempty?, Text.part, hend]
      · simp [nonempty?, Text.part, hend]
  · rcases fragment with _ | _ | ⟨d, f⟩
    · simp [nonempty?]
    · -- The mark of the empty fragment matters when the query ends in a question mark.
      have hmark : ((c :: q) ++ ['#']).getLast? = some '#' := List.getLast?_concat
      rw [List.cons_append] at hmark
      by_cases hend : (c :: q).getLast? = some '?'
      · simp [nonempty?, Text.part, hmark, hend]
      · simp [nonempty?, Text.part, hmark, hend]
    · simp [nonempty?]

end Parts

theorem ne_of_mem_path {mask : Text} {c : Char} (h : c ∈ path mask) : c ≠ '?' ∧ c ≠ '#' := by
  have := List.all_eq_true.mp List.all_takeWhile c h
  simpa using this

theorem head?_path {mask : Text} (h : mask.head? = some '/') : (path mask).head? = some '/' := by
  obtain ⟨rest, rfl⟩ := List.head?_eq_some_iff.mp h
  rfl

theorem path_withoutQuery (mask : Text) : path (withoutQuery mask) = path mask := by
  unfold withoutQuery path
  split
  · rfl
  · rw [List.takeWhile_takeWhile]
    simp only [and_self, Bool.decide_eq_true]

theorem head?_withoutQuery {mask : Text} (h : mask.head? = some '/') :
    (withoutQuery mask).head? = some '/' := by
  unfold withoutQuery
  split
  · exact h
  · exact head?_path h

theorem withoutQuery_append {a mask : Text} (ha : ∀ c ∈ a, c ≠ '?' ∧ c ≠ '#') (h : mask ≠ []) :
    withoutQuery (a ++ mask) = a ++ withoutQuery mask := by
  have hall : ∀ c ∈ a, (c != '?' && c != '#') = true := fun c hc => by
    simpa using ha c hc
  unfold withoutQuery
  rw [List.getLast?_append_of_ne_nil a h, List.takeWhile_append_of_pos hall]
  split
  · rfl
  · rfl

/-! ### Masks that survive resolving -/

/-- The normal form of a rooted mask does not depend on whether the origin comes from a base. -/
structure Survives (mask : Text) : Prop where
  keepsParameters : Url.KeepsParameters (path mask)
  /-- The question mark at the end is not that of an empty query. -/
  query_ne : mask.getLast? = some '?' → query? mask ≠ some []
  /-- The question mark in front of an empty fragment does not come to the end. -/
  fragment_ne : fragment? mask = some [] → (query? mask).bind List.getLast? ≠ some '?'

theorem survives_iff {mask : Text} :
    Survives mask ↔ Url.KeepsParameters (path mask) ∧
      (mask.getLast? = some '?' → query? mask ≠ some []) ∧
        (fragment? mask = some [] → (query? mask).bind List.getLast? ≠ some '?') :=
  ⟨fun h => ⟨h.keepsParameters, h.query_ne, h.fragment_ne⟩, fun ⟨hp, hq, hf⟩ => ⟨hp, hq, hf⟩⟩

instance (mask : Text) : Decidable (Survives mask) :=
  decidable_of_iff _ survives_iff.symm

theorem withoutQuery_rejoin_eq_iff {mask : Text} (h : mask.head? = some '/')
    (hdots : Url.IsDotless (path mask)) :
    withoutQuery (Url.rejoin mask) = withoutQuery mask ↔ Survives mask := by
  have hroot := head?_path h
  have hmarks : ∀ c ∈ Url.rejoinPath (path mask), c ≠ '?' ∧ c ≠ '#' := by
    intro c hc
    constructor
    · rintro rfl
      exact (ne_of_mem_path (Url.of_mem_rejoinPath (by decide) (by decide) hroot hc)).1 rfl
    · rintro rfl
      exact (ne_of_mem_path (Url.of_mem_rejoinPath (by decide) (by decide) hroot hc)).2 rfl
  have hpath : path (Url.rejoin mask) = Url.rejoinPath (path mask) := by
    rw [rejoin_eq, path_append hmarks]
  have hiff : Url.rejoinPath (path mask) = path mask →
      (withoutQuery (Url.rejoin mask) = withoutQuery mask ↔
        (mask.getLast? = some '?' → query? mask ≠ some []) ∧
          (fragment? mask = some [] → (query? mask).bind List.getLast? ≠ some '?')) := by
    intro hself
    have hmem : ∀ c ∈ path mask, c ≠ '?' ∧ c ≠ '#' := fun c => ne_of_mem_path
    have hparts := withoutQuery_nonempty_eq_iff hmem (query? mask) (fragment? mask)
    rwa [path_append_parts, ← hself, ← rejoin_eq] at hparts
  rw [survives_iff]
  constructor
  · intro heq
    have hself : Url.rejoinPath (path mask) = path mask := by
      rw [← hpath, ← path_withoutQuery, heq, path_withoutQuery]
    exact ⟨(Url.rejoinPath_eq_self_iff hroot hdots).mp hself, (hiff hself).mp heq⟩
  · rintro ⟨hparameters, hrest⟩
    exact (hiff ((Url.rejoinPath_eq_self_iff hroot hdots).mpr hparameters)).mpr hrest

end MaskText

/-! ### Decoding an origin -/

namespace Percent

theorem count_decodeUnreserved {c : Char} (h : reserved c.toNat = true) (s : Text) :
    (decodeUnreserved s).count c = s.count c := by
  have hfilter : ∀ t : Text, (t.filter (reserved ·.toNat)).count c = t.count c := fun t =>
    List.count_filter h
  rw [← hfilter, filter_decodeUnreserved, hfilter]

theorem mem_decodeUnreserved_iff {c : Char} (h : reserved c.toNat = true) {s : Text} :
    c ∈ decodeUnreserved s ↔ c ∈ s := by
  rw [← List.count_pos_iff, count_decodeUnreserved h, List.count_pos_iff]

end Percent

/-! ### Masks behind an origin -/

namespace MaskText

section Rooted

variable {base scheme authority mask : Text} (hbase : Url.IsOrigin base scheme authority)
  (hmask : IsRooted mask)
include hbase hmask

theorem normalize_rooted :
    normalize mask (some base) =
      .ok (decodeUnreserved base ++ withoutQuery (Url.rejoin mask)) := by
  have hmarks : ∀ c ∈ decodeUnreserved base, c ≠ '?' ∧ c ≠ '#' := by
    intro c hc
    constructor
    · rintro rfl
      exact (hbase.ne_of_mem ((mem_decodeUnreserved_iff (by decide)).mp hc)).1 rfl
    · rintro rfl
      exact (hbase.ne_of_mem ((mem_decodeUnreserved_iff (by decide)).mp hc)).2 rfl
  have hne : Url.rejoin mask ≠ [] := by
    intro hnil
    have := Url.head?_rejoin mask
    rw [hnil] at this
    cases this
  rw [normalize, absolute_rooted hbase hmask, Except.map, withoutQuery_append hmarks hne]

theorem normalize_absolute :
    normalize (base ++ mask) none = .ok (base ++ withoutQuery mask) := by
  have hne : mask ≠ [] := by
    rintro rfl
    cases hmask.1
  have habsolute : absolute (base ++ mask) none = .ok (base ++ mask) := by
    rw [absolute, isAbsolute_of_isOrigin hbase]
    rfl
  rw [normalize, habsolute, Except.map, withoutQuery_append (fun c hc => hbase.ne_of_mem hc) hne]

theorem normalize_rooted_eq_iff (hdots : Url.IsDotless (path mask)) :
    normalize mask (some base) = normalize (base ++ mask) none ↔
      decodeUnreserved base = base ∧ Survives mask := by
  rw [normalize_rooted hbase hmask, normalize_absolute hbase hmask, Except.ok.injEq,
    ← withoutQuery_rejoin_eq_iff hmask.1 hdots]
  constructor
  · intro heq
    -- Decoding leaves the slashes of an origin alone, so it ends at the same one.
    exact Text.append_inj_of_count_eq (count_decodeUnreserved (by decide) base)
      (head?_withoutQuery (Url.head?_rejoin mask)) (head?_withoutQuery hmask.1) heq
  · rintro ⟨hdecode, heq⟩
    rw [hdecode, heq]

end Rooted

end MaskText

namespace Mask

open MaskText

/-- A rooted mask has the same normal form with an origin as its base as with the origin in front
exactly when it survives resolving and the origin has no escapes to decode.  Then it is compiled to the
same matcher, or not at all for the same reason. -/
theorem matcher_rooted {base scheme authority mask : Text}
    (hbase : Url.IsOrigin base scheme authority) (hmask : IsRooted mask)
    (hdots : Url.IsDotless (path mask)) :
    (MaskText.normalize mask (some base) = MaskText.normalize (base ++ mask) none ↔
        decodeUnreserved base = base ∧ Survives mask) ∧
      (decodeUnreserved base = base → Survives mask →
        Mask.matcher (some base) (.text mask) = Mask.matcher none (.text (base ++ mask))) := by
  have hiff := normalize_rooted_eq_iff hbase hmask hdots
  refine ⟨hiff, fun hdecode hsurvives => ?_⟩
  have hnormal : (Mask.text mask).normalize (some base) = (Mask.text (base ++ mask)).normalize none :=
    congrArg (Except.map text) (hiff.mpr ⟨hdecode, hsurvives⟩)
  have hprepare : (Mask.text mask).prepare (some base) = (Mask.text (base ++ mask)).prepare none := by
    rw [prepare, hnormal, prepare]
  rw [matcher, hprepare, matcher]

/-- The question mark of an optional parameter at the end is lost on the way; escapes, blanks and
parameters of the path are not. -/
theorem matcher_rooted_optional_parameter :
    let base := "https://api.example.com".toList
    MaskText.normalize "/user/:id?".toList (some base) ≠
        MaskText.normalize (base ++ "/user/:id?".toList) none ∧
      (Mask.matcher (some base) (.text "/user/:id?".toList)).toOption.map
          (·.keys.map (·.modifier)) = some [[]] ∧
      (Mask.matcher none (.text (base ++ "/user/:id?".toList))).toOption.map
          (·.keys.map (·.modifier)) = some [['?']] ∧
      Mask.matcher (some base) (.text "/%7E a/ü;v=1/:id".toList) =
        Mask.matcher none (.text (base ++ "/%7E a/ü;v=1/:id".toList)) := by
  intro base
  have hbase : Url.IsOrigin base "https".toList "api.example.com".toList :=
    ⟨.inr rfl, by decide, rfl, by decide +kernel⟩
  have hoptional : IsRooted "/user/:id?".toList := by decide
  have hescapes : IsRooted "/%7E a/ü;v=1/:id".toList := by decide
  refine ⟨fun heq => ?_, by decide +kernel, by decide +kernel, ?_⟩
  · exact absurd ((matcher_rooted hbase hoptional (by decide)).1.mp heq).2 (by decide)
  · exact (matcher_rooted hbase hescapes (by decide)).2 (by decide +kernel) (by decide)

end Mask

end RouteMask
