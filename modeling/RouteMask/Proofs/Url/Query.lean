import Mathlib.Data.List.TakeWhile
import RouteMask.Proofs.Text.Cut
import RouteMask.Proofs.Url.Site

/-! # Query and fragment of a URL

Behind the mark of a query or of a fragment nothing is read that belongs to the scheme, the authority or
the path, whatever stands there (`Url.map_bare_parse_append`): the mark is no blank that could be dropped
at the beginning, it stands in no scheme, and it ends the authority.  So the canonical form, which is
made of these parts alone, is that of the text in front of the mark, and so is the error if there is none
(`Url.canonical_append_mark`). -/

namespace RouteMask

namespace Text

variable {p : Char → Bool} {c : Char}

theorem takeWhile_append_stop (hc : p c = false) (s t : Text) :
    (s ++ c :: t).takeWhile p = s.takeWhile p := by
  induction s with
  | nil => simp [hc]
  | cons d s ih => cases hd : p d <;> simp [hd, ih]

theorem dropWhile_append_stop (hc : p c = false) (s t : Text) :
    (s ++ c :: t).dropWhile p = s.dropWhile p ++ c :: t := by
  induction s with
  | nil => simp [hc]
  | cons d s ih => cases hd : p d <;> simp [hd, ih]

/-- Where a text is cut does not depend on what follows. -/
theorem cut?_append_of_eq_some {s a b : Text} (h : cut? p s = some (a, b)) (t : Text) :
    cut? p (s ++ t) = some (a, b ++ t) := by
  obtain ⟨c, rfl, hc, ha⟩ := cut?_eq_some h
  rw [List.append_assoc, List.cons_append, cut?_append_cons ha hc]

end Text

namespace Url

/-- The parts of a URL without its query and its fragment. -/
def bare (u : Url) : Url :=
  { u with query := [], fragment := [] }

section

variable {mark : Char} (hmark : mark = '?' ∨ mark = '#')

include hmark

theorem tidy_append_mark (s rest : Text) :
    tidy (s ++ mark :: rest) =
      tidy s ++ mark :: rest.filter fun c => c != '\t' && c != '\r' && c != '\n' := by
  have hkept : (mark != '\t' && mark != '\r' && mark != '\n') = true := by
    rcases hmark with rfl | rfl <;> rfl
  have hstop : decide (mark.toNat ≤ 0x20) = false := by
    rcases hmark with rfl | rfl <;> rfl
  unfold tidy
  rw [Text.dropWhile_append_stop hstop, List.filter_append, List.filter_cons, if_pos hkept]

/-- A mark stands in no scheme, so one is found in front of it or not at all. -/
theorem splitScheme?_append_mark (s rest : Text) :
    splitScheme? (s ++ mark :: rest) =
      (splitScheme? s).map fun (scheme, behind) => (scheme, behind ++ mark :: rest) := by
  have hcolon : (mark == ':') = false := by rcases hmark with rfl | rfl <;> rfl
  have hchar : isSchemeChar mark = false := by rcases hmark with rfl | rfl <;> decide
  unfold splitScheme?
  cases hcut : Text.cut? (· == ':') s with
  | some parts =>
      obtain ⟨scheme, behind⟩ := parts
      rw [Text.cut?_append_of_eq_some hcut]
      dsimp only
      split <;> rfl
  | none =>
      rw [Text.cut?_append_of_forall (Text.cut?_eq_none_iff.mp hcut), Text.cut?, hcolon]
      cases Text.cut? (· == ':') rest with
      | none => rfl
      | some parts => simp [hchar]

/-- A mark ends the authority. -/
theorem splitAuthority_append_mark (s rest : Text) :
    splitAuthority (s ++ mark :: rest) =
      ((splitAuthority s).1, (splitAuthority s).2 ++ mark :: rest) := by
  have hends : (!endsAuthority mark) = false := by rcases hmark with rfl | rfl <;> rfl
  have hslash : mark ≠ '/' := by rcases hmark with rfl | rfl <;> decide
  match s with
  | [] => simp [splitAuthority, hslash]
  | [c] => simp [splitAuthority, hslash]
  | c :: d :: s =>
    by_cases hslashes : c = '/' ∧ d = '/'
    · obtain ⟨rfl, rfl⟩ := hslashes
      simp only [List.cons_append, splitAuthority]
      rw [Text.takeWhile_append_stop hends, Text.dropWhile_append_stop hends]
    · have hnone : ∀ t : Text, splitAuthority (c :: d :: t) = ([], c :: d :: t) := by
        intro t
        unfold splitAuthority
        split
        · next h =>
            cases h
            exact absurd ⟨rfl, rfl⟩ hslashes
        · rfl
      rw [List.cons_append, List.cons_append, hnone, hnone]
      rfl

/-- A mark ends the path. -/
theorem splitMark_append_mark (s rest : Text) :
    (splitMark '?' (splitMark '#' (s ++ mark :: rest)).1).1 =
      (splitMark '?' (splitMark '#' s).1).1 := by
  have hstop : decide (((mark != '?') = true) ∧ (mark != '#') = true) = false := by
    rcases hmark with rfl | rfl <;> rfl
  simp only [splitMark_fst, List.takeWhile_takeWhile]
  exact Text.takeWhile_append_stop hstop s rest

/-- What stands behind a mark belongs to the query or to the fragment. -/
theorem map_bare_parse_append (scheme s rest : Text) :
    (parse scheme (s ++ mark :: rest)).map bare = (parse scheme s).map bare := by
  unfold parse
  rw [tidy_append_mark hmark]
  generalize rest.filter _ = rest
  generalize tidy s = s
  dsimp only
  have hsplit : (splitScheme? (s ++ mark :: rest)).getD (scheme, s ++ mark :: rest) =
      (((splitScheme? s).getD (scheme, s)).1,
        ((splitScheme? s).getD (scheme, s)).2 ++ mark :: rest) := by
    rw [splitScheme?_append_mark hmark]
    cases splitScheme? s <;> rfl
  rw [hsplit]
  generalize (splitScheme? s).getD (scheme, s) = split
  obtain ⟨scheme, s⟩ := split
  dsimp only
  rw [splitAuthority_append_mark hmark]
  dsimp only [bind, Except.bind]
  cases checkBrackets (splitAuthority s).1 with
  | error e => rfl
  | ok _ =>
      dsimp only
      cases checkHidden (splitAuthority s).1 with
      | error e => rfl
      | ok _ =>
          dsimp only [Except.map, bare]
          rw [splitMark_append_mark hmark]

end

/-- The canonical form is made of the parts without query and fragment. -/
theorem canonical_congr {s t : Text} (h : (parse [] s).map bare = (parse [] t).map bare) :
    canonical s = canonical t := by
  unfold canonical
  cases hs : parse [] s with
  | error e =>
      cases ht : parse [] t with
      | error e' =>
          rw [hs, ht] at h
          obtain rfl := Except.error.inj h
          rfl
      | ok v =>
          rw [hs, ht] at h
          cases h
  | ok u =>
      cases ht : parse [] t with
      | error e =>
          rw [hs, ht] at h
          cases h
      | ok v =>
          rw [hs, ht] at h
          have hbare : u.bare = v.bare := Except.ok.inj h
          obtain ⟨scheme, authority, path, query, fragment⟩ := u
          obtain ⟨scheme', authority', path', query', fragment'⟩ := v
          cases hbare
          rfl

/-- The canonical form of a text, or its error, is that of the text in front of a mark. -/
theorem canonical_append_mark {mark : Char} (hmark : mark = '?' ∨ mark = '#') (s rest : Text) :
    canonical (s ++ mark :: rest) = canonical s :=
  canonical_congr (map_bare_parse_append hmark [] s rest)

end Url

end RouteMask
