import Mathlib.Data.List.DropRight
import RouteMask.Mask.Wildcard
import RouteMask.Template.Lexeme

/-! # Which stars are wildcards

A text that is read run by run, each longest run of stars kept or replaced by what the text in front
of it says and everything else left alone, is `Wildcard.Expands keeps`.

* `Wildcard.OpensWithColon` is the decision that `Wildcard.expand` makes: the word in front of the
  run begins with a colon.
* `Wildcard.EndsInParameter` is the decision that is documented: a named parameter ends at the run,
  as the lexemes of a template have it.

`Wildcard.expands_expand_iff` says that `expand` makes the first decision at every run, and that it
answers as documented for exactly the masks at whose runs the two agree.  They differ where the name
holds a digit, where letters are glued to the front of the colon, where a hyphen follows the name,
and where the colon names nothing. -/

namespace RouteMask.Wildcard

/-! ### Two decisions -/

/-- The longest word at the end of a text. -/
def lastWord (before : Text) : Text :=
  before.rtakeWhile isWordChar

/-- The word at the end of a text begins with a colon. -/
def OpensWithColon (before : Text) : Prop :=
  (lastWord before).head? = some ':'

instance (before : Text) : Decidable (OpensWithColon before) :=
  inferInstanceAs (Decidable (_ = _))

/-- A text ends in the name of a parameter, with its colon. -/
def EndsInParameter (before : Text) : Prop :=
  ∃ front name, before = front ++ ':' :: name ∧ name ≠ [] ∧ ∀ c ∈ name, Lexeme.isNameChar c = true

/-! ### Runs of stars -/

/-- A run of so many stars. -/
def stars (n : Nat) : Text :=
  List.replicate n '*'

/-- In a mask that stands behind `before`, a longest run of stars begins where `front` ends. -/
def BeginsRun (before mask front : Text) : Prop :=
  (∃ rest, mask = front ++ '*' :: rest) ∧ (before ++ front).getLast? ≠ some '*'

/-- `Expands keeps before mask out`: the mask, which stands behind `before`, becomes `out` when a run
of stars is kept where `keeps` holds of all that stands in front of it, and is replaced otherwise. -/
inductive Expands (keeps : Text → Prop) : Text → Text → Text → Prop where
  | done {before : Text} : Expands keeps before [] []
  | char {before rest out : Text} {c : Char} (hc : c ≠ '*')
      (hrest : Expands keeps (before ++ [c]) rest out) : Expands keeps before (c :: rest) (c :: out)
  | kept {before rest out : Text} {n : Nat} (hrest : rest.head? ≠ some '*') (hkeeps : keeps before)
      (hout : Expands keeps (before ++ stars (n + 1)) rest out) :
      Expands keeps before (stars (n + 1) ++ rest) (stars (n + 1) ++ out)
  | replaced {before rest out : Text} {n : Nat} (hrest : rest.head? ≠ some '*')
      (hkeeps : ¬ keeps before) (hout : Expands keeps (before ++ stars (n + 1)) rest out) :
      Expands keeps before (stars (n + 1) ++ rest) (anyText ++ out)

theorem stars_succ (n : Nat) : stars (n + 1) = '*' :: stars n := rfl

theorem exists_stars_append (s : Text) :
    ∃ n rest, s = stars n ++ rest ∧ rest.head? ≠ some '*' := by
  induction s with
  | nil => exact ⟨0, [], rfl, by simp⟩
  | cons c s ih =>
      by_cases hc : c = '*'
      · subst hc
        obtain ⟨n, rest, rfl, hrest⟩ := ih
        exact ⟨n + 1, rest, rfl, hrest⟩
      · exact ⟨0, c :: s, rfl, by simpa using hc⟩

theorem stars_append_inj {n m : Nat} {s t : Text} (hs : s.head? ≠ some '*')
    (ht : t.head? ≠ some '*') (h : stars n ++ s = stars m ++ t) : n = m ∧ s = t := by
  induction n generalizing m with
  | zero =>
      cases m with
      | zero => exact ⟨rfl, h⟩
      | succ m => exact absurd (by rw [show s = _ from h]; rfl) hs
  | succ n ih =>
      cases m with
      | zero => exact absurd (by rw [show t = _ from h.symm]; rfl) ht
      | succ m =>
          obtain ⟨rfl, hst⟩ := ih (List.cons.inj h).2
          exact ⟨rfl, hst⟩

/-! ### The decisions determine the expansion -/

namespace BeginsRun

variable {before mask front : Text}

theorem not_nil : ¬ BeginsRun before [] front := by
  rintro ⟨⟨rest, hrest⟩, -⟩
  simp at hrest

theorem of_cons {c : Char} (hc : c ≠ '*') (h : BeginsRun before (c :: mask) front) :
    ∃ front', front = c :: front' ∧ BeginsRun (before ++ [c]) mask front' := by
  obtain ⟨⟨rest, hrest⟩, hlast⟩ := h
  cases front with
  | nil => exact absurd (List.cons.inj hrest).1 hc
  | cons d front =>
      obtain ⟨rfl, hmask⟩ := List.cons.inj hrest
      exact ⟨front, rfl, ⟨rest, hmask⟩, by simpa using hlast⟩

theorem cons {c : Char} (h : BeginsRun (before ++ [c]) mask front) :
    BeginsRun before (c :: mask) (c :: front) := by
  obtain ⟨⟨rest, rfl⟩, hlast⟩ := h
  exact ⟨⟨rest, rfl⟩, by simpa using hlast⟩

/-- A run that begins at stars is theirs, or begins behind the last of them. -/
theorem of_stars {n : Nat} (h : BeginsRun before (stars n ++ mask) front)
    (hfront : front ≠ []) :
    ∃ front', front = stars n ++ front' ∧ BeginsRun (before ++ stars n) mask front' := by
  induction n generalizing before front with
  | zero => exact ⟨front, rfl, by simpa [stars] using h⟩
  | succ n ih =>
      obtain ⟨⟨rest, hrest⟩, hlast⟩ := h
      cases front with
      | nil => exact absurd rfl hfront
      | cons d front =>
          obtain ⟨rfl, hmask⟩ := List.cons.inj hrest
          have hnonempty : front ≠ [] := by
            rintro rfl
            simp at hlast
          have hbehind : BeginsRun (before ++ ['*']) (stars n ++ mask) front :=
            ⟨⟨rest, hmask⟩, by simpa using hlast⟩
          obtain ⟨front', rfl, h'⟩ := ih hbehind hnonempty
          exact ⟨front', rfl, by simpa [stars_succ] using h'⟩

theorem here {n : Nat} (hbefore : before.getLast? ≠ some '*') :
    BeginsRun before (stars (n + 1) ++ mask) [] :=
  ⟨⟨stars n ++ mask, rfl⟩, by simpa using hbefore⟩

theorem behind {n : Nat} (h : BeginsRun (before ++ stars n) mask front) :
    BeginsRun before (stars n ++ mask) (stars n ++ front) := by
  obtain ⟨⟨rest, rfl⟩, hlast⟩ := h
  exact ⟨⟨rest, by simp⟩, by simpa using hlast⟩

end BeginsRun

theorem stars_append_ne {n : Nat} {s t : Text} : stars (n + 1) ++ s ≠ anyText ++ t := by
  intro h
  exact absurd (List.cons.inj h).1 (by decide)

theorem getLast?_append_ne {before : Text} {c : Char} (hc : c ≠ '*') :
    (before ++ [c]).getLast? ≠ some '*' := by
  simpa using hc

variable {P Q : Text → Prop}

/-- Decisions that agree at every run give the same expansion. -/
theorem Expands.congr {before mask out : Text} (h : Expands P before mask out)
    (hbefore : before.getLast? ≠ some '*' ∨ mask.head? ≠ some '*')
    (hagree : ∀ front, BeginsRun before mask front → (P (before ++ front) ↔ Q (before ++ front))) :
    Expands Q before mask out := by
  induction h with
  | done => exact .done
  | @char before rest out c hc _ ih =>
      refine .char hc (ih (.inl (getLast?_append_ne hc)) fun front hfront => ?_)
      simpa using hagree (c :: front) hfront.cons
  | @kept before rest out n hrest hkeeps _ ih =>
      have hlast : before.getLast? ≠ some '*' := hbefore.resolve_right (by simp [stars_succ])
      have hhere := hagree [] (.here hlast)
      rw [List.append_nil] at hhere
      refine .kept hrest (hhere.mp hkeeps) (ih (.inr hrest) fun front hfront => ?_)
      simpa using hagree (stars (n + 1) ++ front) hfront.behind
  | @replaced before rest out n hrest hkeeps _ ih =>
      have hlast : before.getLast? ≠ some '*' := hbefore.resolve_right (by simp [stars_succ])
      have hhere := hagree [] (.here hlast)
      rw [List.append_nil] at hhere
      refine .replaced hrest (fun hq => hkeeps (hhere.mpr hq)) (ih (.inr hrest) fun front hfront => ?_)
      simpa using hagree (stars (n + 1) ++ front) hfront.behind

/-- What becomes of a run, seen from the expansion. -/
theorem Expands.of_stars {before rest out : Text} {n : Nat} (hrest : rest.head? ≠ some '*')
    (h : Expands P before (stars (n + 1) ++ rest) out) :
    ∃ out', Expands P (before ++ stars (n + 1)) rest out' ∧
      (P before ∧ out = stars (n + 1) ++ out' ∨ ¬ P before ∧ out = anyText ++ out') := by
  generalize hmask : stars (n + 1) ++ rest = mask at h
  cases h with
  | done => simp [stars_succ] at hmask
  | char hc _ => exact absurd (List.cons.inj hmask).1.symm hc
  | kept hrest' hkeeps hout =>
      obtain ⟨hn, rfl⟩ := stars_append_inj hrest hrest' hmask
      obtain rfl := Nat.succ.inj hn
      exact ⟨_, hout, .inl ⟨hkeeps, rfl⟩⟩
  | replaced hrest' hkeeps hout =>
      obtain ⟨hn, rfl⟩ := stars_append_inj hrest hrest' hmask
      obtain rfl := Nat.succ.inj hn
      exact ⟨_, hout, .inr ⟨hkeeps, rfl⟩⟩

/-- What becomes of another character, seen from the expansion. -/
theorem Expands.of_char {before rest out : Text} {c : Char} (hc : c ≠ '*')
    (h : Expands P before (c :: rest) out) :
    ∃ out', out = c :: out' ∧ Expands P (before ++ [c]) rest out' := by
  generalize hmask : c :: rest = mask at h
  cases h with
  | done => cases hmask
  | char hc' hrest =>
      cases hmask
      exact ⟨_, rfl, hrest⟩
  | kept _ _ _ => exact absurd (List.cons.inj hmask).1 hc
  | replaced _ _ _ => exact absurd (List.cons.inj hmask).1 hc

/-- Decisions that give the same expansion agree at every run. -/
theorem Expands.agree {before mask out front : Text} (hP : Expands P before mask out)
    (hQ : Expands Q before mask out) (hfront : BeginsRun before mask front) :
    P (before ++ front) ↔ Q (before ++ front) := by
  induction hP generalizing front with
  | done => exact absurd hfront BeginsRun.not_nil
  | char hc _ ih =>
      obtain ⟨out', hout, hQ'⟩ := hQ.of_char hc
      obtain ⟨front', rfl, hfront'⟩ := hfront.of_cons hc
      simpa using ih ((List.cons.inj hout).2 ▸ hQ') hfront'
  | kept hrest hkeeps _ ih =>
      obtain ⟨out', hQ', ⟨hq, hout⟩ | ⟨-, hout⟩⟩ := hQ.of_stars hrest
      · by_cases hnil : front = []
        · subst hnil
          simp [hkeeps, hq]
        · obtain ⟨front', rfl, hfront'⟩ := hfront.of_stars hnil
          simpa using ih (List.append_cancel_left hout ▸ hQ') hfront'
      · exact absurd hout stars_append_ne
  | replaced hrest hkeeps _ ih =>
      obtain ⟨out', hQ', ⟨-, hout⟩ | ⟨hq, hout⟩⟩ := hQ.of_stars hrest
      · exact absurd hout.symm stars_append_ne
      · by_cases hnil : front = []
        · subst hnil
          simp [hkeeps, hq]
        · obtain ⟨front', rfl, hfront'⟩ := hfront.of_stars hnil
          simpa using ih (List.append_cancel_left hout ▸ hQ') hfront'

/-! ### The decision of the scan -/

theorem lastWord_append {before : Text} (c : Char) :
    lastWord (before ++ [c]) = if isWordChar c then lastWord before ++ [c] else [] :=
  List.rtakeWhile_concat _ _ _

/-- What stands directly behind a text, its last stars aside. -/
def contextOf (before : Text) : Context :=
  match (lastWord before).head? with
  | none => .open
  | some c => if c = ':' then .name else .word

theorem contextOf_append (before : Text) (c : Char) :
    contextOf (before ++ [c]) = Wildcard.behind (contextOf before) c := by
  unfold contextOf Wildcard.behind
  rw [lastWord_append]
  by_cases hc : isWordChar c = true
  · rw [if_pos hc, if_pos hc]
    cases lastWord before with
    | nil => rfl
    | cons d word => by_cases hd : d = ':' <;> simp [hd]
  · rw [if_neg hc, if_neg hc]
    rfl

theorem contextOf_stars (before : Text) (n : Nat) :
    contextOf (before ++ stars (n + 1)) = .open := by
  have hstars : before ++ stars (n + 1) = before ++ stars n ++ ['*'] := by
    rw [stars, List.replicate_succ', List.append_assoc]
    rfl
  rw [hstars, contextOf_append]
  rfl

theorem star_contextOf (before : Text) :
    star (contextOf before) =
      if OpensWithColon before then (['*'], .kept) else (anyText, .replaced) := by
  unfold contextOf
  split
  · next hword =>
      rw [if_neg (by simp [OpensWithColon, hword])]
      rfl
  · next c hword =>
      by_cases hc : c = ':'
      · rw [if_pos hc, if_pos (by simp [OpensWithColon, hword, hc])]
        rfl
      · rw [if_neg hc, if_neg (by simp [OpensWithColon, hword, hc])]
        rfl

theorem expandFrom_kept (n : Nat) (rest : Text) :
    expandFrom .kept (stars n ++ rest) = stars n ++ expandFrom .kept rest := by
  induction n with
  | zero => rfl
  | succ n ih =>
      rw [stars_succ, List.cons_append, expandFrom, if_pos rfl, star, ih]
      rfl

theorem expandFrom_replaced (n : Nat) (rest : Text) :
    expandFrom .replaced (stars n ++ rest) = expandFrom .replaced rest := by
  induction n with
  | zero => rfl
  | succ n ih =>
      rw [stars_succ, List.cons_append, expandFrom, if_pos rfl, star, ih]
      rfl

/-- Behind a run, which of the two it was makes no difference. -/
theorem expandFrom_eq_open {rest : Text} (hrest : rest.head? ≠ some '*') {before : Context}
    (hbefore : before = .kept ∨ before = .replaced) :
    expandFrom before rest = expandFrom .open rest := by
  cases rest with
  | nil => rfl
  | cons c rest =>
      have hc : c ≠ '*' := by simpa using hrest
      rw [expandFrom, if_neg hc, expandFrom, if_neg hc]
      rcases hbefore with rfl | rfl <;> rfl

/-- The scan keeps the runs in front of which the word begins with a colon. -/
theorem expands_expandFrom (before mask : Text) :
    Expands OpensWithColon before mask (expandFrom (contextOf before) mask) := by
  induction hlength : mask.length using Nat.strong_induction_on generalizing before mask with
  | _ length ih =>
      obtain ⟨n, rest, rfl, hrest⟩ := exists_stars_append mask
      cases n with
      | zero =>
          cases rest with
          | nil => exact .done
          | cons c rest =>
              have hc : c ≠ '*' := by simpa using hrest
              rw [show stars 0 ++ c :: rest = c :: rest from rfl, expandFrom, if_neg hc,
                ← contextOf_append]
              exact .char hc (ih rest.length (by simp [← hlength, stars]) _ _ rfl)
      | succ n =>
          have hout := ih rest.length (by simp [← hlength, stars])
            (before ++ stars (n + 1)) rest rfl
          rw [contextOf_stars] at hout
          rw [stars_succ, List.cons_append, expandFrom, if_pos rfl, star_contextOf]
          split
          · next hkeeps =>
              rw [expandFrom_kept, expandFrom_eq_open hrest (.inl rfl)]
              exact .kept hrest hkeeps hout
          · next hkeeps =>
              rw [expandFrom_replaced, expandFrom_eq_open hrest (.inr rfl)]
              exact .replaced hrest hkeeps hout

/-- A run of stars is kept just where the word in front of it begins with a colon.  So a mask becomes
what is documented, with the runs behind a named parameter kept and every other one replaced, if and
only if at each of its runs that word begins with a colon just when a named parameter ends there. -/
theorem expands_expand_iff (mask : Text) :
    Expands OpensWithColon [] mask (expand mask) ∧
      (Expands EndsInParameter [] mask (expand mask) ↔
        ∀ front, BeginsRun [] mask front → (OpensWithColon front ↔ EndsInParameter front)) := by
  have hscan : Expands OpensWithColon [] mask (expand mask) := expands_expandFrom [] mask
  refine ⟨hscan, fun hdocumented front hfront => hscan.agree hdocumented hfront, fun hagree => ?_⟩
  exact hscan.congr (.inl (by simp)) hagree

/-- The digit of a name hides its colon. -/
example : expand "/:id1*".toList = "/:id1(.*)".toList := by decide

/-! ### Runs that modify a parameter -/

theorem expandFrom_append {s : Text} (hs : '*' ∉ s) (before t : Text) :
    expandFrom (contextOf before) (s ++ t) = s ++ expandFrom (contextOf (before ++ s)) t := by
  induction s generalizing before with
  | nil => simp
  | cons c s ih =>
      rw [List.mem_cons, not_or] at hs
      rw [List.cons_append, expandFrom, if_neg fun hc => hs.1 hc.symm, ← contextOf_append, ih hs.2]
      simp

theorem opensWithColon_append {front name : Text} (hfront : lastWord front = [])
    (hname : ∀ c ∈ name, isWordChar c = true) : OpensWithColon (front ++ ':' :: name) := by
  have hword : ∀ c ∈ (':' :: name).reverse, isWordChar c = true := by
    intro c hc
    rw [List.mem_reverse, List.mem_cons] at hc
    rcases hc with rfl | hc
    · rfl
    · exact hname c hc
  have hlast : lastWord (front ++ ':' :: name) = lastWord front ++ ':' :: name := by
    rw [lastWord, List.rtakeWhile, List.reverse_append, List.takeWhile_append_of_pos hword,
      List.reverse_append, List.reverse_reverse]
    rfl
  rw [OpensWithColon, hlast, hfront]
  rfl

/-- A star behind a named parameter is left alone. -/
theorem expand_append_star {front : Text} (hfront : '*' ∉ front) (hopens : OpensWithColon front) :
    expand (front ++ ['*']) = front ++ ['*'] := by
  have hexpand : expand (front ++ ['*']) = expandFrom (contextOf []) (front ++ ['*']) := rfl
  rw [hexpand, expandFrom_append hfront, List.nil_append, expandFrom, if_pos rfl, star_contextOf,
    if_pos hopens]
  rfl

end RouteMask.Wildcard
