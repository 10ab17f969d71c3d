import Mathlib.Data.List.TakeWhile
import RouteMask.Proofs.Result
import RouteMask.Template.Lexeme

/-! # What a template is cut into

Written one after the other, the lexemes of a template are the template again, and each of them says
where it begins.  `Lexeme.AreCut` adds what a lexeme of each kind may hold: a name is as long as it can
be, and in a pattern the parentheses are balanced and mark their groups as groups that do not capture.
A backslash and the character behind it count for nothing there (`Text.signs`).

* `Lexeme.readPattern_eq_ok_iff`: a pattern ends where its groups are closed.
* `Lexeme.next_eq_ok_iff`: what one lexeme is.
* `Lexeme.scan_eq_ok_iff`: a template is cut in the one way that `Lexeme.AreCut` describes, or not at
  all. -/

namespace RouteMask

/-! ### Parentheses -/

/-- The text without its escaped characters: each of them leaves a gap, and all others stand for
themselves. -/
def Text.signs : Text → List (Option Char)
  | '\\' :: _ :: rest => none :: signs rest
  | c :: rest => some c :: signs rest
  | [] => []

namespace Text

theorem signs_cons_of_ne {c : Char} (h : c ≠ '\\') (s : Text) :
    signs (c :: s) = some c :: signs s := by
  rw [signs]
  exact fun _ _ heq => absurd heq h

theorem head?_signs_iff {s : Text} {c : Char} (h : c ≠ '\\') :
    (signs s).head? = some (some c) ↔ s.head? = some c := by
  unfold signs
  split
  · simp [Ne.symm h]
  · simp
  · simp

end Text

namespace Lexeme

variable {signs : List (Option Char)} {depth : Nat}

/-- Behind `depth` open groups the parentheses are balanced: in the end all groups are closed, and never
one that is not open. -/
structure IsBalanced (depth : Nat) (signs : List (Option Char)) : Prop where
  count_eq : signs.count (some ')') = signs.count (some '(') + depth
  count_le : ∀ front, front <+: signs → front.count (some ')') ≤ front.count (some '(') + depth

/-- Behind each opening parenthesis stands a question mark. -/
def AreMarked (signs : List (Option Char)) : Prop :=
  ∀ front rest, signs = front ++ some '(' :: rest → rest.head? = some (some '?')

theorem forall_prefix_cons_iff {P : List (Option Char) → Prop} {a : Option Char} :
    (∀ front, front <+: a :: signs → P front) ↔ P [] ∧ ∀ front, front <+: signs → P (a :: front) := by
  constructor
  · intro h
    exact ⟨h [] List.nil_prefix, fun front hfront => h _ ((List.prefix_cons_inj a).mpr hfront)⟩
  · rintro ⟨hnil, hcons⟩ front hfront
    rcases List.prefix_cons_iff.mp hfront with rfl | ⟨inner, rfl, hinner⟩
    · exact hnil
    · exact hcons inner hinner

theorem isBalanced_iff :
    IsBalanced depth signs ↔ signs.count (some ')') = signs.count (some '(') + depth ∧
      ∀ front, front <+: signs → front.count (some ')') ≤ front.count (some '(') + depth :=
  ⟨fun h => ⟨h.count_eq, h.count_le⟩, fun h => ⟨h.1, h.2⟩⟩

theorem isBalanced_nil_iff : IsBalanced depth [] ↔ depth = 0 := by
  simp [isBalanced_iff, eq_comm]

theorem isBalanced_cons_iff {a : Option Char} (hopen : a ≠ some '(') (hclose : a ≠ some ')') :
    IsBalanced depth (a :: signs) ↔ IsBalanced depth signs := by
  simp [isBalanced_iff, forall_prefix_cons_iff, hopen, hclose]

theorem isBalanced_open_iff :
    IsBalanced depth (some '(' :: signs) ↔ IsBalanced (depth + 1) signs := by
  simp [isBalanced_iff, forall_prefix_cons_iff, Nat.add_assoc, Nat.add_comm 1]

theorem isBalanced_close_iff :
    IsBalanced (depth + 1) (some ')' :: signs) ↔ IsBalanced depth signs := by
  simp [isBalanced_iff, forall_prefix_cons_iff, ← Nat.add_assoc]

theorem not_isBalanced_close : ¬ IsBalanced 0 (some ')' :: signs) := by
  intro h
  simpa using h.count_le [some ')'] ⟨signs, rfl⟩

theorem areMarked_cons_iff {a : Option Char} :
    AreMarked (a :: signs) ↔ (a = some '(' → signs.head? = some (some '?')) ∧ AreMarked signs := by
  constructor
  · intro h
    refine ⟨fun ha => h [] signs (by rw [ha]; rfl), fun front rest hrest => ?_⟩
    exact h (a :: front) rest (by rw [hrest]; rfl)
  · rintro ⟨hfirst, hrest⟩ front rest heq
    cases front with
    | nil =>
        cases heq
        exact hfirst rfl
    | cons b front => exact hrest front rest (List.cons.inj heq).2

/-! ### Patterns -/

/-- Behind `depth` open groups the text closes all of them and none besides.  Groups that it opens do
not capture. -/
inductive Closes : (depth : Nat) → Text → Prop where
  | nil : Closes 0 []
  | escaped {depth : Nat} {s : Text} (c : Char) : Closes depth s → Closes depth ('\\' :: c :: s)
  | opening {depth : Nat} {s : Text} : s.head? = some '?' → Closes (depth + 1) s →
      Closes depth ('(' :: s)
  | closing {depth : Nat} {s : Text} : Closes depth s → Closes (depth + 1) (')' :: s)
  | plain {depth : Nat} {s : Text} {c : Char} : c ≠ '\\' → c ≠ '(' → c ≠ ')' → Closes depth s →
      Closes depth (c :: s)

theorem closes_iff {v : Text} :
    Closes depth v ↔ some '\\' ∉ v.signs ∧ IsBalanced depth v.signs ∧ AreMarked v.signs := by
  constructor
  · intro h
    induction h with
    | nil => exact ⟨List.not_mem_nil, isBalanced_nil_iff.mpr rfl, by simp [AreMarked, Text.signs]⟩
    | escaped c _ ih =>
        obtain ⟨hwhole, hbalanced, hmarked⟩ := ih
        rw [Text.signs]
        exact ⟨by simpa using hwhole, (isBalanced_cons_iff (by simp) (by simp)).mpr hbalanced,
          areMarked_cons_iff.mpr ⟨by simp, hmarked⟩⟩
    | opening hhead _ ih =>
        obtain ⟨hwhole, hbalanced, hmarked⟩ := ih
        rw [Text.signs_cons_of_ne (by decide)]
        exact ⟨by simpa using hwhole, isBalanced_open_iff.mpr hbalanced,
          areMarked_cons_iff.mpr ⟨fun _ => (Text.head?_signs_iff (by decide)).mpr hhead, hmarked⟩⟩
    | closing _ ih =>
        obtain ⟨hwhole, hbalanced, hmarked⟩ := ih
        rw [Text.signs_cons_of_ne (by decide)]
        exact ⟨by simpa using hwhole, isBalanced_close_iff.mpr hbalanced,
          areMarked_cons_iff.mpr ⟨by simp, hmarked⟩⟩
    | plain hslash hopen hclose _ ih =>
        obtain ⟨hwhole, hbalanced, hmarked⟩ := ih
        rw [Text.signs_cons_of_ne hslash]
        exact ⟨by simpa [Ne.symm hslash] using hwhole,
          (isBalanced_cons_iff (by simpa) (by simpa)).mpr hbalanced,
          areMarked_cons_iff.mpr ⟨by simp [hopen], hmarked⟩⟩
  · rintro ⟨hwhole, hbalanced, hmarked⟩
    fun_induction Text.signs v generalizing depth with
    | case1 c rest ih =>
        exact .escaped c (ih (by simpa using hwhole)
          ((isBalanced_cons_iff (by simp) (by simp)).mp hbalanced) (areMarked_cons_iff.mp hmarked).2)
    | case2 c rest _ ih =>
        obtain ⟨hslash, hrest⟩ := not_or.mp fun h => hwhole (List.mem_cons.mpr h)
        obtain ⟨hfirst, hmore⟩ := areMarked_cons_iff.mp hmarked
        by_cases hopen : c = '('
        · subst hopen
          exact .opening ((Text.head?_signs_iff (by decide)).mp (hfirst rfl))
            (ih hrest (isBalanced_open_iff.mp hbalanced) hmore)
        by_cases hclose : c = ')'
        · subst hclose
          cases depth with
          | zero => exact absurd hbalanced not_isBalanced_close
          | succ depth => exact .closing (ih hrest (isBalanced_close_iff.mp hbalanced) hmore)
        · exact .plain (fun h => hslash (congrArg some h.symm)) hopen hclose
            (ih hrest ((isBalanced_cons_iff (by simpa) (by simpa)).mp hbalanced) hmore)
    | case3 =>
        obtain rfl := isBalanced_nil_iff.mp hbalanced
        exact .nil

theorem prepend_eq_ok_iff {s v rest : Text} {x : Except ScanError (Text × Text)} :
    prepend s x = .ok (v, rest) ↔ ∃ found, x = .ok (found, rest) ∧ v = s ++ found := by
  cases x with
  | error e => simp [prepend, Except.map]
  | ok found =>
      constructor
      · intro h
        cases h
        exact ⟨found.1, rfl, rfl⟩
      · rintro ⟨text, h, rfl⟩
        cases h
        rfl

/-- A pattern ends where its groups are closed. -/
theorem readPattern_eq_ok_iff {start index : Nat} {s v rest : Text} :
    readPattern start depth index s = .ok (v, rest) ↔ s = v ++ ')' :: rest ∧ Closes depth v := by
  constructor
  · intro h
    fun_induction readPattern start depth index s generalizing v with
    | case1 => cases h
    | case2 depth index c s ih =>
        obtain ⟨found, hread, rfl⟩ := prepend_eq_ok_iff.mp h
        obtain ⟨rfl, hcloses⟩ := ih hread
        exact ⟨rfl, .escaped c hcloses⟩
    | case3 => cases h; exact ⟨rfl, .nil⟩
    | case4 depth index s ih =>
        obtain ⟨found, hread, rfl⟩ := prepend_eq_ok_iff.mp h
        obtain ⟨rfl, hcloses⟩ := ih hread
        exact ⟨rfl, .closing hcloses⟩
    | case5 depth index s hmark ih =>
        obtain ⟨found, hread, rfl⟩ := prepend_eq_ok_iff.mp h
        obtain ⟨rfl, hcloses⟩ := ih hread
        refine ⟨rfl, .opening ?_ hcloses⟩
        cases found with
        | nil => cases hmark
        | cons c found => exact hmark
    | case6 => cases h
    | case7 depth index c s hslash hclose hclose' hopen ih =>
        obtain ⟨found, hread, rfl⟩ := prepend_eq_ok_iff.mp h
        obtain ⟨rfl, hcloses⟩ := ih hread
        refine ⟨rfl, .plain ?_ ?_ ?_ hcloses⟩
        · intro hc
          cases found with
          | nil => exact hslash _ _ hc rfl
          | cons d found => exact hslash _ _ hc rfl
        · exact hopen
        · intro hc
          cases depth with
          | zero => exact hclose rfl hc
          | succ depth => exact hclose' depth rfl hc
  · rintro ⟨rfl, hcloses⟩
    induction hcloses generalizing index with
    | nil => rfl
    | escaped c _ ih => exact prepend_eq_ok_iff.mpr ⟨_, ih, rfl⟩
    | @opening depth s hhead _ ih =>
        have hmark : (s ++ ')' :: rest).head? = some '?' := by
          rw [List.head?_append, hhead]
          rfl
        rw [List.cons_append, readPattern, if_pos hmark]
        exact prepend_eq_ok_iff.mpr ⟨_, ih, rfl⟩
    | closing _ ih => exact prepend_eq_ok_iff.mpr ⟨_, ih, rfl⟩
    | plain hslash hopen hclose _ ih =>
        rw [List.cons_append, readPattern]
        · exact prepend_eq_ok_iff.mpr ⟨_, ih, rfl⟩
        · exact fun _ _ h => absurd h hslash
        · exact hopen
        · exact fun _ h => absurd h hclose
        · exact fun _ _ h => absurd h hclose

/-- What may stand in the parentheses of a pattern. -/
structure IsPattern (v : Text) : Prop where
  ne_nil : v ≠ []
  head?_ne : v.head? ≠ some '?'
  /-- No backslash is left alone at the end. -/
  whole : some '\\' ∉ v.signs
  balanced : IsBalanced 0 v.signs
  marked : AreMarked v.signs

theorem readGroup_eq_ok_iff {start : Nat} {body v rest : Text} :
    readGroup start body = .ok (v, rest) ↔ body = v ++ ')' :: rest ∧ IsPattern v := by
  have hhead : v ≠ [] → body = v ++ ')' :: rest → body.head? = v.head? := by
    rintro hne rfl
    obtain ⟨c, v, rfl⟩ := List.exists_cons_of_ne_nil hne
    rfl
  constructor
  · intro h
    unfold readGroup at h
    split at h
    · cases h
    · next hmark =>
        split at h
        · cases h
        · cases h
        · next found hne hread =>
            cases h
            obtain ⟨hbody, hcloses⟩ := readPattern_eq_ok_iff.mp hread
            obtain ⟨hwhole, hbalanced, hmarked⟩ := closes_iff.mp hcloses
            have hv : v ≠ [] := by rintro rfl; exact hne rest rfl
            exact ⟨hbody, hv, hhead hv hbody ▸ hmark, hwhole, hbalanced, hmarked⟩
  · rintro ⟨hbody, hv, hmark, hwhole, hbalanced, hmarked⟩
    have hread : readPattern start 0 (start + 1) body = .ok (v, rest) :=
      readPattern_eq_ok_iff.mpr ⟨hbody, closes_iff.mpr ⟨hwhole, hbalanced, hmarked⟩⟩
    rw [readGroup, if_neg (hhead hv hbody ▸ hmark), hread]
    obtain ⟨c, v, rfl⟩ := List.exists_cons_of_ne_nil hv
    rfl

/-! ### One lexeme -/

/-- What a lexeme of each kind holds. -/
def HasValue : LexemeKind → Text → Prop
  | .openBrace, v => v = ['\x7b']
  | .closeBrace, v => v = ['\x7d']
  | .pattern, v => IsPattern v
  | .name, v => v ≠ [] ∧ ∀ c ∈ v, isNameChar c = true
  | .char, v => ∃ c, v = [c] ∧ c ∉ "\\:*+?(\x7b\x7d".toList
  | .escapedChar, v => ∃ c, v = [c]
  | .modifier, v => v = ['*'] ∨ v = ['+'] ∨ v = ['?']
  | .finish, v => v = []

/-- A lexeme takes all that belongs to it, which means that no name goes on behind it. -/
def EndsBefore (l : Lexeme) (rest : Text) : Prop :=
  l.kind = .name → ∀ c ∈ rest.head?, isNameChar c = false

theorem next_eq_ok_iff {index : Nat} {c : Char} {s rest : Text} {l : Lexeme} :
    next index c s = .ok (l, rest) ↔
      c :: s = l.written ++ rest ∧ l.index = index ∧ l.kind ≠ .finish ∧ HasValue l.kind l.value ∧
        l.EndsBefore rest := by
  constructor
  · intro h
    unfold next at h
    split at h
    · cases h; exact ⟨rfl, rfl, nofun, .inl rfl, nofun⟩
    · cases h; exact ⟨rfl, rfl, nofun, .inr (.inl rfl), nofun⟩
    · cases h; exact ⟨rfl, rfl, nofun, .inr (.inr rfl), nofun⟩
    · split at h
      · cases h; exact ⟨rfl, rfl, nofun, ⟨_, rfl⟩, nofun⟩
      · cases h
    · cases h; exact ⟨rfl, rfl, nofun, rfl, nofun⟩
    · cases h; exact ⟨rfl, rfl, nofun, rfl, nofun⟩
    · split at h
      · cases h
      · next hname =>
          cases h
          refine ⟨?_, rfl, nofun, ⟨hname, fun c hc => List.mem_takeWhile_imp hc⟩, fun _ c hc => ?_⟩
          · exact congrArg _ List.takeWhile_append_dropWhile.symm
          · have hnot := List.head?_dropWhile_not isNameChar s
            rw [Option.mem_def.mp hc] at hnot
            exact hnot
    · split at h
      · next hgroup =>
          cases h
          obtain ⟨rfl, hpattern⟩ := readGroup_eq_ok_iff.mp hgroup
          exact ⟨by simp [written], rfl, nofun, hpattern, nofun⟩
      · cases h
    · next hstar hplus hmark hslash hopen hclose hcolon hparen =>
        cases h
        refine ⟨rfl, rfl, nofun, ⟨_, rfl, ?_⟩, nofun⟩
        simp only [String.reduceToList, List.mem_cons, List.not_mem_nil, or_false, not_or]
        exact ⟨hslash, hcolon, hstar, hplus, hmark, hparen, hopen, hclose⟩
  · obtain ⟨kind, i, v⟩ := l
    rintro ⟨htext, rfl, hkind, hvalue, hends⟩
    cases kind with
    | openBrace => obtain rfl := hvalue; cases htext; rfl
    | closeBrace => obtain rfl := hvalue; cases htext; rfl
    | pattern =>
        obtain ⟨rfl, rfl⟩ : c = '(' ∧ s = v ++ ')' :: rest := by simpa [written] using htext
        have hread : readGroup i (v ++ ')' :: rest) = .ok (v, rest) :=
          readGroup_eq_ok_iff.mpr ⟨rfl, hvalue⟩
        simp only [next, hread]
    | name =>
        obtain ⟨rfl, rfl⟩ : c = ':' ∧ s = v ++ rest := by simpa [written] using htext
        have hstop : rest.takeWhile isNameChar = [] ∧ rest.dropWhile isNameChar = rest := by
          cases rest with
          | nil => exact ⟨rfl, rfl⟩
          | cons d rest => simp [hends rfl d rfl]
        obtain ⟨hne, hname⟩ := hvalue
        obtain ⟨d, v, rfl⟩ := List.exists_cons_of_ne_nil hne
        simp only [next]
        rw [List.takeWhile_append_of_pos hname, List.dropWhile_append_of_pos hname, hstop.1, hstop.2,
          List.append_nil]
    | char =>
        obtain ⟨d, rfl, hd⟩ := hvalue
        cases htext
        unfold next
        split <;> first | rfl | exact absurd (by decide) hd
    | escapedChar => obtain ⟨d, rfl⟩ := hvalue; cases htext; rfl
    | modifier => rcases hvalue with rfl | rfl | rfl <;> cases htext <;> rfl
    | finish => exact absurd rfl hkind

/-! ### All lexemes -/

/-- The lexemes are those of a text that begins at the index `start`. -/
structure AreCut (start : Nat) (s : Text) (lexemes : List Lexeme) : Prop where
  written_eq : lexemes.flatMap written = s
  index_eq : ∀ front l rest, lexemes = front ++ l :: rest →
    l.index = start + (front.flatMap written).length
  hasValue : ∀ l ∈ lexemes, HasValue l.kind l.value
  endsBefore : ∀ front l rest, lexemes = front ++ l :: rest → l.EndsBefore (rest.flatMap written)
  finish : ∃ front, lexemes = front ++ [⟨.finish, start + s.length, []⟩] ∧
    ∀ l ∈ front, l.kind ≠ .finish

/-- Nothing but the end mark is empty. -/
theorem value_ne_nil {l : Lexeme} (hvalue : HasValue l.kind l.value) (hkind : l.kind ≠ .finish) :
    l.value ≠ [] := by
  obtain ⟨kind, index, v⟩ := l
  cases kind with
  | openBrace => obtain rfl := hvalue; exact nofun
  | closeBrace => obtain rfl := hvalue; exact nofun
  | pattern => exact hvalue.ne_nil
  | name => exact hvalue.1
  | char => obtain ⟨c, rfl, -⟩ := hvalue; exact nofun
  | escapedChar => obtain ⟨c, rfl⟩ := hvalue; exact nofun
  | modifier => rcases hvalue with rfl | rfl | rfl <;> exact nofun
  | finish => exact absurd rfl hkind

theorem written_ne_nil {l : Lexeme} (h : l.value ≠ []) : l.written ≠ [] := by
  unfold written
  split
  · exact nofun
  · exact nofun
  · exact nofun
  · exact h

theorem forall_split_cons_iff {α : Type} {P : List α → α → List α → Prop} {a : α} {as : List α} :
    (∀ front b rest, a :: as = front ++ b :: rest → P front b rest) ↔
      P [] a as ∧ ∀ front b rest, as = front ++ b :: rest → P (a :: front) b rest := by
  constructor
  · intro h
    exact ⟨h [] a as rfl, fun front b rest heq => h (a :: front) b rest (congrArg _ heq)⟩
  · rintro ⟨hfirst, hmore⟩ front b rest heq
    cases front with
    | nil =>
        cases heq
        exact hfirst
    | cons d front =>
        obtain ⟨rfl, hrest⟩ := List.cons.inj heq
        exact hmore front b rest hrest

variable {start : Nat} {s : Text} {lexemes : List Lexeme}

/-- Of the empty text nothing but the end is left. -/
theorem areCut_nil_iff : AreCut start [] lexemes ↔ lexemes = [⟨.finish, start, []⟩] := by
  constructor
  · intro h
    obtain ⟨front, rfl, hfront⟩ := h.finish
    cases front with
    | nil => rfl
    | cons l front =>
        have hvalue := value_ne_nil (h.hasValue l List.mem_cons_self) (hfront l List.mem_cons_self)
        exact absurd (List.append_eq_nil_iff.mp h.written_eq).1 (written_ne_nil hvalue)
  · rintro rfl
    exact ⟨rfl, forall_split_cons_iff.mpr ⟨rfl, by simp⟩, List.forall_mem_singleton.mpr rfl,
      forall_split_cons_iff.mpr ⟨fun hkind => (nomatch hkind), by simp⟩, [], rfl, by simp⟩

theorem areCut_cons_iff {l : Lexeme} (hl : l.kind ≠ .finish) :
    AreCut start s (l :: lexemes) ↔ l.index = start ∧ HasValue l.kind l.value ∧
      ∃ rest, s = l.written ++ rest ∧ l.EndsBefore rest ∧
        AreCut (start + l.written.length) rest lexemes := by
  constructor
  · intro h
    obtain ⟨hindex, hindices⟩ := forall_split_cons_iff.mp h.index_eq
    obtain ⟨hvalue, hvalues⟩ := List.forall_mem_cons.mp h.hasValue
    obtain ⟨hends, hmore⟩ := forall_split_cons_iff.mp h.endsBefore
    obtain ⟨front, heq, hfront⟩ := h.finish
    have hlength : start + s.length =
        start + l.written.length + (lexemes.flatMap written).length := by
      rw [← h.written_eq, List.flatMap_cons, List.length_append, Nat.add_assoc]
    rw [hlength] at heq
    refine ⟨hindex, hvalue, _, h.written_eq.symm, hends, rfl, ?_, hvalues, hmore, ?_⟩
    · intro front l' rest hsplit
      rw [hindices front l' rest hsplit]
      simp [Nat.add_assoc]
    · cases front with
      | nil => exact absurd (congrArg Lexeme.kind (List.cons.inj heq).1) hl
      | cons l' front =>
          obtain ⟨rfl, hlexemes⟩ := List.cons.inj heq
          exact ⟨front, hlexemes, (List.forall_mem_cons.mp hfront).2⟩
  · rintro ⟨hindex, hvalue, rest, rfl, hends, h⟩
    obtain ⟨front, rfl, hfront⟩ := h.finish
    refine ⟨congrArg _ h.written_eq, forall_split_cons_iff.mpr ⟨hindex, ?_⟩,
      List.forall_mem_cons.mpr ⟨hvalue, h.hasValue⟩,
      forall_split_cons_iff.mpr ⟨h.written_eq.symm ▸ hends, h.endsBefore⟩,
      l :: front, ?_, List.forall_mem_cons.mpr ⟨hl, hfront⟩⟩
    · intro front l' rest hsplit
      rw [h.index_eq front l' rest hsplit]
      simp [Nat.add_assoc]
    · simp [Nat.add_assoc]

/-- The scanner cuts a text in the one way that there is. -/
theorem scanFrom_eq_ok_iff {fuel : Nat} (hfuel : s.length ≤ fuel) :
    scanFrom fuel start s = .ok lexemes ↔ AreCut start s lexemes := by
  have hnil : ∀ start lexemes, (.ok [⟨.finish, start, []⟩] : Except ScanError _) = .ok lexemes ↔
      AreCut start [] lexemes := by
    intro start lexemes
    rw [areCut_nil_iff, Except.ok.injEq, eq_comm]
  induction fuel generalizing start s lexemes with
  | zero =>
      obtain rfl := List.eq_nil_of_length_eq_zero (Nat.le_zero.mp hfuel)
      exact hnil start lexemes
  | succ fuel ih =>
      cases s with
      | nil => exact hnil start lexemes
      | cons c s =>
          -- The scanner goes on where the lexeme ends, with less text than there was.
          have hrest : ∀ {l : Lexeme} {rest : Text}, c :: s = l.written ++ rest →
              HasValue l.kind l.value → l.kind ≠ .finish → rest.length ≤ fuel ∧
                start + (s.length + 1 - rest.length) = start + l.written.length := by
            intro l rest htext hvalue hl
            have hpos := List.length_pos_iff.mpr (written_ne_nil (value_ne_nil hvalue hl))
            have hlength := congrArg List.length htext
            simp only [List.length_cons, List.length_append] at hlength hfuel
            omega
          constructor
          · intro h
            obtain ⟨⟨l, rest⟩, hnext, h⟩ := exists_of_bind_eq_ok h
            obtain ⟨ls, hscan, h⟩ := exists_of_bind_eq_ok h
            cases h
            obtain ⟨htext, hindex, hl, hvalue, hends⟩ := next_eq_ok_iff.mp hnext
            obtain ⟨hshort, hwidth⟩ := hrest htext hvalue hl
            rw [hwidth] at hscan
            exact (areCut_cons_iff hl).mpr
              ⟨hindex, hvalue, rest, htext, hends, (ih hshort).mp hscan⟩
          · intro h
            obtain ⟨front, rfl, hfront⟩ := h.finish
            cases front with
            | nil => exact absurd h.written_eq nofun
            | cons l front =>
                have hl := hfront l List.mem_cons_self
                obtain ⟨hindex, hvalue, rest, htext, hends, hcut⟩ := (areCut_cons_iff hl).mp h
                obtain ⟨hshort, hwidth⟩ := hrest htext hvalue hl
                rw [scanFrom, next_eq_ok_iff.mpr ⟨htext, hindex, hl, hvalue, hends⟩]
                dsimp only [bind, Except.bind]
                rw [hwidth, (ih hshort).mpr hcut]
                rfl

/-- A template is cut into lexemes just so that written one after the other they are the template, each
has the index at which it begins, and each holds all that its kind allows. -/
theorem scan_eq_ok_iff (template : Text) (lexemes : List Lexeme) :
    scan template = .ok lexemes ↔ AreCut 0 template lexemes :=
  scanFrom_eq_ok_iff (Nat.le_refl _)

/-- The parenthesis behind the backslash closes nothing. -/
example : (scan ":a(\\))?".toList).toOption =
    some [⟨.name, 0, ['a']⟩, ⟨.pattern, 2, "\\)".toList⟩, ⟨.modifier, 6, ['?']⟩, ⟨.finish, 7, []⟩] := by
  decide

end Lexeme

end RouteMask
