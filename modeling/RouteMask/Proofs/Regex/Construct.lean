import Mathlib.Logic.Relation
import Mathlib.Tactic.Tauto
import RouteMask.Proofs.Result
import RouteMask.Regex.Reader

/-! # Reading one construct at a time

A step of the reader does two things: it finds out which construct begins here, for which of its
state only the flags matter, and it works the construct into the groups that are open.  The two are
separated here.  `Construct.read` is the first, `Construct.apply` the second, and
`Reader.toOption_step` says that a step is one after the other.

What a step remembers of the last repetition operator is the text from there on, but it matters
only whether there was one (`Reader.plain`). -/

namespace RouteMask.Regex

/-- What a step of the reader has come upon. -/
inductive Construct where
  /-- A capturing group opens. -/
  | capture (name : Option Text)
  /-- Another group opens, in which the flags hold. -/
  | group (flags : Flags)
  /-- The flags hold from here on. -/
  | setFlags (flags : Flags)
  | close
  | bar
  | piece (r : Regex)
  /-- Text that stands for itself. -/
  | quote (text : Text)
  /-- A repetition operator, possibly with its greed turned round. -/
  | repetition (lo : Nat) (hi : Option Nat) (turned : Bool)

/-- The state without the text of the last repetition operator. -/
def Reader.plain (st : Reader) : Reader :=
  { st with repeated := st.repeated.map fun _ => [] }

namespace Construct

/-- The name of a group up to the closing angle. -/
def readName (body : Text) : Option (Construct × Text) :=
  match Text.cut? (· == '>') body with
  | none => none
  | some (name, rest) =>
    if name ≠ [] ∧ name.all Reader.isNameChar then some (.capture (some name), rest) else none

/-- What follows `(?`. -/
def readSpecial (flags : Flags) (body : Text) : Option (Construct × Text) :=
  match body with
  | '=' :: _ :: _ => none
  | '!' :: _ :: _ => none
  | '<' :: '=' :: _ :: _ => none
  | '<' :: '!' :: _ :: _ => none
  | 'P' :: '<' :: c :: rest => readName (c :: rest)
  | '<' :: c :: rest => readName (c :: rest)
  | _ =>
    (Reader.readFlags [] false false flags body).toOption.map fun ((flags, opens), rest) =>
      (if opens then .group flags else .setFlags flags, rest)

/-- Whether the mark follows that turns the greed of a repetition round. -/
def readMark : Text → Bool × Text
  | '?' :: rest => (true, rest)
  | rest => (false, rest)

/-- A repetition operator before `rest`, with the mark that turns its greed round. -/
def readGreed (lo : Nat) (hi : Option Nat) (rest : Text) : Construct × Text :=
  (.repetition lo hi (readMark rest).1, (readMark rest).2)

/-- What a backslash and the text after it stand for. -/
def readBackslash (flags : Flags) (body : Text) : Option (Construct × Text) :=
  match body with
  | 'b' :: rest => some (.piece (.assert .wordBoundary), rest)
  | 'B' :: rest => some (.piece (.assert .noWordBoundary), rest)
  | 'A' :: rest => some (.piece (.assert .textStart), rest)
  | 'z' :: rest => some (.piece (.assert .textEnd), rest)
  | 'C' :: rest => some (.piece .anyByte, rest)
  | 'Q' :: rest => some (.quote (Reader.cutQuoted rest).1, (Reader.cutQuoted rest).2)
  | 'p' :: rest =>
    (readUnicodeClass flags.ignoreCase true [] rest).toOption.map fun (s, rest) => (.piece (.set s), rest)
  | 'P' :: rest =>
    (readUnicodeClass flags.ignoreCase false [] rest).toOption.map fun (s, rest) =>
      (.piece (.set s), rest)
  | _ =>
    match body.head?.bind CharSet.shorthand? with
    | some (rs, positive) =>
      some (.piece (.set (.signed flags.ignoreCase positive (.ranges rs))), body.tail)
    | none =>
      (readEscape [] body).toOption.map fun (n, rest) =>
        (.piece (.set (.single flags.ignoreCase n)), rest)

/-- The construct at the beginning of a text, and the text after it. -/
def read (flags : Flags) : Text → Option (Construct × Text)
  | [] => none
  | c :: rest =>
    match c with
    | '(' =>
      match rest with
      | '?' :: body => readSpecial flags body
      | _ => some (.capture none, rest)
    | ')' => some (.close, rest)
    | '|' => some (.bar, rest)
    | '^' => some (.piece (.assert (if flags.multiLine then .lineStart else .textStart)), rest)
    | '$' => some (.piece (.assert (if flags.multiLine then .lineEnd else .textEnd)), rest)
    | '.' =>
      some (.piece (.set (if flags.dotMatchesNewline then .all else .compl (.single false 10))), rest)
    | '[' => (readBracket flags.ignoreCase rest).toOption.map fun (s, rest) => (.piece (.set s), rest)
    | '*' => some (readGreed 0 none rest)
    | '+' => some (readGreed 1 none rest)
    | '?' => some (readGreed 0 (some 1) rest)
    | '\x7b' =>
      match readCounts? rest with
      | some ((lo, hi), more) => some (readGreed lo hi more)
      | none => some (.piece (.set (.single flags.ignoreCase c.toNat)), rest)
    | '\\' => readBackslash flags rest
    | c => some (.piece (.set (.single flags.ignoreCase c.toNat)), rest)

/-- Repeat the last piece; nothing else may have been repeated directly before. -/
def applyRepetition (lo : Nat) (hi : Option Nat) (turned : Bool) (st : Reader) : Option Reader :=
  match st.repeated, st.level.pieces with
  | none, p :: ps =>
    let copies := p.copies * max (hi.getD lo) 1
    if hi.getD lo < lo ∨ maxRepeat < hi.getD lo ∨ maxRepeat < copies then none
    else
      some { st with
        level := { st.level with
          pieces := ⟨.times (st.flags.swapGreed == turned) lo hi p.regex, copies⟩ :: ps }
        repeated := some [] }
  | _, _ => none

/-- Work a construct into the state of the reader. -/
def apply : Construct → Reader → Option Reader
  | capture name, st => some (st.openCapture name)
  | group flags, st => some { st.openGroup none with flags := flags }
  | setFlags flags, st => some { st with flags := flags, repeated := none }
  | close, st => st.closeGroup?
  | bar, st => some st.bar
  | piece r, st => some (st.add r)
  | quote text, st =>
    some { text.foldl (fun st c => st.literal c.toNat) st with repeated := none }
  | repetition lo hi turned, st => applyRepetition lo hi turned st

end Construct

/-! ### Where a fragment begins matters to errors only -/

theorem toOption_readFlags (start start' : Text) (negated seen : Bool) (flags : Flags) (s : Text) :
    (Reader.readFlags start negated seen flags s).toOption =
      (Reader.readFlags start' negated seen flags s).toOption := by
  fun_induction Reader.readFlags start negated seen flags s with
  | case1 => rfl
  | case2 _ _ _ _ ih | case3 _ _ _ _ ih | case4 _ _ _ _ ih | case5 _ _ _ _ ih => exact ih
  | case6 => rfl
  | case7 _ _ _ _ _ ih => simp_all [Reader.readFlags]
  | case8 negated seen flags c rest _ _ _ _ _ h => simp_all [Reader.readFlags]
  | case9 negated seen flags c rest _ _ _ _ _ h =>
      simp only [Reader.readFlags]
      rw [if_neg h]
      rfl

theorem toOption_readBraced (start start' : Text) (code digits : Nat) (s : Text) :
    (readBraced start code digits s).toOption = (readBraced start' code digits s).toOption := by
  induction s generalizing code digits with
  | nil => simp only [readBraced]; split <;> rfl
  | cons c s ih =>
      simp only [readBraced]
      cases Text.hexValue? c with
      | none => dsimp only; split <;> rfl
      | some d =>
          dsimp only
          split
          · rfl
          · exact ih ..

theorem toOption_readHex (start start' s : Text) :
    (readHex start s).toOption = (readHex start' s).toOption := by
  unfold readHex
  split
  · rfl
  · exact toOption_readBraced ..
  · rfl
  · split <;> rfl

theorem toOption_readEscape (start start' s : Text) :
    (readEscape start s).toOption = (readEscape start' s).toOption := by
  unfold readEscape
  split
  · rfl
  · exact toOption_readHex ..
  split
  · rfl
  split
  · rfl
  split
  · rfl
  · split <;> rfl
  · rfl

theorem toOption_readClassName (start start' s : Text) :
    (readClassName start s).toOption = (readClassName start' s).toOption := by
  unfold readClassName
  split
  · rfl
  · split <;> rfl
  · rfl

theorem toOption_readUnicodeClass (ignoreCase positive : Bool) (start start' s : Text) :
    (readUnicodeClass ignoreCase positive start s).toOption =
      (readUnicodeClass ignoreCase positive start' s).toOption := by
  unfold readUnicodeClass
  rw [toOption_bind, toOption_bind, toOption_readClassName start start']
  congr 1
  funext ⟨name, rest⟩
  dsimp only
  split <;> rfl

/-! ### A step is a construct -/

theorem toOption_openNamed (st : Reader) (start body : Text) :
    (st.openNamed start body).toOption.map (fun (u, r) => (u.plain, r)) =
      (Construct.readName body).bind fun (k, r) => (k.apply st.plain).map (·, r) := by
  unfold Reader.openNamed Construct.readName
  cases Text.cut? (· == '>') body with
  | none => rfl
  | some p =>
      dsimp only
      split <;> rfl

theorem toOption_openSpecial (st : Reader) (start body : Text) :
    (st.openSpecial start body).toOption.map (fun (u, r) => (u.plain, r)) =
      (Construct.readSpecial st.flags body).bind fun (k, r) => (k.apply st.plain).map (·, r) := by
  fun_cases Construct.readSpecial st.flags body with
  | case1 | case2 | case3 | case4 => rfl
  | case5 => exact toOption_openNamed ..
  | case6 c rest h₁ h₂ =>
      rw [Reader.openSpecial]
      · exact toOption_openNamed ..
      · exact h₁
      · exact h₂
  | case7 h₁ h₂ h₃ h₄ h₅ h₆ =>
      rw [Reader.openSpecial, toOption_bind, toOption_readFlags start []]
      · cases (Reader.readFlags [] false false st.flags body).toOption with
        | none => rfl
        | some p =>
            obtain ⟨⟨flags, opens⟩, rest⟩ := p
            cases opens <;> rfl
      all_goals assumption

theorem toOption_applyRepeat (st : Reader) (start : Text) (lo : Nat) (hi : Option Nat)
    (rest : Text) :
    (st.applyRepeat start lo hi rest).toOption.map (fun (u, r) => (u.plain, r)) =
      ((Construct.readGreed lo hi rest).1.apply st.plain).map
        (·, (Construct.readGreed lo hi rest).2) := by
  unfold Reader.applyRepeat
  split
  next turned more hmark =>
  have hmark : Construct.readMark rest = (turned, more) := hmark
  rw [Construct.readGreed, hmark]
  cases hr : st.repeated with
  | some first =>
      simp [Construct.apply, Construct.applyRepetition, Reader.plain, hr, Except.toOption]
  | none =>
      cases hp : st.level.pieces with
      | nil =>
          simp only [Construct.apply, Construct.applyRepetition, Reader.plain, hr, hp]
          dsimp only [Option.map_none]
          split <;> rfl
      | cons p ps =>
          simp only [Construct.apply, Construct.applyRepetition, Reader.plain, hr, hp,
            Option.map_none]
          by_cases h₁ : hi.getD lo < lo ∨ maxRepeat < hi.getD lo
          · rw [if_pos h₁, if_pos (by tauto)]; rfl
          · rw [if_neg h₁]
            by_cases h₂ : maxRepeat < p.copies * max (hi.getD lo) 1
            · rw [if_pos h₂, if_pos (by tauto)]; rfl
            · rw [if_neg h₂, if_neg (by tauto)]; rfl

theorem plain_foldl_literal (text : Text) (st : Reader) :
    (text.foldl (fun st c => st.literal c.toNat) st).plain =
      text.foldl (fun st c => st.literal c.toNat) st.plain := by
  induction text generalizing st with
  | nil => rfl
  | cons c text ih => exact ih _

theorem toOption_backslash (st : Reader) (start body : Text) :
    (st.backslash start body).toOption.map (fun (u, r) => (u.plain, r)) =
      (Construct.readBackslash st.flags body).bind fun (k, r) => (k.apply st.plain).map (·, r) := by
  fun_cases Construct.readBackslash st.flags body with
  | case1 | case2 | case3 | case4 | case5 => rfl
  | case6 rest =>
      simp only [Reader.backslash, Except.toOption, Option.map_some, Option.bind_some,
        Construct.apply, ← plain_foldl_literal]
      rfl
  | case7 rest =>
      rw [Reader.backslash, toOption_bind, toOption_readUnicodeClass _ _ _ []]
      cases (readUnicodeClass st.flags.ignoreCase true [] rest).toOption <;> rfl
  | case8 rest =>
      rw [Reader.backslash, toOption_bind, toOption_readUnicodeClass _ _ _ []]
      cases (readUnicodeClass st.flags.ignoreCase false [] rest).toOption <;> rfl
  | case9 | case10 =>
      rw [Reader.backslash]
      · cases body.head?.bind CharSet.shorthand? with
        | some p => obtain ⟨rs, positive⟩ := p; rfl
        | none =>
            dsimp only
            rw [toOption_bind, toOption_readEscape _ []]
            cases (readEscape [] body).toOption <;> rfl
      all_goals assumption

/-- A step finds out which construct begins here and works it into the state. -/
theorem toOption_step (st : Reader) (whole : Text) (c : Char) (rest : Text) :
    (st.step whole c rest).toOption.map (fun (u, r) => (u.plain, r)) =
      (Construct.read st.flags (c :: rest)).bind fun (k, r) => (k.apply st.plain).map (·, r) := by
  unfold Reader.step
  split
  · -- an opening parenthesis
    split
    · exact toOption_openSpecial ..
    · next h =>
        have hread : Construct.read st.flags ('(' :: rest) = some (.capture none, rest) := by
          simp only [Construct.read]
        rw [hread]
        rfl
  · -- a closing parenthesis
    cases ho : st.outer with
    | nil => simp [Reader.closeGroup?, ho, Construct.read, Construct.apply, Reader.plain, Except.toOption]
    | cons level outer =>
        simp [Reader.closeGroup?, ho, Construct.read, Construct.apply, Reader.plain, Except.toOption, Reader.push]
  · rfl
  · rfl
  · rfl
  · rfl
  · rw [toOption_bind]
    simp only [Construct.read]
    cases (readBracket st.flags.ignoreCase rest).toOption <;> rfl
  · exact toOption_applyRepeat ..
  · exact toOption_applyRepeat ..
  · exact toOption_applyRepeat ..
  · simp only [Construct.read]
    cases readCounts? rest with
    | none => rfl
    | some p =>
        obtain ⟨⟨lo, hi⟩, more⟩ := p
        exact toOption_applyRepeat ..
  · exact toOption_backslash ..
  · rw [Construct.read]
    · rfl
    all_goals assumption

end RouteMask.Regex
