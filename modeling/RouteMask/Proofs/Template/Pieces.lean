import RouteMask.Template.Reader

/-! # Templates piece by piece

The scanner and the reader go through a template with fuel.  What a piece of text is scanned as
(`Lexeme.Scans`) and what its lexemes collect (`Template.Collects`) is stated for all fuel that is
enough and in front of what is still to come.  So the pieces of a template can be put together, and
give what is scanned and read of it (`Lexeme.Scans.scan_eq`, `Template.Collects.read_eq`). -/

namespace RouteMask

namespace Lexeme

variable {s t rest : Text} {ls ms : Nat → List Lexeme}

/-- One lexeme is scanned. -/
theorem scanFrom_cons {index : Nat} {c : Char} {l : Lexeme}
    (hnext : next index c (s ++ rest) = .ok (l, rest)) (fuel : Nat) :
    scanFrom (fuel + 1) index (c :: s ++ rest) =
      (scanFrom fuel (index + (c :: s).length) rest).map (l :: ·) := by
  have hwidth : index + ((s ++ rest).length + 1 - rest.length) = index + (c :: s).length := by
    simp
    omega
  rw [List.cons_append, scanFrom, hnext]
  simp only [bind, Except.bind]
  rw [hwidth]
  cases scanFrom fuel (index + (c :: s).length) rest <;> rfl

/-- In front of a rest, a text is scanned as lexemes that depend on where it begins. -/
def Scans (s : Text) (ls : Nat → List Lexeme) (rest : Text) : Prop :=
  ∀ fuel index, (s ++ rest).length ≤ fuel → ∃ fuel', rest.length ≤ fuel' ∧
    scanFrom fuel index (s ++ rest) = (scanFrom fuel' (index + s.length) rest).map (ls index ++ ·)

theorem Scans.nil (rest : Text) : Scans [] (fun _ => []) rest := by
  intro fuel index hfuel
  refine ⟨fuel, hfuel, ?_⟩
  rw [List.nil_append, List.length_nil, Nat.add_zero]
  cases scanFrom fuel index rest <;> rfl

theorem Scans.one {c : Char} {l : Nat → Lexeme}
    (hnext : ∀ index, next index c (s ++ rest) = .ok (l index, rest)) :
    Scans (c :: s) (fun index => [l index]) rest := by
  intro fuel index hfuel
  rw [List.cons_append, List.length_cons, List.length_append] at hfuel
  obtain ⟨fuel, rfl⟩ : ∃ n, fuel = n + 1 := ⟨fuel - 1, by omega⟩
  exact ⟨fuel, by omega, scanFrom_cons (hnext index) fuel⟩

theorem Scans.append (hs : Scans s ls (t ++ rest)) (ht : Scans t ms rest) :
    Scans (s ++ t) (fun index => ls index ++ ms (index + s.length)) rest := by
  intro fuel index hfuel
  rw [List.append_assoc] at hfuel ⊢
  obtain ⟨fuel, hfuel, hfirst⟩ := hs fuel index hfuel
  obtain ⟨fuel, hfuel, hmore⟩ := ht fuel (index + s.length) hfuel
  refine ⟨fuel, hfuel, ?_⟩
  rw [hfirst, hmore, List.length_append, Nat.add_assoc]
  cases scanFrom fuel (index + (s.length + t.length)) rest with
  | error e => rfl
  | ok more => exact congrArg Except.ok (List.append_assoc ..).symm

/-- A whole template is scanned as the lexemes of its text and the end. -/
theorem Scans.scan_eq (h : Scans s ls []) : scan s = .ok (ls 0 ++ [⟨.finish, s.length, []⟩]) := by
  obtain ⟨fuel, -, hscan⟩ := h s.length 0 (Nat.le_of_eq (congrArg List.length (List.append_nil s)))
  have hfinish : scanFrom fuel (0 + s.length) [] = .ok [⟨.finish, s.length, []⟩] := by
    rw [Nat.zero_add]
    cases fuel <;> rfl
  rw [List.append_nil, hfinish] at hscan
  exact hscan

end Lexeme

namespace Template

variable {ls ms more : List Lexeme} {f g : Draft → Draft}

/-- In front of others, the lexemes are read, and what has been collected changes by `f`. -/
def Collects (ls : List Lexeme) (f : Draft → Draft) (more : List Lexeme) : Prop :=
  ∀ fuel d, (ls ++ more).length ≤ fuel → ∃ fuel', more.length ≤ fuel' ∧
    readItems usualLeads (segmentPattern usualDelimiter) fuel d (ls ++ more) =
      readItems usualLeads (segmentPattern usualDelimiter) fuel' (f d) more

theorem Collects.nil (more : List Lexeme) : Collects [] id more :=
  fun fuel _ hfuel => ⟨fuel, hfuel, rfl⟩

theorem Collects.item (hne : ls ≠ [])
    (hitem : ∀ d, readItem usualLeads (segmentPattern usualDelimiter) d (ls ++ more) =
      .ok (f d, more)) : Collects ls f more := by
  obtain ⟨l, ls, rfl⟩ := List.exists_cons_of_ne_nil hne
  intro fuel d hfuel
  rw [List.cons_append, List.length_cons, List.length_append] at hfuel
  obtain ⟨fuel, rfl⟩ : ∃ n, fuel = n + 1 := ⟨fuel - 1, by omega⟩
  refine ⟨fuel, by omega, ?_⟩
  have hread := hitem d
  rw [List.cons_append] at hread ⊢
  rw [readItems, hread]
  rfl

theorem Collects.append (hls : Collects ls f (ms ++ more)) (hms : Collects ms g more) :
    Collects (ls ++ ms) (fun d => g (f d)) more := by
  intro fuel d hfuel
  rw [List.append_assoc] at hfuel ⊢
  obtain ⟨fuel, hfuel, hfirst⟩ := hls fuel d hfuel
  obtain ⟨fuel, hfuel, hmore⟩ := hms fuel (f d) hfuel
  exact ⟨fuel, hfuel, hfirst.trans hmore⟩

/-- A template is read as what is collected from its lexemes. -/
theorem Collects.read_eq {template : Text} {index : Nat}
    (hscan : Lexeme.scan template = .ok (ls ++ [⟨.finish, index, []⟩]))
    (h : Collects ls f [⟨.finish, index, []⟩]) :
    read usualLeads usualDelimiter template = .ok (f .start).flush.done.reverse := by
  obtain ⟨fuel, hfuel, hread⟩ := h _ .start (Nat.le_refl _)
  obtain ⟨fuel, rfl⟩ : ∃ n, fuel = n + 1 := ⟨fuel - 1, by simp at hfuel; omega⟩
  have hfinish : readItems usualLeads (segmentPattern usualDelimiter) (fuel + 1) (f .start)
      [⟨.finish, index, []⟩] = .ok (f .start).flush := by
    cases fuel <;> rfl
  unfold read
  rw [hscan]
  dsimp only [Except.mapError, bind, Except.bind]
  rw [hread, hfinish]

end Template

end RouteMask
