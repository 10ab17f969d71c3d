import RouteMask.Proofs.Template.Contents
import RouteMask.Proofs.Template.Expression

/-! # Patterns and modifiers of a template

The pattern of a parameter is that of a segment, or none, or the value of a lexeme, and what stands
behind a parameter is a modifier, because a parameter is made of its phrase
(`Template.isOver_of_read`).

* `Template.isPlain_of_read`: when no lexeme is a pattern, the template has no patterns of its own. -/

namespace RouteMask

/-- A modifier is one of three characters. -/
theorem Lexeme.isModifier_of_scan {template : Text} {lexemes : List Lexeme}
    (h : scan template = .ok lexemes) : ∀ l ∈ lexemes, l.kind = .modifier → IsModifier l.value := by
  intro l hl hkind
  have hcut := (scanFrom_eq_ok_iff (Nat.le_refl template.length)).mp h
  have hvalue : HasValue .modifier l.value := hkind ▸ hcut.hasValue l hl
  rcases hvalue with hvalue | hvalue | hvalue
  · exact Or.inr (Or.inr (Or.inl hvalue))
  · exact Or.inr (Or.inr (Or.inr hvalue))
  · exact Or.inr (Or.inl hvalue)

/-- The pattern is that of a segment, or none, or one of the patterns `P`. -/
def Parameter.IsOver (P : Text → Prop) (p : Parameter) : Prop :=
  (p.pattern = [] ∨ p.pattern = Template.segmentPattern Template.usualDelimiter ∨ P p.pattern) ∧
    IsModifier p.modifier

namespace Template

/-- The parameters have patterns from `P` only. -/
def IsOver (P : Text → Prop) (parts : Template) : Prop :=
  ∀ p, .parameter p ∈ parts → p.IsOver P

variable {P : Text → Prop}

/-- The patterns of a template are that of a segment and those of its lexemes. -/
theorem isOver_of_read {leads template : Text} {lexemes : List Lexeme} {parts : Template}
    (hscan : Lexeme.scan template = .ok lexemes)
    (hl : ∀ l ∈ lexemes, l.kind = .pattern → P l.value)
    (h : read leads usualDelimiter template = .ok parts) : parts.IsOver P := by
  obtain ⟨phrases, last, hlexemes, -, -, hmakes⟩ := exists_makes_of_read hscan h
  intro p hp
  obtain ⟨q, hq, n, hgives⟩ := hmakes.exists_gives hp
  have hmem : ∀ l ∈ q.lexemes, l ∈ lexemes := fun l hlq => by
    rw [hlexemes]
    exact List.mem_append_left _ (List.mem_flatMap.mpr ⟨q, hq, hlq⟩)
  constructor
  · rw [hgives.pattern_eq]
    cases hpattern : q.pattern? with
    | none =>
        cases q.name? with
        | none => exact Or.inl rfl
        | some name => exact Or.inr (Or.inl rfl)
    | some value =>
        obtain ⟨l, hlq, hk, rfl⟩ : ∃ l ∈ q.lexemes, l.kind = .pattern ∧ l.value = value :=
          mem_valuesOf.mp (by simp [q.valuesOf_pattern, hpattern])
        exact Or.inr (Or.inr (hl l (hmem l hlq) hk))
  · rw [hgives.modifier_eq]
    cases hmodifier : q.modifier? with
    | none => exact Or.inl rfl
    | some value =>
        obtain ⟨l, hlq, hk, rfl⟩ : ∃ l ∈ q.lexemes, l.kind = .modifier ∧ l.value = value :=
          mem_valuesOf.mp (by simp [q.valuesOf_modifier, hmodifier])
        exact Lexeme.isModifier_of_scan hscan l (hmem l hlq) hk

/-- A template none of whose lexemes is a pattern has no patterns of its own. -/
theorem isPlain_of_read {leads template : Text} {lexemes : List Lexeme} {parts : Template}
    (hscan : Lexeme.scan template = .ok lexemes) (hl : ∀ l ∈ lexemes, l.kind ≠ .pattern)
    (h : read leads usualDelimiter template = .ok parts) : parts.IsPlain := by
  have hover := isOver_of_read (P := fun _ => False) hscan hl h
  intro p hp
  obtain ⟨hpattern, hmodifier⟩ := hover p hp
  refine ⟨?_, hmodifier⟩
  rcases hpattern with h | h | h
  · exact Or.inl h
  · exact Or.inr h
  · cases h

end Template

end RouteMask
