import RouteMask.Proofs.Mask.Structure

/-! # What escaping inserts

Escaping is an insertion: whatever the mask is, the result is the mask with a backslash in front of some
of its colons (`Skeleton.colonsEscaped_escape`).  It comes down to this: what is recognised is the rest
of the mask from some place on, part by part, and the parts are escaped one by one. -/

namespace RouteMask.Skeleton

/-- A text, and the same with a backslash in front of some of its colons. -/
inductive ColonsEscaped : Text → Text → Prop
  | nil : ColonsEscaped [] []
  | keep (c : Char) {s t : Text} (h : ColonsEscaped s t) : ColonsEscaped (c :: s) (c :: t)
  | insert {s t : Text} (h : ColonsEscaped s t) : ColonsEscaped (':' :: s) ('\\' :: ':' :: t)

namespace ColonsEscaped

theorem refl (s : Text) : ColonsEscaped s s := by
  induction s with
  | nil => exact .nil
  | cons c s ih => exact .keep c ih

theorem append {s t s' t' : Text} (h : ColonsEscaped s t) (h' : ColonsEscaped s' t') :
    ColonsEscaped (s ++ s') (t ++ t') := by
  induction h with
  | nil => exact h'
  | keep c _ ih => exact .keep c ih
  | insert _ ih => exact .insert ih

theorem length_le {s t : Text} (h : ColonsEscaped s t) : s.length ≤ t.length := by
  induction h with
  | nil => exact Nat.le_refl 0
  | keep c _ ih =>
      rw [List.length_cons, List.length_cons]
      omega
  | insert _ ih =>
      rw [List.length_cons, List.length_cons, List.length_cons]
      omega

/-- The results for one text can be told apart before either of them ends. -/
theorem eq_of_begins {s t t' : Text} (h : ColonsEscaped s t) (h' : ColonsEscaped s t')
    (hbegins : t <+: t') : t = t' := by
  induction h generalizing t' with
  | nil =>
      cases h'
      rfl
  | keep c _ ih =>
      cases h' with
      | keep _ h' => rw [ih h' (List.cons_prefix_cons.mp hbegins).2]
      | insert _ => exact absurd (List.cons_prefix_cons.mp hbegins).1 (by decide)
  | insert _ ih =>
      cases h' with
      | keep _ _ => exact absurd (List.cons_prefix_cons.mp hbegins).1 (by decide)
      | insert h' =>
          rw [ih h' (List.cons_prefix_cons.mp (List.cons_prefix_cons.mp hbegins).2).2]

end ColonsEscaped

theorem colonsEscaped_escapeColons (s : Text) : ColonsEscaped s (escapeColons s) := by
  induction s with
  | nil => exact .nil
  | cons c s ih =>
      have hcons : escapeColons (c :: s) =
          (if c = ':' then ['\\', ':'] else [c]) ++ escapeColons s := rfl
      rw [hcons]
      split
      · next hc =>
          rw [hc]
          exact .insert ih
      · exact .keep c ih

theorem colonsEscaped_escapeFirstColon (s : Text) : ColonsEscaped s (escapeFirstColon s) := by
  induction s with
  | nil => exact .nil
  | cons c s ih =>
      rw [escapeFirstColon]
      split
      · next hc =>
          rw [hc]
          exact .insert (.refl s)
      · exact .keep c ih

theorem colonsEscaped_escapedHost (host : HostMask) : ColonsEscaped host.text (escapedHost host) := by
  cases host with
  | bracketed address => exact colonsEscaped_escapeColons _
  | plain text => exact .refl text

theorem colonsEscaped_escaped (found : Skeleton) : ColonsEscaped found.text found.escaped :=
  (((colonsEscaped_escapeFirstColon found.scheme).append
    (colonsEscaped_escapedHost found.host)).append
      (colonsEscaped_escapeColons found.port)).append (.refl found.path)

/-- What is passed over stays, and what is found is escaped. -/
theorem colonsEscaped_append_escaped {mask before : Text} {found : Skeleton}
    (h : before ++ found.text = mask) : ColonsEscaped mask (before ++ found.escaped) := by
  rw [← h]
  exact (ColonsEscaped.refl before).append (colonsEscaped_escaped found)

/-- Escaping a mask inserts a backslash in front of some of its colons, and does nothing else. -/
theorem colonsEscaped_escape (mask : Text) : ColonsEscaped mask (escape mask) := by
  unfold escape
  cases hfound : find? mask with
  | none => exact .refl mask
  | some place => exact colonsEscaped_append_escaped (text_of_find? hfound)

end RouteMask.Skeleton
