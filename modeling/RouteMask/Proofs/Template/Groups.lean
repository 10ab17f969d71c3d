import RouteMask.Proofs.Regex.Enclosure
import RouteMask.Proofs.Template.Acceptance

/-! # Keys and capturing groups

The source of a template has one pair of capturing parentheses for each key (`Template.groupSites`).
The groups of the expression line up with the keys when they are these pairs and no others
(`Pattern.LinesUp`).  Whether they do depends on the patterns of the parameters alone: each has to be
an expression on its own, without capturing groups.

* `Template.isGroup_of_standsAlone` and `Template.standsAlone_of_isGroup`: the two directions, by
  induction on the parts. -/

namespace RouteMask

open Regex.Reader

/-! ### Where the groups stand -/

/-- The key of a part, if it captures. -/
def Part.key? : Part → Option Parameter
  | .literal _ => none
  | .parameter p => if p.isCapturing then some p else none

namespace Parameter

/-- Nothing stands around what the parameter captures. -/
def IsBare (p : Parameter) : Prop :=
  p.lead = [] ∧ p.trail = []

instance (p : Parameter) : Decidable p.IsBare :=
  inferInstanceAs (Decidable (_ ∧ _))

/-- The text that the capturing group of a parameter encloses. -/
def groupBody (p : Parameter) : Text :=
  if p.isRepeated then
    "(?:".toList ++ p.pattern ++ ")(?:".toList ++ Template.escape p.trail ++
      Template.escape p.lead ++ "(?:".toList ++ p.pattern ++ "))*".toList
  else p.pattern

/-- What stands in front of the capturing group of a parameter. -/
def before (p : Parameter) : Text :=
  if p.IsBare then [] else "(?:".toList ++ Template.escape p.lead

/-- What stands behind the capturing group of a parameter. -/
def behind (p : Parameter) : Text :=
  (if p.IsBare then [] else Template.escape p.trail ++ [')']) ++ p.outerModifier

theorem source_eq {p : Parameter} {src : Text} (hc : p.isCapturing = true)
    (h : Template.parameterSource p = .ok src) :
    src = p.before ++ '(' :: p.groupBody ++ ')' :: p.behind := by
  unfold before behind groupBody outerModifier
  by_cases hbare : p.IsBare
  · obtain ⟨hlead, htrail⟩ := id hbare
    cases hr : p.isRepeated with
    | true => simp [Template.parameterSource, hc, hr, hlead, htrail] at h
    | false =>
        rw [if_pos hbare, if_pos hbare]
        simp [Template.parameterSource, hc, hr, hlead, htrail] at h
        simp [hc, ← h]
  · have hne : ¬ (p.lead = [] ∧ p.trail = []) := hbare
    rw [if_neg hbare, if_neg hbare]
    cases hr : p.isRepeated with
    | true =>
        simp [Template.parameterSource, hc, hr, hne] at h
        simp [hc, ← h]
    | false =>
        simp [Template.parameterSource, hc, hr, hne] at h
        simp [hc, ← h]

end Parameter

namespace Template

/-- The source of a part. -/
def partText (part : Part) : Text :=
  (partSource part).toOption.getD []

/-- The sources of the parts, one after the other. -/
def bodyText (parts : Template) : Text :=
  parts.flatMap partText

/-- The keys, each with what stands behind its capturing group in the source. -/
def groupSites : Template → List (Parameter × Text)
  | [] => []
  | .literal _ :: parts => groupSites parts
  | .parameter p :: parts =>
    if p.isCapturing then (p, p.behind ++ (bodyText parts ++ ending)) :: groupSites parts
    else groupSites parts

theorem eq_of_key?_eq_some {part : Part} {p : Parameter} (h : part.key? = some p) :
    part = .parameter p ∧ p.isCapturing = true := by
  cases part with
  | literal text => cases h
  | parameter q =>
      rw [Part.key?] at h
      split at h
      · next hc =>
          cases h
          exact ⟨rfl, hc⟩
      · cases h

theorem not_isCapturing_of_key?_eq_none {p : Parameter} (h : (Part.parameter p).key? = none) :
    p.isCapturing = false := by
  rw [Part.key?] at h
  split at h
  · cases h
  · next hc => exact Bool.eq_false_iff.mpr hc

/-- A part without a key has no group. -/
theorem keys_of_key?_eq_none {part : Part} (h : part.key? = none) (parts : Template) :
    keys (part :: parts) = keys parts ∧ groupSites (part :: parts) = groupSites parts := by
  cases part with
  | literal text => exact ⟨rfl, rfl⟩
  | parameter p =>
      rw [keys_parameter, groupSites, not_isCapturing_of_key?_eq_none h]
      exact ⟨rfl, rfl⟩

theorem keys_of_isCapturing {p : Parameter} (hc : p.isCapturing = true) (parts : Template) :
    keys (.parameter p :: parts) = p :: keys parts ∧
      groupSites (.parameter p :: parts) =
        (p, p.behind ++ (bodyText parts ++ ending)) :: groupSites parts := by
  rw [keys_parameter, groupSites, hc]
  exact ⟨rfl, rfl⟩

theorem map_fst_groupSites (parts : Template) : (groupSites parts).map Prod.fst = parts.keys := by
  induction parts with
  | nil => rfl
  | cons part parts ih =>
      cases part with
      | literal text => exact ih
      | parameter p =>
          rw [groupSites, keys_parameter]
          split
          · rw [List.map_cons, ih]
          · exact ih

end Template

/-- The groups of the pattern are the groups that its source has for the keys of the template: the
first for the first key, and so on, and no more. -/
structure Pattern.LinesUp (p : Pattern) (parts : Template) : Prop where
  groups : p.groups = parts.keys.length
  isGroup : ∀ i site, (Template.groupSites parts)[i]? = some site →
    IsGroup (.start, p.source) (i + 1) site.1.groupBody site.2

/-! ### Reading what stands around a group -/

namespace Regex.Reader

/-- Between the parts of a template: no group is open, and case does not matter. -/
structure AtTop (st : Reader) : Prop where
  flags : st.flags = .caseless
  outer : st.outer = []

/-- A fragment that opens no group keeps the reader between the parts. -/
theorem AtTop.of_yields {st : Reader} (h : st.AtTop) {text : Text} {rs : List Regex}
    (hyields : Yields .caseless st.groups text rs st.groups) {rest : Text}
    (hrest : rest.head? ≠ some '?') :
    ∃ u, Reaches (st, text ++ rest) (u, rest) ∧ u.AtTop ∧ u.groups = st.groups := by
  obtain ⟨x, hx⟩ := hyields st rest h.flags rfl hrest
  exact ⟨_, hx, ⟨h.flags, h.outer⟩, rfl⟩

theorem read_modifier (flags : Flags) {c : Char} {rest : Text} (hc : c = '?' ∨ c = '*' ∨ c = '+')
    (hrest : rest.head? ≠ some '?') :
    ∃ lo hi, Construct.read flags (c :: rest) = some (.repetition lo hi false, rest) := by
  have hmark : Construct.readMark rest = (false, rest) := by
    rw [Construct.readMark]
    rintro more rfl
    exact hrest rfl
  have hgreed : ∀ lo hi, Construct.readGreed lo hi rest = (.repetition lo hi false, rest) := by
    intro lo hi
    rw [Construct.readGreed, hmark]
  rcases hc with rfl | rfl | rfl
  · exact ⟨0, some 1, congrArg some (hgreed 0 (some 1))⟩
  · exact ⟨0, none, congrArg some (hgreed 0 none)⟩
  · exact ⟨1, none, congrArg some (hgreed 1 none)⟩

/-- Repeating changes nothing but the last piece. -/
theorem AtTop.of_repetition {st u : Reader} (h : st.AtTop) {lo : Nat} {hi : Option Nat}
    {turned : Bool} (happly : Construct.applyRepetition lo hi turned st = some u) :
    u.AtTop ∧ u.groups = st.groups := by
  unfold Construct.applyRepetition at happly
  split at happly
  · dsimp only at happly
    split at happly
    · cases happly
    · cases happly
      exact ⟨⟨h.flags, h.outer⟩, rfl⟩
  · cases happly

/-- A modifier keeps the reader between the parts, if it gets further at all. -/
theorem AtTop.of_modifier {st f : Reader} (h : st.AtTop) {modifier rest : Text}
    (hm : IsModifier modifier) (hrest : rest.head? ≠ some '?')
    (hf : Reaches (st, modifier ++ rest) (f, [])) :
    ∃ u, Reaches (st, modifier ++ rest) (u, rest) ∧ u.AtTop ∧ u.groups = st.groups := by
  have hchar : modifier = [] ∨ ∃ c, (c = '?' ∨ c = '*' ∨ c = '+') ∧ modifier = [c] := by
    rcases hm with hm | hm | hm | hm
    · exact Or.inl hm
    · exact Or.inr ⟨'?', Or.inl rfl, hm⟩
    · exact Or.inr ⟨'*', Or.inr (Or.inl rfl), hm⟩
    · exact Or.inr ⟨'+', Or.inr (Or.inr rfl), hm⟩
  rcases hchar with rfl | ⟨c, hc, rfl⟩
  · exact ⟨st, .refl, h, rfl⟩
  · obtain ⟨⟨u, r⟩, hnext⟩ := hf.exists_next (List.cons_ne_nil _ _)
    obtain ⟨k, hread, happly⟩ := next_iff.mp hnext
    obtain ⟨lo, hi, hmodifier⟩ := read_modifier st.flags hc hrest
    obtain ⟨rfl, rfl⟩ := Prod.mk.inj (Option.some.inj (hmodifier.symm.trans hread))
    exact ⟨u, hnext.reaches, h.of_repetition happly⟩

end Regex.Reader

namespace Parameter

/-- The reader stands in front of the capturing group of a parameter, or behind it: around the group
is a group for the lead and the trail, if there are any. -/
structure Around (p : Parameter) (st : Regex.Reader) : Prop where
  flags : st.flags = .caseless
  bare : p.IsBare → st.outer = []
  inGroup : ¬ p.IsBare → st.level.outside = .caseless ∧ ∃ level, st.outer = [level]

/-- The reader gets to the capturing group of a parameter. -/
theorem reaches_before (p : Parameter) {st : Regex.Reader} (h : st.AtTop) (rest : Text) :
    ∃ u, Reaches (st, p.before ++ '(' :: rest) (u, '(' :: rest) ∧ p.Around u ∧
      u.groups = st.groups := by
  unfold before
  split
  · next hbare =>
      exact ⟨st, .refl, ⟨h.flags, fun _ => h.outer, fun hne => absurd hbare hne⟩, rfl⟩
  · next hbare =>
      have hhead : ('(' :: rest : Text).head? ≠ some '?' := fun h =>
        absurd (Option.some.inj h) (by decide)
      obtain ⟨x, hx⟩ := Yields.escape (n := st.groups) p.lead (st.openGroup none) ('(' :: rest)
        h.flags rfl hhead
      rw [List.append_assoc]
      refine ⟨_, .head (next_openGroup _) hx, ⟨h.flags, fun hb => absurd hb hbare, fun _ => ?_⟩, rfl⟩
      exact ⟨h.flags, st.level, congrArg (st.level :: ·) h.outer⟩

/-- Behind the capturing group of a parameter the reader gets to the end of its source. -/
theorem reaches_behind {p : Parameter} {st f : Regex.Reader} (h : p.Around st)
    (hm : IsModifier p.outerModifier) {rest : Text} (hrest : rest.head? ≠ some '?')
    (hf : Reaches (st, p.behind ++ rest) (f, [])) :
    ∃ u, Reaches (st, p.behind ++ rest) (u, rest) ∧ u.AtTop ∧ u.groups = st.groups := by
  unfold behind at hf ⊢
  split at hf
  · next hbare =>
      rw [if_pos hbare]
      have hatTop : st.AtTop := ⟨h.flags, h.bare hbare⟩
      exact hatTop.of_modifier hm hrest hf
  · next hbare =>
      rw [if_neg hbare]
      obtain ⟨houtside, level, houter⟩ := h.inGroup hbare
      have hhead : (')' :: (p.outerModifier ++ rest)).head? ≠ some '?' := fun h =>
        absurd (Option.some.inj h) (by decide)
      obtain ⟨x, hx⟩ := Yields.escape p.trail st (')' :: (p.outerModifier ++ rest)) h.flags rfl hhead
      obtain ⟨v, hclose, hflags, -, hvouter, hgroups⟩ := next_close
        (show (st.grow (literals p.trail) st.groups x).outer = level :: [] from houter)
        (p.outerModifier ++ rest)
      have htext : Template.escape p.trail ++ [')'] ++ p.outerModifier ++ rest =
          Template.escape p.trail ++ ')' :: (p.outerModifier ++ rest) := by simp
      rw [htext] at hf ⊢
      have hv : Reaches (st, _) (v, p.outerModifier ++ rest) := hx.tail hclose
      have hatTop : v.AtTop := ⟨hflags.trans houtside, hvouter⟩
      have hvf := hv.of_length_le hf (Nat.zero_le _)
      obtain ⟨u, hu, htop, hsame⟩ := hatTop.of_modifier hm hrest hvf
      exact ⟨u, hv.trans hu, htop, hsame.trans hgroups⟩

theorem isModifier_outerModifier {p : Parameter} (h : IsModifier p.modifier) :
    IsModifier p.outerModifier := by
  unfold outerModifier
  split
  · split
    · exact Or.inr (Or.inl rfl)
    · exact Or.inl rfl
  · exact h

section Source

variable {p : Parameter} {src rest : Text} {st f : Regex.Reader}
  (hc : p.isCapturing = true) (hsrc : Template.parameterSource p = .ok src) (h : st.AtTop)

include hc hsrc

theorem source_append :
    src ++ rest = p.before ++ '(' :: (p.groupBody ++ ')' :: (p.behind ++ rest)) := by
  rw [source_eq hc hsrc]
  simp

include h

/-- A parameter whose value stands alone has the next group, and the reader gets through its source. -/
theorem reaches_source (hm : IsModifier p.modifier) (hbody : Regex.StandsAlone p.groupBody)
    (hrest : rest.head? ≠ some '?') (hf : Reaches (st, src ++ rest) (f, [])) :
    IsGroup (st, src ++ rest) (st.groups + 1) p.groupBody (p.behind ++ rest) ∧
      ∃ u, Reaches (st, src ++ rest) (u, rest) ∧ u.AtTop ∧ u.groups = st.groups + 1 := by
  rw [source_append hc hsrc] at hf ⊢
  obtain ⟨v, hv, haround, hvgroups⟩ := p.reaches_before h (p.groupBody ++ ')' :: (p.behind ++ rest))
  have hvf := hv.of_length_le hf (Nat.zero_le _)
  obtain ⟨hgroup, w, hw, hflags, houtside, houter, hwgroups⟩ :=
    reaches_group haround.flags hbody hvf
  rw [hvgroups] at hgroup hwgroups
  have haround' : p.Around w := by
    refine ⟨hflags.trans haround.flags, fun hb => ?_, fun hb => ?_⟩
    · rw [houter]
      exact haround.bare hb
    · rw [houtside, houter]
      exact haround.inGroup hb
  have hwf := (hv.trans hw).of_length_le hf (Nat.zero_le _)
  obtain ⟨u, hu, htop, hsame⟩ :=
    reaches_behind haround' (isModifier_outerModifier hm) hrest hwf
  exact ⟨hgroup.of_reaches hv, u, (hv.trans hw).trans hu, htop, hsame.trans hwgroups⟩

/-- A parameter that has the next group, and no other in it, has a value that stands alone. -/
theorem standsAlone_of_isGroup
    (hgroup : IsGroup (st, src ++ rest) (st.groups + 1) p.groupBody (p.behind ++ rest))
    (hbound : ∀ u, Reaches (st, src ++ rest) (u, ')' :: (p.behind ++ rest)) →
      u.groups ≤ st.groups + 1) : Regex.StandsAlone p.groupBody := by
  rw [source_append hc hsrc] at hgroup hbound
  obtain ⟨v, hv, haround, hvgroups⟩ := p.reaches_before h (p.groupBody ++ ')' :: (p.behind ++ rest))
  obtain ⟨w, u, hw, -, hopen, hin, houter⟩ := hgroup
  obtain ⟨rfl, -⟩ := Prod.mk.inj (hv.eq_of_length hw rfl)
  refine standsAlone_of_reachesIn haround.flags hin houter ?_
  have hle := hbound u ((hw.tail hopen).trans hin.reaches)
  have hge : v.groups + 1 ≤ u.groups := hin.reaches.groups_le
  omega

end Source

end Parameter

/-! ### Reading the parts -/

namespace Template

variable {P : Text → Prop} {parts : Template} {st f : Regex.Reader}

/-- Every part has a source. -/
def HasSources (parts : Template) : Prop :=
  ∀ part ∈ parts, ∃ src, partSource part = .ok src

theorem partText_eq {part : Part} {src : Text} (h : partSource part = .ok src) :
    partText part = src := by
  rw [partText, h]
  rfl

theorem bodyText_cons {part : Part} {src : Text} (h : partSource part = .ok src) (parts : Template) :
    bodyText (part :: parts) ++ ending = src ++ (bodyText parts ++ ending) := by
  rw [bodyText, List.flatMap_cons, partText_eq h, List.append_assoc]
  rfl

theorem head?_bodyText (hsources : parts.HasSources) :
    (bodyText parts ++ ending).head? ≠ some '?' := by
  induction parts with
  | nil => decide
  | cons part parts ih =>
      have hrest := ih fun q hq => hsources q (List.mem_cons_of_mem part hq)
      obtain ⟨src, hsrc⟩ := hsources part List.mem_cons_self
      rw [bodyText_cons hsrc]
      cases part with
      | literal text =>
          cases hsrc
          have hescape := head?_escape text
          cases hnil : escape text with
          | nil => exact hrest
          | cons c s =>
              rw [hnil] at hescape
              exact hescape
      | parameter p =>
          cases hc : p.isCapturing with
          | false =>
              have hopen : src = '(' :: src.tail := by
                have : "(?:".toList ++ escape p.lead ++ escape p.trail ++ ')' :: p.modifier = src := by
                  simpa [partSource, parameterSource, hc] using hsrc
                rw [← this]
                rfl
              rw [hopen]
              exact fun h => absurd (Option.some.inj h) (by decide)
          | true =>
              rw [p.source_append hc hsrc, Parameter.before]
              split
              · exact fun h => absurd (Option.some.inj h) (by decide)
              · exact fun h => absurd (Option.some.inj h) (by decide)

/-- A part without a capturing group keeps the reader between the parts. -/
theorem reaches_uncaptured {part : Part} {src : Text} (hsrc : partSource part = .ok src)
    (hkey : part.key? = none) (hover : IsOver P (part :: parts)) (h : st.AtTop) {rest : Text}
    (hrest : rest.head? ≠ some '?') :
    ∃ u, Reaches (st, src ++ rest) (u, rest) ∧ u.AtTop ∧ u.groups = st.groups := by
  cases part with
  | literal text =>
      cases hsrc
      exact h.of_yields (Yields.escape text) hrest
  | parameter p =>
      have hc := not_isCapturing_of_key?_eq_none hkey
      have hpattern : p.pattern = [] := by simpa [Parameter.isCapturing] using hc
      have hplain : p.IsPlain := ⟨Or.inl hpattern, (hover p List.mem_cons_self).2⟩
      exact h.of_yields (Parameter.yields_of_not_capturing hplain hc hsrc).1 hrest

/-- The reader gets through the end of the source, and opens no group there. -/
theorem groups_of_ending (h : st.AtTop) (hf : Reaches (st, ending) (f, [])) :
    f.groups = st.groups := by
  have hyields : Yields .caseless st.groups ending _ st.groups := yields_ending
  have hend : ([] : Text).head? ≠ some '?' := by simp
  obtain ⟨u, hu, -, hsame⟩ := h.of_yields hyields hend
  rw [List.append_nil] at hu
  obtain ⟨rfl, -⟩ := Prod.mk.inj (hu.eq_of_length hf rfl)
  exact hsame

/-- Reading a part leaves the groups of the parts behind it where they are. -/
theorem isGroup_of_reaches {u : Regex.Reader} {s rest body after : Text} {index : Nat}
    (hgroup : IsGroup (st, s) index body after) (hu : Reaches (st, s) (u, rest))
    (hsuffix : '(' :: body ++ ')' :: after <:+ rest) : IsGroup (u, rest) index body after := by
  obtain ⟨v, w, hv, hrest⟩ := hgroup
  exact ⟨v, w, hu.of_length_le hv hsuffix.length_le, hrest⟩

theorem suffix_of_mem_groupSites (hsources : parts.HasSources) {site : Parameter × Text}
    (h : site ∈ groupSites parts) :
    '(' :: site.1.groupBody ++ ')' :: site.2 <:+ bodyText parts ++ ending := by
  induction parts with
  | nil => cases h
  | cons part parts ih =>
      have hrest : HasSources parts := fun q hq => hsources q (List.mem_cons_of_mem part hq)
      obtain ⟨src, hsrc⟩ := hsources part List.mem_cons_self
      rw [bodyText_cons hsrc]
      have hmore : ∀ {s : Text}, s <:+ bodyText parts ++ ending →
          s <:+ src ++ (bodyText parts ++ ending) := fun hs => hs.trans (List.suffix_append _ _)
      cases part with
      | literal text => exact hmore (ih hrest h)
      | parameter p =>
          rw [groupSites] at h
          split at h
          · next hc =>
              rcases List.mem_cons.mp h with rfl | h
              · rw [p.source_append hc hsrc]
                exact ⟨p.before, by simp⟩
              · exact hmore (ih hrest h)
          · exact hmore (ih hrest h)

/-- If the values of the keys stand alone, the groups are those of the keys. -/
theorem isGroup_of_standsAlone (hsources : parts.HasSources) (hover : parts.IsOver P)
    (hkeys : ∀ key ∈ parts.keys, Regex.StandsAlone key.groupBody) (h : st.AtTop)
    (hf : Reaches (st, bodyText parts ++ ending) (f, [])) :
    f.groups = st.groups + parts.keys.length ∧
      ∀ i site, (groupSites parts)[i]? = some site →
        IsGroup (st, bodyText parts ++ ending) (st.groups + i + 1) site.1.groupBody site.2 := by
  induction parts generalizing st with
  | nil =>
      refine ⟨groups_of_ending h hf, fun i site hsite => ?_⟩
      cases hsite
  | cons part parts ih =>
      have hrest : HasSources parts := fun q hq => hsources q (List.mem_cons_of_mem part hq)
      have hover' : IsOver P parts := fun p hp => hover p (List.mem_cons_of_mem part hp)
      have hhead := head?_bodyText hrest
      obtain ⟨src, hsrc⟩ := hsources part List.mem_cons_self
      rw [bodyText_cons hsrc] at hf ⊢
      cases hkey : part.key? with
      | none =>
          obtain ⟨hsame, hsites⟩ := keys_of_key?_eq_none hkey parts
          rw [hsame] at hkeys ⊢
          rw [hsites]
          obtain ⟨u, hu, htop, hgroups⟩ := reaches_uncaptured hsrc hkey hover h hhead
          obtain ⟨hcount, hgroup⟩ := ih hrest hover' hkeys htop (hu.of_length_le hf (Nat.zero_le _))
          rw [hgroups] at hcount hgroup
          exact ⟨hcount, fun i site hsite => (hgroup i site hsite).of_reaches hu⟩
      | some p =>
          obtain ⟨rfl, hc⟩ := eq_of_key?_eq_some hkey
          obtain ⟨hcons, hsites⟩ := keys_of_isCapturing hc parts
          rw [hcons] at hkeys ⊢
          rw [hsites]
          obtain ⟨hfirst, u, hu, htop, hgroups⟩ := p.reaches_source hc hsrc h
            (hover p List.mem_cons_self).2 (hkeys p List.mem_cons_self) hhead hf
          obtain ⟨hcount, hgroup⟩ := ih hrest hover'
            (fun key hmem => hkeys key (List.mem_cons_of_mem p hmem)) htop
            (hu.of_length_le hf (Nat.zero_le _))
          refine ⟨?_, fun i site hsite => ?_⟩
          · rw [hcount, hgroups, List.length_cons]
            omega
          · cases i with
            | zero =>
                cases hsite
                exact hfirst
            | succ i =>
                have hnext := (hgroup i site hsite).of_reaches hu
                have hindex : u.groups + i + 1 = st.groups + (i + 1) + 1 := by omega
                rwa [hindex] at hnext

/-- When the groups that the reader opens in the end are those of the parts, after `n` groups, it
has opened no more than `n` of them when it gets to the parts. -/
theorem groups_le_of_groupSites {s t : Text} {u : Regex.Reader} {n : Nat}
    (hsources : parts.HasSources) (hf : Reaches (st, s) (f, []))
    (hcount : f.groups = n + parts.keys.length)
    (hgroup : ∀ site ∈ (groupSites parts).head?,
      IsGroup (st, s) (n + 1) site.1.groupBody site.2)
    (hu : Reaches (st, s) (u, t)) (ht : (bodyText parts ++ ending).length ≤ t.length) :
    u.groups ≤ n := by
  cases hnext : groupSites parts with
  | nil =>
      have hnone : keys parts = [] := by
        rw [← map_fst_groupSites, hnext]
        rfl
      have hle : u.groups ≤ f.groups := (hu.of_length_le hf (Nat.zero_le _)).groups_le
      rw [hcount, hnone] at hle
      exact hle
  | cons site sites =>
      have hmem : site ∈ groupSites parts := by
        rw [hnext]
        exact List.mem_cons_self
      obtain ⟨v, -, hv, hindex, -⟩ := hgroup site (by rw [hnext]; rfl)
      have hlength := (suffix_of_mem_groupSites hsources hmem).length_le
      have hle : u.groups ≤ v.groups := (hu.of_length_le hv (Nat.le_trans hlength ht)).groups_le
      omega

/-- If the groups are those of the keys, the values of the keys stand alone. -/
theorem standsAlone_of_isGroup (hsources : parts.HasSources) (hover : parts.IsOver P)
    (h : st.AtTop) (hf : Reaches (st, bodyText parts ++ ending) (f, []))
    (hcount : f.groups = st.groups + parts.keys.length)
    (hgroup : ∀ i site, (groupSites parts)[i]? = some site →
      IsGroup (st, bodyText parts ++ ending) (st.groups + i + 1) site.1.groupBody site.2) :
    ∀ key ∈ parts.keys, Regex.StandsAlone key.groupBody := by
  induction parts generalizing st with
  | nil => exact fun key hkey => nomatch hkey
  | cons part parts ih =>
      have hrest : HasSources parts := fun q hq => hsources q (List.mem_cons_of_mem part hq)
      have hover' : IsOver P parts := fun p hp => hover p (List.mem_cons_of_mem part hp)
      have hhead := head?_bodyText hrest
      obtain ⟨src, hsrc⟩ := hsources part List.mem_cons_self
      rw [bodyText_cons hsrc] at hf hgroup
      -- What is known of the groups of the other parts, once the reader has got to them.
      have hothers : ∀ {u : Regex.Reader},
          Reaches (st, src ++ (bodyText parts ++ ending)) (u, bodyText parts ++ ending) →
          ∀ {index : Nat} {site : Parameter × Text}, site ∈ groupSites parts →
            IsGroup (st, src ++ (bodyText parts ++ ending)) index site.1.groupBody site.2 →
            IsGroup (u, bodyText parts ++ ending) index site.1.groupBody site.2 := by
        intro u hu index site hmem hsite
        exact isGroup_of_reaches hsite hu (suffix_of_mem_groupSites hrest hmem)
      cases hkey : part.key? with
      | none =>
          obtain ⟨hsame, hsites⟩ := keys_of_key?_eq_none hkey parts
          rw [hsame] at hcount ⊢
          rw [hsites] at hgroup
          obtain ⟨u, hu, htop, hgroups⟩ := reaches_uncaptured hsrc hkey hover h hhead
          refine ih hrest hover' htop (hu.of_length_le hf (Nat.zero_le _)) (by rw [hcount, hgroups]) ?_
          intro i site hsite
          rw [hgroups]
          exact hothers hu (List.mem_of_getElem? hsite) (hgroup i site hsite)
      | some p =>
          obtain ⟨rfl, hc⟩ := eq_of_key?_eq_some hkey
          obtain ⟨hcons, hsites⟩ := keys_of_isCapturing hc parts
          rw [hcons] at hcount ⊢
          rw [hsites] at hgroup
          rw [List.length_cons] at hcount
          have hbody : Regex.StandsAlone p.groupBody := by
            refine p.standsAlone_of_isGroup hc hsrc h (hgroup 0 _ rfl) fun u hu => ?_
            refine groups_le_of_groupSites hrest hf (by omega) (fun site hsite => ?_) hu ?_
            · rw [List.head?_eq_getElem?] at hsite
              exact hgroup 1 site hsite
            · simp only [List.length_cons, List.length_append]
              omega
          obtain ⟨-, u, hu, htop, hgroups⟩ := p.reaches_source hc hsrc h
            (hover p List.mem_cons_self).2 hbody hhead hf
          have hall := ih hrest hover' htop (hu.of_length_le hf (Nat.zero_le _)) (by omega) (by
            intro i site hsite
            have hindex : u.groups + i + 1 = st.groups + (i + 1) + 1 := by omega
            rw [hindex]
            exact hothers hu (List.mem_of_getElem? hsite) (hgroup (i + 1) site hsite))
          intro key hmem
          rcases List.mem_cons.mp hmem with rfl | hmem
          · exact hbody
          · exact hall key hmem

end Template

/-! ### Keys and groups -/

namespace Template

theorem hasSources_of_mapM {parts : Template} {srcs : List Text}
    (h : parts.mapM partSource = .ok srcs) :
    parts.HasSources ∧ srcs.flatten = bodyText parts := by
  induction parts generalizing srcs with
  | nil =>
      cases h
      exact ⟨fun _ hpart => (nomatch hpart), rfl⟩
  | cons part parts ih =>
      obtain ⟨src, srcs, hsrc, hsrcs, rfl⟩ := mapM_cons_eq_ok h
      obtain ⟨hsources, hflatten⟩ := ih hsrcs
      refine ⟨fun q hq => ?_, ?_⟩
      · rcases List.mem_cons.mp hq with rfl | hq
        · exact ⟨src, hsrc⟩
        · exact hsources q hq
      · rw [List.flatten_cons, hflatten, bodyText, bodyText, List.flatMap_cons, partText_eq hsrc]

/-- The reader gets to the parts of a template. -/
theorem reaches_parts (rest : Text) :
    ∃ st, Reaches (.start, "(?i)".toList ++ '^' :: rest) (st, rest) ∧ st.AtTop ∧ st.groups = 0 := by
  have hstart : Next (.caseless, '^' :: rest) (_, rest) :=
    next_iff.mpr ⟨.piece (.assert .textStart), rfl, rfl⟩
  exact ⟨_, .head (next_start _) hstart.reaches, ⟨rfl, rfl⟩, rfl⟩

end Template

namespace Matcher

variable {decode : Text → Text} {template : Text} {m : Matcher}

/-- The capturing groups of a matcher line up with its keys exactly when what its source encloses in
the parentheses of each key is an expression on its own, without capturing groups. -/
theorem linesUp_iff (hm : Matcher.ofTemplate decode template = .ok m) :
    ∃ parts,
      Template.read Template.usualLeads Template.usualDelimiter template = .ok parts ∧
      m.keys = parts.keys ∧
      (m.pattern.LinesUp parts ↔ ∀ key ∈ m.keys, Regex.StandsAlone key.groupBody) := by
  obtain ⟨parts, source, hread, hsource, hcompile, hkeys, -⟩ := ofTemplate_eq_ok hm
  refine ⟨parts, hread, hkeys, ?_⟩
  obtain ⟨lexemes, hlexemes, -⟩ := exists_of_bind_eq_ok hread
  have hover : parts.IsOver fun _ => True :=
    Template.isOver_of_read (eq_ok_of_mapError hlexemes) (fun _ _ _ => trivial) hread
  obtain ⟨srcs, hsrcs, rfl⟩ := Template.source_eq hsource
  obtain ⟨hsources, hflatten⟩ := Template.hasSources_of_mapM hsrcs
  obtain ⟨reading, hreading, hpattern⟩ := exists_of_bind_eq_ok hcompile
  obtain ⟨f, hf, -, rfl⟩ := Regex.read_eq_ok_iff.mp hreading
  have hpattern := (Except.ok.inj hpattern).symm
  obtain ⟨st, hst, htop, hzero⟩ :=
    Template.reaches_parts (Template.bodyText parts ++ Template.ending)
  rw [hflatten] at hf
  have hparts := hst.of_length_le hf (Nat.zero_le _)
  have hgroups : m.pattern.groups = f.groups := congrArg Pattern.groups hpattern
  have hsame : m.pattern.source =
      "(?i)".toList ++ '^' :: (Template.bodyText parts ++ Template.ending) := by
    rw [hpattern, hflatten]
  rw [hkeys]
  constructor
  · intro h
    refine Template.standsAlone_of_isGroup hsources hover htop hparts ?_ fun i site hsite => ?_
    · rw [hzero, Nat.zero_add, ← hgroups, h.groups]
    · have hsite' := h.isGroup i site hsite
      rw [hsame] at hsite'
      rw [hzero, Nat.zero_add]
      exact Template.isGroup_of_reaches hsite' hst
        (Template.suffix_of_mem_groupSites hsources (List.mem_of_getElem? hsite))
  · intro h
    obtain ⟨hcount, hgroup⟩ := Template.isGroup_of_standsAlone hsources hover h htop hparts
    rw [hzero, Nat.zero_add] at hcount
    refine ⟨hgroups.trans hcount, fun i site hsite => ?_⟩
    have hsite' := (hgroup i site hsite).of_reaches hst
    rw [hzero, Nat.zero_add] at hsite'
    rw [hsame]
    exact hsite'

/-- A named group inside a pattern is one more than there are keys. -/
theorem not_linesUp_named_group :
    ∃ m parts, Matcher.ofTemplate id "/(a(?P<x>b))/:y".toList = .ok m ∧
      Template.read Template.usualLeads Template.usualDelimiter "/(a(?P<x>b))/:y".toList =
        .ok parts ∧ ¬ m.pattern.LinesUp parts := by
  obtain ⟨m, hm⟩ : ∃ m, Matcher.ofTemplate id "/(a(?P<x>b))/:y".toList = .ok m := by
    have hok : (Matcher.ofTemplate id "/(a(?P<x>b))/:y".toList).toOption.isSome = true := by
      decide +kernel
    cases hm : Matcher.ofTemplate id "/(a(?P<x>b))/:y".toList with
    | error e =>
        rw [hm] at hok
        cases hok
    | ok m => exact ⟨m, rfl⟩
  obtain ⟨parts, hread, hkeys, h⟩ := linesUp_iff hm
  refine ⟨m, parts, hm, hread, fun hlinesUp => ?_⟩
  have hkey : (⟨['0'], ['/'], [], "a(?P<x>b)".toList, []⟩ : Parameter) ∈ m.keys := by
    rw [hkeys, ← Except.ok.inj hread]
    decide
  obtain ⟨⟨reading, hreading, hgroups⟩, -⟩ := h.mp hlinesUp _ hkey
  have hone : (Regex.read ("(?i)".toList ++ "a(?P<x>b)".toList)).toOption.map (·.groups) =
      some 1 := by decide +kernel
  have hreading' : Regex.read ("(?i)".toList ++ "a(?P<x>b)".toList) = .ok reading := hreading
  rw [hreading'] at hone
  have : reading.groups = 1 := Option.some.inj hone
  omega

end Matcher

end RouteMask
