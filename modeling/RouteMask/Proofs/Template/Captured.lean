import RouteMask.Proofs.Regex.Embedding
import RouteMask.Proofs.Template.Groups

/-! # What the keys of a template capture

When the patterns of the keys stand alone, the source of a template is read part by part
(`Template.exists_reads`), and the groups of its expression are the values of the keys, in order
(`Template.HasValues`).  So what a group has captured is spelled by the value of its key
(`Matcher.exists_spells_of_captured`). -/

namespace RouteMask

open Regex (Spells StandsAs StandsAloneWith seqAll)
open Regex.Reader

namespace Regex

variable {r : Regex} {rs : List Regex}

theorem map_fst_groupNodes (r : Regex) : r.groupNodes.map Prod.fst = r.indices := by
  induction r with
  | empty | set _ | anyByte | assert _ => rfl
  | seq a b iha ihb | alt a b iha ihb => rw [groupNodes, indices, List.map_append, iha, ihb]
  | plus _ a ih => exact ih
  | group index a ih => rw [groupNodes, indices, List.map_cons, ih]

theorem IsFlat.groupNodes_eq_nil (h : r.IsFlat) : r.groupNodes = [] := by
  have := map_fst_groupNodes r
  rw [h.2] at this
  exact List.map_eq_nil_iff.mp this

theorem exists_of_mem_groupNodes_seqAll {node : Nat × Regex} (h : node ∈ (seqAll rs).groupNodes) :
    ∃ r ∈ rs, node ∈ r.groupNodes := by
  induction rs with
  | nil => cases h
  | cons r rs ih =>
      cases rs with
      | nil => exact ⟨r, List.mem_cons_self, h⟩
      | cons q rs =>
          rcases List.mem_append.mp h with h | h
          · exact ⟨r, List.mem_cons_self, h⟩
          · obtain ⟨s, hs, hnode⟩ := ih h
            exact ⟨s, List.mem_cons_of_mem r hs, hnode⟩

theorem groupNodes_modified (m : Text) (r : Regex) : (modified m r).groupNodes = r.groupNodes := by
  unfold modified star opt
  split
  · simp [groupNodes]
  split
  · simp [groupNodes]
  split
  · rfl
  · rfl

/-- An atom and a modifier. -/
theorem Reader.ReadsAtom.modified {n m : Nat} {text modifier : Text}
    (h : ReadsAtom .caseless n text r m) (hm : IsModifier modifier) :
    Reads .caseless n (text ++ modifier) [RouteMask.modified modifier r] m := by
  rcases hm with rfl | rfl | rfl | rfl
  · rw [List.append_nil]
    exact h.reads
  · exact h.repeated '?' 0 (some 1) fun _ => rfl
  · exact h.repeated '*' 0 none fun _ => rfl
  · exact h.repeated '+' 1 none fun _ => rfl

end Regex

namespace Parameter

variable {p : Parameter} {src : Text} {n : Nat} {r : Regex}

/-! ### Expressions of parameters -/

/-- The capturing group of a parameter whose pattern stands alone is read as its values. -/
theorem readsAtom_groupBody (hr : StandsAs p.pattern r) :
    ReadsAtom .caseless n ('(' :: p.groupBody ++ [')']) (.group (n + 1) (p.valueWith r)) (n + 1) := by
  unfold groupBody valueWith
  split
  · have hitem : ReadsAtom .caseless (n + 1) _ r (n + 1) := readsAtom_enclosed hr
    have hgap : Reads .caseless (n + 1) (Template.escape p.trail ++ Template.escape p.lead)
        (literals p.trail ++ literals p.lead) (n + 1) :=
      ((Yields.escape p.trail).append (Yields.escape p.lead) (head?_escape p.lead)).reads
    have hmore : Reads .caseless (n + 1) _
        [.star true (seqAll (literals p.trail ++ literals p.lead ++ [r]))] (n + 1) :=
      (hgap.append hitem.reads (by simp)).enclosed.repeated '*' 0 none fun _ => rfl
    have hall := (hitem.reads.append hmore (by simp)).captured (by simp)
    simpa [seqAll] using hall
  · exact readsAtom_captured hr

/-- The source of a parameter whose pattern stands alone is read as its expression. -/
theorem reads_source (hc : p.isCapturing = true) (hsrc : Template.parameterSource p = .ok src)
    (hm : IsModifier p.modifier) (hr : StandsAs p.pattern r) :
    Reads .caseless n src [p.expression n r] (n + 1) := by
  have hvalue : ReadsAtom .caseless n _ _ (n + 1) := readsAtom_groupBody hr
  rw [source_eq hc hsrc, before, behind, expression]
  split
  · next hbare =>
      have hread := hvalue.modified (isModifier_outerModifier hm)
      rw [hbare.1, hbare.2]
      simpa [literals, seqAll] using hread
  · next hbare =>
      have hlead : Reads .caseless n (Template.escape p.lead) (literals p.lead) n :=
        (Yields.escape p.lead).reads
      have htrail : Reads .caseless (n + 1) (Template.escape p.trail) (literals p.trail) (n + 1) :=
        (Yields.escape p.trail).reads
      have hinner := (hlead.append hvalue.reads (by simp)).append htrail (head?_escape p.trail)
      have hread := hinner.enclosed.modified (isModifier_outerModifier hm)
      simpa using hread

theorem eq_of_mem_groupNodes_expression (hr : r.IsFlat) {node : Nat × Regex}
    (h : node ∈ (p.expression n r).groupNodes) : node = (n + 1, p.valueWith r) := by
  have hliterals : ∀ text : Text, ∀ q ∈ literals text, node ∉ q.groupNodes := by
    intro text q hq
    rw [(isFlat_of_mem_literals hq).groupNodes_eq_nil]
    exact List.not_mem_nil
  rw [expression, Regex.groupNodes_modified] at h
  obtain ⟨q, hq, hnode⟩ := Regex.exists_of_mem_groupNodes_seqAll h
  rcases List.mem_append.mp hq with hq | hq
  · exact absurd hnode (hliterals p.lead q hq)
  rcases List.mem_cons.mp hq with rfl | hq
  · rw [Regex.groupNodes, (isFlat_valueWith hr p).groupNodes_eq_nil] at hnode
    exact List.mem_singleton.mp hnode
  · exact absurd hnode (hliterals p.trail q hq)

/-- A parameter without a pattern has no groups in its expression. -/
theorem groupNodes_regex (hc : p.isCapturing = false) (n : Nat) : (p.regex n).groupNodes = [] := by
  have hflat : (seqAll (p.inner n)).IsFlat := by
    refine Regex.isFlat_seqAll fun q hq => ?_
    rw [inner, hc] at hq
    exact isFlat_of_mem_literals hq
  rw [regex, Regex.groupNodes_modified, hflat.groupNodes_eq_nil]

end Parameter

namespace Template

/-! ### Expressions of templates -/

/-- Expressions whose groups, from number `n` on, are the values of the keys. -/
structure HasValues (n : Nat) (keys : List Parameter) (rs : List Regex) : Prop where
  isReadable : ∀ r ∈ rs, r.IsReadable
  value : ∀ r ∈ rs, ∀ node ∈ r.groupNodes, ∃ i key q, keys[i]? = some key ∧
    StandsAs key.pattern q ∧ q.IsFlat ∧ node = (n + i + 1, key.valueWith q)

variable {n : Nat} {keys : List Parameter} {rs qs : List Regex} {P : Text → Prop} {parts : Template}

/-- Expressions without groups may stand in front. -/
theorem HasValues.append (h : HasValues n keys rs) (hreadable : ∀ q ∈ qs, q.IsReadable)
    (hnone : ∀ q ∈ qs, q.groupNodes = []) : HasValues n keys (qs ++ rs) where
  isReadable r hr := (List.mem_append.mp hr).elim (hreadable r) (h.isReadable r)
  value r hr node hnode := by
    rcases List.mem_append.mp hr with hr | hr
    · rw [hnone r hr] at hnode
      cases hnode
    · exact h.value r hr node hnode

/-- The expression of a key may stand in front. -/
theorem HasValues.cons {p : Parameter} {r : Regex} (h : HasValues (n + 1) keys rs)
    (hr : StandsAs p.pattern r) (hflat : r.IsFlat) :
    HasValues n (p :: keys) (p.expression n r :: rs) where
  isReadable q hq := by
    rcases List.mem_cons.mp hq with rfl | hq
    · exact Parameter.isReadable_expression hflat
    · exact h.isReadable q hq
  value q hq node hnode := by
    rcases List.mem_cons.mp hq with rfl | hq
    · exact ⟨0, p, r, rfl, hr, hflat, Parameter.eq_of_mem_groupNodes_expression hflat hnode⟩
    · obtain ⟨i, key, s, hkey, hs, hsflat, rfl⟩ := h.value q hq node hnode
      refine ⟨i + 1, key, s, hkey, hs, hsflat, ?_⟩
      rw [Nat.add_right_comm n 1 i]
      rfl

/-- A part without a key is read as expressions without groups. -/
theorem exists_reads_of_key?_eq_none {part : Part} {src : Text} (hsrc : partSource part = .ok src)
    (hkey : part.key? = none) (hover : IsOver P (part :: parts)) (n : Nat) :
    ∃ qs, Reads .caseless n src qs n ∧ (∀ q ∈ qs, q.IsReadable) ∧ ∀ q ∈ qs, q.groupNodes = [] := by
  cases part with
  | literal text =>
      cases hsrc
      exact ⟨literals text, (Yields.escape text).reads, fun q hq => (isFlat_of_mem_literals hq).1,
        fun q hq => (isFlat_of_mem_literals hq).groupNodes_eq_nil⟩
  | parameter p =>
      have hc := not_isCapturing_of_key?_eq_none hkey
      have hpattern : p.pattern = [] := by simpa [Parameter.isCapturing] using hc
      have hplain : p.IsPlain := ⟨Or.inl hpattern, (hover p List.mem_cons_self).2⟩
      refine ⟨[p.regex n], (Parameter.yields_of_not_capturing hplain hc hsrc).1.reads, ?_, ?_⟩
      · intro q hq
        obtain rfl := List.mem_singleton.mp hq
        exact p.isReadable_regex n
      · intro q hq
        obtain rfl := List.mem_singleton.mp hq
        exact p.groupNodes_regex hc n

/-- If the patterns of the keys stand alone, the parts are read as expressions whose groups are the
values of the keys. -/
theorem exists_reads (hsources : parts.HasSources) (hover : parts.IsOver P)
    (hkeys : ∀ key ∈ parts.keys, StandsAloneWith Regex.IsFlat key.pattern) (n : Nat) :
    ∃ rs, Reads .caseless n (bodyText parts ++ ending) rs (n + parts.keys.length) ∧
      HasValues n parts.keys rs := by
  induction parts generalizing n with
  | nil =>
      refine ⟨_, yields_ending.reads, ?_, ?_⟩
      · intro r hr
        simp only [List.mem_cons, List.not_mem_nil, or_false] at hr
        rcases hr with rfl | rfl
        · exact ⟨rfl, rfl⟩
        · exact ⟨rfl, rfl⟩
      · intro r hr node hnode
        simp only [List.mem_cons, List.not_mem_nil, or_false] at hr
        rcases hr with rfl | rfl
        · cases hnode
        · cases hnode
  | cons part parts ih =>
      have hrest : HasSources parts := fun q hq => hsources q (List.mem_cons_of_mem part hq)
      have hover' : IsOver P parts := fun p hp => hover p (List.mem_cons_of_mem part hp)
      have hhead := head?_bodyText hrest
      obtain ⟨src, hsrc⟩ := hsources part List.mem_cons_self
      rw [bodyText_cons hsrc]
      cases hkey : part.key? with
      | none =>
          obtain ⟨hsame, -⟩ := keys_of_key?_eq_none hkey parts
          rw [hsame] at hkeys ⊢
          obtain ⟨qs, hqs, hreadable, hnone⟩ := exists_reads_of_key?_eq_none hsrc hkey hover n
          obtain ⟨rs, hrs, hvalues⟩ := ih hrest hover' hkeys n
          exact ⟨qs ++ rs, hqs.append hrs hhead, hvalues.append hreadable hnone⟩
      | some p =>
          obtain ⟨rfl, hc⟩ := eq_of_key?_eq_some hkey
          obtain ⟨hcons, -⟩ := keys_of_isCapturing hc parts
          rw [hcons] at hkeys ⊢
          obtain ⟨r, hr, hflat⟩ := (hkeys p List.mem_cons_self).exists_standsAs
          have hfirst : Reads .caseless n src _ (n + 1) :=
            Parameter.reads_source hc hsrc (hover p List.mem_cons_self).2 hr
          obtain ⟨rs, hrs, hvalues⟩ := ih hrest hover'
            (fun key hmem => hkeys key (List.mem_cons_of_mem p hmem)) (n + 1)
          refine ⟨p.expression n r :: rs, ?_, hvalues.cons hr hflat⟩
          have hcount : n + (p :: keys parts).length = n + 1 + (keys parts).length := by
            rw [List.length_cons]
            omega
          rw [hcount]
          exact hfirst.append hrs hhead

end Template

/-! ### Captured texts -/

namespace Matcher

/-- The patterns of the keys are expressions on their own, without groups, that can be described by
texts. -/
def IsRegular (m : Matcher) : Prop :=
  ∀ key ∈ m.keys, StandsAloneWith Regex.IsFlat key.pattern

variable {decode : Text → Text} {template url : Text} {m : Matcher}

/-- The pattern of a matcher of a template searches for expressions whose groups are the values of the
keys. -/
theorem exists_program (hm : Matcher.ofTemplate decode template = .ok m) (h : m.IsRegular) :
    ∃ rs, m.pattern.program = (seqAll (.assert .textStart :: rs)).assemble ∧
      Template.HasValues 0 m.keys rs ∧ m.pattern.groups = m.keys.length := by
  obtain ⟨parts, source, hread, hsource, hcompile, hkeys, -⟩ := ofTemplate_eq_ok hm
  obtain ⟨lexemes, hlexemes, -⟩ := exists_of_bind_eq_ok hread
  have hover : parts.IsOver fun _ => True :=
    Template.isOver_of_read (eq_ok_of_mapError hlexemes) (fun _ _ _ => trivial) hread
  obtain ⟨srcs, hsrcs, rfl⟩ := Template.source_eq hsource
  obtain ⟨hsources, hflatten⟩ := Template.hasSources_of_mapM hsrcs
  obtain ⟨reading, hreading, hpattern⟩ := exists_of_bind_eq_ok hcompile
  have hpattern := (Except.ok.inj hpattern).symm
  rw [IsRegular, hkeys] at h
  obtain ⟨rs, hrs, hvalues⟩ := Template.exists_reads hsources hover h 0
  have hall : Reads .caseless 0 ('^' :: (Template.bodyText parts ++ Template.ending)) _
      (0 + parts.keys.length) :=
    Template.yields_start.reads.append hrs (Template.head?_bodyText hsources)
  rw [hflatten] at hreading
  obtain ⟨hregex, hgroups⟩ := Regex.regex_of_reads hall hreading
  refine ⟨rs, ?_, hkeys ▸ hvalues, ?_⟩
  · rw [hpattern, hregex]
    rfl
  · rw [hpattern, hgroups, hkeys, Nat.zero_add]

/-- What the group of a key has captured is spelled by the values of the key. -/
theorem exists_spells_of_captured (hm : Matcher.ofTemplate decode template = .ok m)
    (hregular : m.IsRegular) {groups : List (Option Text)} (hfind : m.pattern.find? url = some groups)
    {i : Nat} {key : Parameter} (hkey : m.keys[i]? = some key) {v : Text}
    (hv : groups[i + 1]? = some (some v)) :
    ∃ q before after c, StandsAs key.pattern q ∧ q.IsFlat ∧
      Spells (key.valueWith q) before v after c := by
  obtain ⟨rs, hprogram, hvalues, hgroups⟩ := exists_program hm hregular
  obtain ⟨hchar, hnested⟩ : (seqAll (.assert .textStart :: rs)).IsReadable := by
    refine Regex.isReadable_seqAll fun r hr => ?_
    rcases List.mem_cons.mp hr with rfl | hr
    · exact ⟨rfl, rfl⟩
    · exact hvalues.isReadable r hr
  obtain ⟨piece, after, c, -, hspells, rfl⟩ := Pattern.find?_sound hprogram hchar hnested
    (fun i j saved hmatch => Regex.eq_zero_of_matches hmatch) hfind
  obtain ⟨hi, -⟩ := List.getElem?_eq_some_iff.mp hkey
  have hlookup : c.lookup (i + 1) = some v := by
    simpa [Pattern.groupTexts, hgroups, hi] using hv
  obtain ⟨front, rest, rfl, -⟩ := List.lookup_eq_some_iff.mp hlookup
  obtain ⟨a, before, after, d, hnode, ha⟩ :=
    hspells.exists_of_mem (List.mem_append_right front List.mem_cons_self)
  obtain ⟨r, hr, hnode⟩ := Regex.exists_of_mem_groupNodes_seqAll hnode
  rcases List.mem_cons.mp hr with rfl | hr
  · cases hnode
  · obtain ⟨j, other, q, hother, hq, hflat, heq⟩ := hvalues.value r hr _ hnode
    obtain ⟨hindex, rfl⟩ := Prod.mk.inj heq
    rw [Nat.zero_add] at hindex
    obtain rfl := Nat.succ.inj hindex
    obtain rfl := Option.some.inj (hkey.symm.trans hother)
    exact ⟨q, before, after, d, hq, hflat, ha⟩

end Matcher

end RouteMask
