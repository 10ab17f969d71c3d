import RouteMask.Proofs.Template.Captured
import RouteMask.Proofs.Text.Cut

/-! # The values of a repeated parameter

The group of a repeated parameter captures all of its values at once, with a text between them, and the
matcher splits what has been captured.  The expression puts the trail in front of the lead between two
values (`Parameter.exists_intercalate_of_spells`), but the matcher splits at the lead in front of the
trail.

* `Mask.separates_of_compile`: the separator is not empty.
* `Matcher.lookup_of_collect`: the value that the name of a key is given.
* `Mask.lookup_repeated`: the pieces that a repeated parameter is given, and when they are the values that
  its pattern has matched. -/

namespace RouteMask

/-! ### Separators -/

namespace Matcher

/-- There is a text between two values of a repeated parameter. -/
def Separates (m : Matcher) : Prop :=
  ∀ key ∈ m.keys, key.isRepeated = true → key.lead ++ key.trail ≠ []

theorem not_isRepeated_of_mem_regexKeys {p : Pattern} {count index unnamed : Nat} {key : Parameter}
    (h : key ∈ regexKeys p count index unnamed) : key.isRepeated = false := by
  induction count generalizing index unnamed with
  | zero => cases h
  | succ count ih =>
      rw [regexKeys] at h
      split at h
      · rcases List.mem_cons.mp h with rfl | h
        · rfl
        · exact ih h
      · rcases List.mem_cons.mp h with rfl | h
        · rfl
        · exact ih h

theorem separates_ofPattern (decode : Text → Text) (p : Pattern) : (ofPattern decode p).Separates := by
  intro key hkey hrepeated
  rw [not_isRepeated_of_mem_regexKeys hkey] at hrepeated
  cases hrepeated

theorem ne_nil_of_parameterSource {p : Parameter} {src : Text}
    (hsrc : Template.parameterSource p = .ok src) (hc : p.isCapturing = true)
    (hr : p.isRepeated = true) : p.lead ++ p.trail ≠ [] := by
  intro hbare
  obtain ⟨hlead, htrail⟩ := List.append_eq_nil_iff.mp hbare
  simp [Template.parameterSource, hc, hr, hlead, htrail] at hsrc

theorem separates_ofTemplate {decode : Text → Text} {template : Text} {m : Matcher}
    (h : ofTemplate decode template = .ok m) : m.Separates := by
  obtain ⟨parts, source, -, hsource, -, hkeys, -⟩ := ofTemplate_eq_ok h
  obtain ⟨srcs, hsrcs, -⟩ := Template.source_eq hsource
  intro key hkey hrepeated
  rw [hkeys, Template.keys, List.mem_filterMap] at hkey
  obtain ⟨part, hpart, hsome⟩ := hkey
  have hkey : part.key? = some key := hsome
  obtain ⟨rfl, hc⟩ := Template.eq_of_key?_eq_some hkey
  obtain ⟨src, hsrc⟩ := (Template.hasSources_of_mapM hsrcs).1 _ hpart
  exact ne_nil_of_parameterSource hsrc hc hrepeated

end Matcher

theorem Mask.separates_of_compile {decode : Text → Text} {m : Mask} {matcher : Matcher}
    (h : m.compile decode = .ok matcher) : matcher.Separates := by
  cases m with
  | text template => exact Matcher.separates_ofTemplate h
  | regex r =>
      cases h
      exact Matcher.separates_ofPattern decode r.pattern

/-! ### What the names of keys are given -/

namespace Params

/-- Giving a value changes the value of one name. -/
theorem lookup_set (params : Params) (n name : Text) (value : ParamValue) :
    (params.set n value).lookup name = if name = n then some value else params.lookup name := by
  have hne : ∀ {a b : Text}, a ≠ b → (a == b) = false := fun h => beq_eq_false_iff_ne.mpr h
  induction params with
  | nil =>
      by_cases hname : name = n
      · simp [Params.set, hname]
      · simp [Params.set, List.lookup_cons, hne hname, hname]
  | cons entry params ih =>
      obtain ⟨other, v⟩ := entry
      rw [Params.set]
      by_cases hother : other = n
      · rw [if_pos hother, List.lookup_cons, List.lookup_cons, hother]
        by_cases hname : name = n
        · simp [hname]
        · simp [hne hname, hname]
      · rw [if_neg hother, List.lookup_cons, List.lookup_cons, ih]
        by_cases hname : name = n
        · have hn : n ≠ other := fun h => hother h.symm
          simp [hname, hne hn]
        · simp [hname]

end Params

namespace Matcher

variable {decode : Text → Text} {keys : List Parameter} {groups : List (Option Text)}
  {params params' : Params}

/-- A name whose keys take no part keeps its value. -/
theorem lookup_collect_of_forall (h : collect decode keys groups params = .ok params') {name : Text}
    (hnone : ∀ (j : Nat) (other : Parameter) (w : Text), keys[j]? = some other → other.name = name →
      groups[j]? ≠ some (some w)) :
    params'.lookup name = params.lookup name := by
  induction keys generalizing groups params with
  | nil =>
      cases h
      rfl
  | cons key keys ih =>
      rcases groups with _ | ⟨_ | captured, groups⟩
      · cases h
      · exact ih h fun j => hnone (j + 1)
      · rw [ih h fun j => hnone (j + 1), Params.lookup_set, if_neg]
        rintro rfl
        exact hnone 0 key captured rfl rfl rfl

/-- A key that has captured a text gives its name the value, unless a later key of the same name has
captured one too. -/
theorem lookup_of_collect (h : collect decode keys groups params = .ok params') {i : Nat}
    {key : Parameter} (hkey : keys[i]? = some key) {v : Text} (hv : groups[i]? = some (some v))
    (hlast : ∀ (j : Nat) (other : Parameter) (w : Text), i < j → keys[j]? = some other →
      other.name = key.name → groups[j]? ≠ some (some w)) :
    params'.lookup key.name = some (valueOf decode key v) := by
  induction keys generalizing groups params i with
  | nil => cases hkey
  | cons first keys ih =>
      rcases groups with _ | ⟨captured, groups⟩
      · cases hv
      cases i with
      | zero =>
          cases hkey
          cases hv
          have hrest : collect decode keys groups (params.set key.name (valueOf decode key v)) =
              .ok params' := h
          have hkeep : params'.lookup key.name = _ := lookup_collect_of_forall hrest
            fun j other w => hlast (j + 1) other w (Nat.succ_pos j)
          rw [hkeep, Params.lookup_set, if_pos rfl]
      | succ i =>
          have hlast' : ∀ (j : Nat) (other : Parameter) (w : Text), i < j → keys[j]? = some other →
              other.name = key.name → groups[j]? ≠ some (some w) :=
            fun j other w hj => hlast (j + 1) other w (Nat.succ_lt_succ hj)
          cases captured with
          | none => exact ih h hkey hv hlast'
          | some captured => exact ih h hkey hv hlast'

end Matcher

/-! ### What a repeated parameter captures -/

namespace Regex

variable {r : Regex} {L : Text → Prop}

/-- What the expression spells is in the set, whatever is around it. -/
def Within (r : Regex) (L : Text → Prop) : Prop :=
  ∀ before p after c, Spells r before p after c → L p

theorem Within.plus {greedy : Bool} (h : Within r L) :
    Within (.plus greedy r) fun p => ∃ k, Copies L k p := by
  intro before p after c hs
  generalize hq : Regex.plus greedy r = q at hs
  induction hs with
  | once hs _ =>
      cases hq
      exact ⟨1, by simpa using Copies.more (h _ _ _ _ hs) .none⟩
  | again hs _ _ ih =>
      cases hq
      obtain ⟨k, hk⟩ := ih rfl
      exact ⟨k + 1, .more (h _ _ _ _ hs) hk⟩
  | _ => cases hq

theorem Within.star (h : Within r L) : Within (.star true r) fun p => ∃ k, Copies L k p := by
  intro before p after c hs
  rw [Regex.star, spells_opt_iff] at hs
  rcases hs with hs | ⟨rfl, -⟩
  · exact h.plus _ _ _ _ hs
  · exact ⟨0, .none⟩

/-- What an expression without word boundaries spells somewhere it matches as a whole. -/
theorem within_matchesWhole (hr : r.IsReadable) (hfree : r.isBoundaryFree = true) :
    Within r fun p => r.matchesWhole p = true := by
  intro before p after c hs
  have halone : Spells r ([] : Text) p [] c := by
    refine Spells.shrink (x := before) (y := after) hfree ?_
    rwa [List.append_nil, List.nil_append]
  exact (matchesWhole_iff hr).mpr ⟨c, halone⟩

end Regex

namespace Parameter

open Regex (Spells seqAll)

variable {p : Parameter} {r : Regex} {L : Text → Prop} {before v after : Text} {c : List (Nat × Text)}

/-- A value behind a text between two values. -/
def IsNext (gap : Text) (L : Text → Prop) (u : Text) : Prop :=
  ∃ g w, u = g ++ w ∧ SameFold gap g ∧ L w

theorem within_next (hr : r.Within L) (gap : Text) :
    (seqAll (literals gap ++ [r])).Within (IsNext gap L) := by
  intro before u after c hs
  obtain ⟨g, w, c₁, c₂, rfl, -, hg, hw⟩ := Regex.spells_seqAll_append.mp hs
  exact ⟨g, w, rfl, ((takes_literals gap ..).mp hg).1, hr _ _ _ _ hw⟩

/-- Where the text between values stands in no other case, the values are joined with it. -/
theorem exists_flatMap_of_copies {gap : Text} {k : Nat} {t : Text} (h : Copies (IsNext gap L) k t)
    (hcase : ∀ c ∈ gap, ∀ d ∈ t, d.toNat ∈ Unicode.orbit c.toNat → d = c) :
    ∃ ws : List Text, t = ws.flatMap (gap ++ ·) ∧ ∀ w ∈ ws, L w := by
  induction h with
  | none => exact ⟨[], rfl, fun w hw => (nomatch hw)⟩
  | more hu _ ih =>
      obtain ⟨g, w, rfl, hg, hw⟩ := hu
      obtain rfl := eq_of_sameFold hg fun c hc d hd => hcase c hc d (by simp [hd])
      obtain ⟨ws, rfl, hws⟩ := ih fun c hc d hd => hcase c hc d (by simp [hd])
      exact ⟨w :: ws, rfl, List.forall_mem_cons.mpr ⟨hw, hws⟩⟩

/-- What a repeated parameter captures are values, joined with its trail in front of its lead. -/
theorem exists_intercalate_of_spells (hp : p.isRepeated = true) (hr : r.Within L)
    (hs : Spells (p.valueWith r) before v after c)
    (hcase : ∀ c ∈ p.trail ++ p.lead, ∀ d ∈ v, d.toNat ∈ Unicode.orbit c.toNat → d = c) :
    ∃ ws : List Text, ws ≠ [] ∧ v = (p.trail ++ p.lead).intercalate ws ∧ ∀ w ∈ ws, L w := by
  rw [valueWith, if_pos hp] at hs
  cases hs with
  | @seq _ _ _ w t _ _ _ hfirst hmore =>
      obtain ⟨k, hk⟩ := (within_next hr (p.trail ++ p.lead)).star _ _ _ _ hmore
      obtain ⟨ws, rfl, hws⟩ :=
        exists_flatMap_of_copies hk fun c hc d hd => hcase c hc d (List.mem_append_right w hd)
      exact ⟨w :: ws, List.cons_ne_nil w ws, (Text.intercalate_cons _ w ws).symm,
        List.forall_mem_cons.mpr ⟨hr _ _ _ _ hfirst, hws⟩⟩

/-! ### Splitting -/

/-- The pattern of the parameter matches the text from its beginning to its end, without regard to
case. -/
def MatchesInFull (p : Parameter) (w : Text) : Prop :=
  ∃ reading, Regex.read ("(?i)(?:".toList ++ p.pattern ++ [')']) = .ok reading ∧
    reading.regex.matchesWhole w = true

/-- The values of a repeated parameter that has captured `v` are delimited: some character of the text
between them is in no value, that text stands in `v` in no other case, and the pattern does not look at
what is around a value. -/
structure IsDelimited (p : Parameter) (v : Text) : Prop where
  mark : ∃ c ∈ p.lead ++ p.trail, ∀ w, p.MatchesInFull w → c ∉ w
  case : ∀ c ∈ p.lead ++ p.trail, ∀ d ∈ v, d.toNat ∈ Unicode.orbit c.toNat → d = c
  isBoundaryFree : ∀ reading,
    Regex.read ("(?i)(?:".toList ++ p.pattern ++ [')']) = .ok reading →
      reading.regex.isBoundaryFree = true

/-- What is captured is split into texts that the pattern matches, if it is split at the text between the
values. -/
theorem matchesInFull_of_mem_splitOn (hp : p.isRepeated = true)
    (hcomm : p.trail ++ p.lead = p.lead ++ p.trail) (halone : Regex.StandsAlone p.pattern)
    (hstands : Regex.StandsAs p.pattern r) (hflat : r.IsFlat) (h : p.IsDelimited v)
    (hs : Spells (p.valueWith r) before v after c) :
    ∀ w ∈ Text.splitOn (p.lead ++ p.trail) v, p.MatchesInFull w := by
  obtain ⟨reading, hreading⟩ := halone.2
  obtain rfl := hstands.regex_eq hreading
  have hcase := h.case
  rw [← hcomm] at hcase
  obtain ⟨ws, hne, rfl, hws⟩ := exists_intercalate_of_spells hp
    (Regex.within_matchesWhole hflat.1 (h.isBoundaryFree reading hreading)) hs hcase
  have hfull : ∀ w ∈ ws, p.MatchesInFull w := fun w hw => ⟨reading, hreading, hws w hw⟩
  obtain ⟨mark, hmark, hfree⟩ := h.mark
  rw [hcomm, Text.splitOn_intercalate hmark hne fun w hw => hfree w (hfull w hw)]
  exact hfull

/-- A text that the pattern matches is not split. -/
theorem IsDelimited.splitOn_eq_singleton (h : p.IsDelimited v) (hv : p.MatchesInFull v) :
    Text.splitOn (p.lead ++ p.trail) v = [v] := by
  obtain ⟨mark, hmark, hfree⟩ := h.mark
  exact Text.splitOn_of_not_mem hmark (hfree v hv)

/-- The text that the expression puts between the values joins the pieces to what has been captured only
if it is the separator of the matcher or there is one piece. -/
theorem intercalate_splitOn_eq_iff (hne : p.lead ++ p.trail ≠ []) :
    (p.trail ++ p.lead).intercalate (Text.splitOn (p.lead ++ p.trail) v) = v ↔
      p.trail ++ p.lead = p.lead ++ p.trail ∨ Text.splitOn (p.lead ++ p.trail) v = [v] := by
  have hjoin := Text.intercalate_splitOn hne v
  have hlen : (p.trail ++ p.lead).length = (p.lead ++ p.trail).length := by simp [Nat.add_comm]
  have hpieces : Text.splitOn (p.lead ++ p.trail) v ≠ [] := Text.splitFrom_ne_nil _ 0 v
  have hiff := Text.intercalate_eq_intercalate_iff hlen hpieces
  rw [hjoin] at hiff
  refine hiff.trans (or_congr Iff.rfl ⟨?_, fun h => ⟨v, h⟩⟩)
  rintro ⟨w, hw⟩
  rw [hw, Text.intercalate_cons] at hjoin
  rw [hw, ← hjoin]
  simp

end Parameter

namespace Matcher

/-- The group of the key with the given index has captured the text when the URL was searched. -/
def Captures (m : Matcher) (url : Text) (i : Nat) (v : Text) : Prop :=
  ∃ groups, m.pattern.find? url = some groups ∧ groups[i + 1]? = some (some v)

theorem lookup_of_captures {m : Matcher} {url : Text} {params : Params}
    (happly : m.apply url = .ok (some params)) {i : Nat} {key : Parameter}
    (hkey : m.keys[i]? = some key) {v : Text} (hv : m.Captures url i v)
    (hlast : ∀ (j : Nat) (other : Parameter) (w : Text), i < j → m.keys[j]? = some other →
      other.name = key.name → ¬ m.Captures url j w) :
    params.lookup key.name = some (valueOf m.decode key v) := by
  obtain ⟨groups, hfind, hgroup⟩ := hv
  rw [apply, hfind] at happly
  dsimp only at happly
  obtain ⟨params', hcollect, heq⟩ : ∃ params', collect m.decode m.keys groups.tail [] = .ok params' ∧
      some params' = some params := by
    cases hcollect : collect m.decode m.keys groups.tail [] with
    | error e =>
        rw [hcollect] at happly
        cases happly
    | ok params' =>
        rw [hcollect] at happly
        exact ⟨params', rfl, Except.ok.inj happly⟩
  obtain rfl := Option.some.inj heq
  have htail : ∀ j : Nat, groups.tail[j]? = groups[j + 1]? := fun j => List.getElem?_tail
  refine lookup_of_collect hcollect hkey ((htail i).trans hgroup) fun j other w hj hother hname hw => ?_
  exact hlast j other w hj hother hname ⟨groups, hfind, (htail j).symm.trans hw⟩

end Matcher

/-! ### Parameters without a pattern of their own -/

theorem Parameter.matchesInFull_iff_isSegment {p : Parameter}
    (hp : p.pattern = Template.segmentPattern Template.usualDelimiter) {w : Text} :
    p.MatchesInFull w ↔ IsSegment w := by
  have halone : Regex.StandsAloneWith (· = segment) p.pattern :=
    hp ▸ Regex.standsAloneWith_of_yields Regex.Reader.Yields.segmentPattern rfl
  rw [← takes_segment.matchesWhole_iff isFlat_segment.1]
  constructor
  · rintro ⟨reading, hreading, hw⟩
    rwa [halone.2 reading hreading] at hw
  · intro hw
    obtain ⟨reading, hreading⟩ := halone.1.2
    exact ⟨reading, hreading, (halone.2 reading hreading).symm ▸ hw⟩

/-- Values without a pattern of their own are delimited by a lead and a trail that have a delimiter and
no letters. -/
theorem Parameter.isDelimited_of_segment {p : Parameter}
    (hp : p.pattern = Template.segmentPattern Template.usualDelimiter)
    (hmark : ∃ c ∈ p.lead ++ p.trail, c ∈ Template.usualDelimiter)
    (hcase : ∀ c ∈ p.lead ++ p.trail, c.toNat < 0x41) (v : Text) : p.IsDelimited v where
  mark := by
    obtain ⟨c, hc, hdelimiter⟩ := hmark
    exact ⟨c, hc, fun w hw hmem => ((matchesInFull_iff_isSegment hp).mp hw).2 c hmem hdelimiter⟩
  case c hc d _ hd :=
    (Char.toNat_inj.mp (Unicode.eq_of_mem_orbit hd (Or.inl (hcase c hc)))).symm
  isBoundaryFree reading hreading := by
    have halone : Regex.StandsAloneWith (·.isBoundaryFree = true) p.pattern :=
      hp ▸ Regex.standsAloneWith_of_yields Regex.Reader.Yields.segmentPattern rfl
    exact halone.2 reading hreading

theorem Matcher.isRegular_of_segments {m : Matcher}
    (h : ∀ key ∈ m.keys, key.pattern = Template.segmentPattern Template.usualDelimiter) :
    m.IsRegular :=
  fun key hkey =>
    h key hkey ▸ Regex.standsAloneWith_of_yields Regex.Reader.Yields.segmentPattern isFlat_segment

/-! ### The values of repeated parameters -/

/-- A repeated parameter is given the pieces of what its group has captured.  Joined with the lead and the
trail the pieces are the captured text; the text that the expression puts between values is the trail
and the lead, and joins them to it only if that is the same or there is one piece.  When the values are
delimited, the pieces are texts that the pattern matches and are joined by this text exactly when it is
the same or one value has been captured. -/
theorem Mask.lookup_repeated {mask : Mask} {m : Matcher} (hm : mask.compile id = .ok m) {url : Text}
    {params : Params} (happly : m.apply url = .ok (some params)) {i : Nat} {key : Parameter}
    (hkey : m.keys[i]? = some key) (hrepeated : key.isRepeated = true) {v : Text}
    (hv : m.Captures url i v)
    (hlast : ∀ (j : Nat) (other : Parameter) (w : Text), i < j → m.keys[j]? = some other →
      other.name = key.name → ¬ m.Captures url j w) :
    ∃ pieces, params.lookup key.name = some (.many pieces) ∧
      (key.lead ++ key.trail).intercalate pieces = v ∧
      ((key.trail ++ key.lead).intercalate pieces = v ↔
        key.trail ++ key.lead = key.lead ++ key.trail ∨ pieces = [v]) ∧
      (m.IsRegular → key.IsDelimited v →
        ((key.trail ++ key.lead).intercalate pieces = v ∧ (∀ w ∈ pieces, key.MatchesInFull w) ↔
          key.trail ++ key.lead = key.lead ++ key.trail ∨ key.MatchesInFull v)) := by
  have hmem := List.mem_of_getElem? hkey
  have hlookup := Matcher.lookup_of_captures happly hkey hv hlast
  cases mask with
  | regex r =>
      cases hm
      rw [Matcher.not_isRepeated_of_mem_regexKeys hmem] at hrepeated
      cases hrepeated
  | text template =>
      obtain ⟨parts, source, -, -, -, -, hdecode⟩ := Matcher.ofTemplate_eq_ok hm
      rw [hdecode, Matcher.valueOf, if_pos hrepeated, List.map_id] at hlookup
      have hne := Mask.separates_of_compile hm key hmem hrepeated
      have hjoin := key.intercalate_splitOn_eq_iff (v := v) hne
      refine ⟨Text.splitOn (key.lead ++ key.trail) v, hlookup, Text.intercalate_splitOn hne v, hjoin, ?_⟩
      intro hregular hdelimited
      constructor
      · rintro ⟨hsame, hfull⟩
        rcases hjoin.mp hsame with hcomm | hone
        · exact Or.inl hcomm
        · rw [hone] at hfull
          exact Or.inr (hfull v List.mem_cons_self)
      · rintro (hcomm | hwhole)
        · obtain ⟨groups, hfind, hgroup⟩ := hv
          obtain ⟨q, before, after, c, hq, hflat, hspells⟩ :=
            Matcher.exists_spells_of_captured hm hregular hfind hkey hgroup
          exact ⟨hjoin.mpr (Or.inl hcomm), key.matchesInFull_of_mem_splitOn hrepeated hcomm
            (hregular key hmem).1 hq hflat hdelimited hspells⟩
        · have hone := hdelimited.splitOn_eq_singleton hwhole
          refine ⟨hjoin.mpr (Or.inr hone), ?_⟩
          rw [hone]
          exact List.forall_mem_singleton.mpr hwhole

/-- Two segments, each behind a slash. -/
theorem Mask.lookup_repeated_segments :
    ∃ m params, (Mask.text "/:a+".toList).compile id = .ok m ∧
      m.apply "/x/y".toList = .ok (some params) ∧ m.Captures "/x/y".toList 0 "x/y".toList ∧
      params.lookup ['a'] = some (.many [['x'], ['y']]) ∧
      ∀ key ∈ m.keys, ∀ w ∈ [['x'], ['y']], key.MatchesInFull w := by
  obtain ⟨m, hm⟩ : ∃ m, (Mask.text "/:a+".toList).compile id = .ok m := ⟨_, rfl⟩
  have hrun : ((Mask.text "/:a+".toList).compile id).toOption.map (fun m =>
      (m.keys, m.pattern.find? "/x/y".toList)) =
        some ([⟨['a'], ['/'], [], Template.segmentPattern Template.usualDelimiter, ['+']⟩],
          some [some "/x/y".toList, some "x/y".toList]) := by decide +kernel
  generalize hkey : (⟨['a'], ['/'], [], Template.segmentPattern Template.usualDelimiter, ['+']⟩ :
    Parameter) = key at hrun
  rw [hm] at hrun
  obtain ⟨hkeys, hfind⟩ := Prod.mk.inj (Option.some.inj hrun)
  have happly : m.apply "/x/y".toList = .ok (some [(['a'], .many [['x'], ['y']])]) := by
    obtain ⟨-, -, -, -, -, -, hdecode⟩ := Matcher.ofTemplate_eq_ok hm
    rw [Matcher.apply, hfind, hkeys, hdecode, ← hkey]
    rfl
  have hcaptures : m.Captures "/x/y".toList 0 "x/y".toList := ⟨_, hfind, rfl⟩
  have hlast : ∀ (j : Nat) (other : Parameter) (w : Text), 0 < j → m.keys[j]? = some other →
      other.name = key.name → ¬ m.Captures "/x/y".toList j w := by
    intro j other w hj hother
    obtain ⟨j, rfl⟩ : ∃ n, j = n + 1 := ⟨j - 1, by omega⟩
    rw [hkeys] at hother
    cases hother
  have hpattern : ∀ other ∈ m.keys,
      other.pattern = Template.segmentPattern Template.usualDelimiter := by
    intro other hother
    rw [hkeys, List.mem_singleton] at hother
    rw [hother, ← hkey]
  have hfirst : m.keys[0]? = some key := by rw [hkeys]; rfl
  obtain ⟨pieces, hlookup, -, -, hfull⟩ :=
    Mask.lookup_repeated hm happly hfirst (by rw [← hkey]; rfl) hcaptures hlast
  have hgap : key.lead ++ key.trail = ['/'] := by rw [← hkey]; rfl
  have hdelimited : key.IsDelimited "x/y".toList := by
    refine Parameter.isDelimited_of_segment (by rw [← hkey]) ?_ ?_ _
    · exact ⟨'/', by rw [hgap]; exact List.mem_cons_self, by decide⟩
    · rw [hgap]
      exact List.forall_mem_singleton.mpr (by decide)
  obtain rfl : pieces = [['x'], ['y']] := by
    rw [← hkey] at hlookup
    exact (ParamValue.many.inj (Option.some.inj hlookup)).symm
  refine ⟨m, _, hm, happly, hcaptures, rfl, fun other hother => ?_⟩
  rw [hkeys, List.mem_singleton] at hother
  rw [hother]
  exact ((hfull (Matcher.isRegular_of_segments hpattern) hdelimited).mpr
    (Or.inl (by rw [← hkey]; rfl))).2

/-- A trail behind the values, which stands in front of the lead between them, is not found. -/
example : ((Mask.text "{/:a-}+".toList).compile id).toOption.map
    (fun m => (m.apply "/x-/y-".toList).toOption) =
      some (some (some [(['a'], .many ["x-/y".toList])])) := by decide +kernel

end RouteMask
