import RouteMask.Proofs.Mask.Wildcard
import RouteMask.Proofs.Request.Expansion
import RouteMask.Proofs.Template.Repeated

/-! # Repetition of a parameter

A mask whose path ends in a repeated parameter takes any number of values, each percent-encoded as a
segment of its own.  Matching gives the values back in their order (`Mask.outcome_repeated`): an encoded
value holds no slash, so the path is cut where it was put together.

* `Mask.exists_matcher_repeated`: such a mask is a literal and one parameter.
* `Matcher.apply_repeated` and `Matcher.apply_unrepeated`: what the parameter takes of some segments, and
  of none. -/

namespace RouteMask

open PathSegment (path)

/-! ### Segments for a repeated parameter -/

namespace Item

variable {name : Text} {modifier : Char}

theorem areSegments_path {segment : Text} {segments : List Text}
    (h : ∀ s ∈ segment :: segments, IsSegment s) : AreSegments ['/'] (segment ++ path segments) := by
  have hcopies : ∀ segments : List Text, (∀ s ∈ segments, IsSegment s) →
      Copies (fun u => ∃ g w, u = g ++ w ∧ SameFold ['/'] g ∧ IsSegment w) segments.length
        (path segments) := by
    intro segments h
    induction segments with
    | nil => exact .none
    | cons s segments ih =>
        refine .more (s := '/' :: s) ?_ (ih fun u hu => h u (List.mem_cons_of_mem s hu))
        exact ⟨['/'], s, rfl, sameFold_refl _, h s List.mem_cons_self⟩
  exact ⟨segment, path segments, segments.length, rfl, h segment List.mem_cons_self,
    hcopies segments fun s hs => h s (List.mem_cons_of_mem segment hs)⟩

/-- A repeated parameter takes what stands behind a slash; it takes nothing only under a star. -/
theorem takes_repeated_iff (hmodifier : modifier = '+' ∨ modifier = '*') {s : Text}
    {value : Option Text} :
    (repeated name modifier).Takes s value ↔
      (∃ v, s = '/' :: v ∧ AreSegments ['/'] v ∧ value = some v) ∨
        modifier = '*' ∧ s = [] ∧ value = none := by
  have hrepeated : (repeated name modifier).isRepeated = true := by
    rcases hmodifier with rfl | rfl <;> rfl
  constructor
  · intro h
    cases h with
    | single hr => rw [hrepeated] at hr; cases hr
    | several _ hlead hv htrail =>
        refine Or.inl ⟨_, ?_, hv, rfl⟩
        rw [eq_of_sameFold_slash hlead, eq_of_sameFold_nil htrail, List.append_nil]
        rfl
    | absent hm =>
        refine Or.inr ⟨?_, rfl, rfl⟩
        rcases hmodifier with rfl | rfl
        · rcases hm with hm | hm <;> cases hm
        · rfl
  · rintro (⟨v, rfl, hv, rfl⟩ | ⟨rfl, rfl, rfl⟩)
    · have hlead : ('/' :: v : Text) = ['/'] ++ v ++ [] := by simp
      rw [hlead]
      exact .several hrepeated (sameFold_refl _) hv (sameFold_refl _)
    · exact .absent (Or.inr rfl)

end Item

/-! ### Matching -/

namespace Matcher

variable {m : Matcher} {front name : Text} {modifier : Char}

theorem collect_single (decode : Text → Text) (key : Parameter) (value : Option Text) :
    collect decode [key] [value] [] =
      .ok (value.map fun v => (key.name, valueOf decode key v)).toList := by
  cases value <;> rfl

section

variable (hpattern : m.pattern.IsOf (.literalThen front (Item.repeated name modifier)))
  (hkeys : m.keys = [Item.repeated name modifier]) (hmodifier : modifier = '+' ∨ modifier = '*')

include hpattern hkeys hmodifier

/-- The values of a repeated parameter are the segments behind the literal. -/
theorem apply_repeated {segments : List Text} (hne : segments ≠ [])
    (h : ∀ s ∈ segments, IsSegment s) :
    m.apply (front ++ path segments) = .ok (some [(name, .many (segments.map m.decode))]) := by
  obtain ⟨segment, more, hsegments⟩ := List.exists_cons_of_ne_nil hne
  have hpath : path segments = '/' :: (segment ++ path more) := by rw [hsegments]; rfl
  have htakes : (Item.repeated name modifier).Takes (path segments) (some (segment ++ path more)) :=
    (Item.takes_repeated_iff hmodifier).mpr
      (Or.inl ⟨_, hpath, Item.areSegments_path (hsegments ▸ h), rfl⟩)
  have haccepts : (Template.literalThen front (Item.repeated name modifier)).Accepts
      (front ++ path segments) [some (segment ++ path more)] :=
    (Template.accepts_literal_iff rfl).mpr ⟨_, _, htakes, rfl, Or.inl rfl⟩
  have hunique : ∀ other, (Template.literalThen front (Item.repeated name modifier)).Accepts
      (front ++ path segments) other → other = [some (segment ++ path more)] := by
    intro other hother
    obtain ⟨b, value, hb, rfl, hcut⟩ := (Template.accepts_literal_iff rfl).mp hother
    have hall : path segments = b := by
      rcases hcut with hcut | ⟨c, hc, hcut⟩
      · exact hcut
      · exact absurd (by rw [hcut, List.getLast?_concat]) (PathSegment.getLast?_path_ne hne h hc)
    subst hall
    rcases (Item.takes_repeated_iff hmodifier).mp hb with ⟨v, hv, -, rfl⟩ | ⟨-, hnil, -⟩
    · rw [(List.cons.inj (hpath.symm.trans hv)).2]
    · rw [hpath] at hnil
      cases hnil
  have hslash : ∀ s ∈ segment :: more, '/' ∉ s := fun s hs =>
    Item.slash_not_mem_of_isSegment (h s (hsegments ▸ hs))
  have hvalue : valueOf m.decode (Item.repeated name modifier) (segment ++ path more) =
      .many (segments.map m.decode) := by
    have hrepeated : (Item.repeated name modifier).isRepeated = true := by
      rcases hmodifier with rfl | rfl <;> rfl
    have hsplit : Text.splitOn ['/'] (segment ++ path more) = segments :=
      (PathSegment.splitOn_path hslash).trans hsegments.symm
    rw [valueOf, if_pos hrepeated]
    exact congrArg (fun texts => ParamValue.many (texts.map m.decode)) hsplit
  rw [apply_of_accepts hpattern (Item.isPlain_repeated front hmodifier) haccepts hunique, hkeys,
    collect_single, Option.map_some, hvalue]
  rfl

/-- Where nothing stands behind the literal, or a slash alone, a repeated parameter takes nothing; only
one that can be absent is matched. -/
theorem apply_unrepeated {t : Text} (ht : t = [] ∨ t = ['/']) :
    m.apply (front ++ t) = .ok (if modifier = '*' then some [] else none) := by
  have hnothing : ∀ taken, (Template.literalThen front (Item.repeated name modifier)).Accepts
      (front ++ t) taken → modifier = '*' ∧ taken = [none] := by
    intro taken htaken
    obtain ⟨b, value, hb, rfl, hcut⟩ := (Template.accepts_literal_iff rfl).mp htaken
    rcases (Item.takes_repeated_iff hmodifier).mp hb with ⟨v, rfl, hv, rfl⟩ | ⟨hstar, -, rfl⟩
    · obtain ⟨w, u, k, rfl, hw, -⟩ := hv
      have hlength : t.length ≤ 1 := by rcases ht with rfl | rfl <;> simp
      have hlong : 2 ≤ t.length := by
        have hpos := List.length_pos_iff.mpr hw.1
        rcases hcut with rfl | ⟨c, -, rfl⟩
        · simp
          omega
        · simp
          omega
      omega
    · exact ⟨hstar, rfl⟩
  have hplain : (Template.literalThen front (Item.repeated name modifier)).IsPlain :=
    Item.isPlain_repeated front hmodifier
  split
  · next hstar =>
      have htakes : (Item.repeated name modifier).Takes [] none :=
        (Item.takes_repeated_iff hmodifier).mpr (Or.inr ⟨hstar, rfl, rfl⟩)
      have haccepts : (Template.literalThen front (Item.repeated name modifier)).Accepts
          (front ++ t) [none] := by
        refine (Template.accepts_literal_iff rfl).mpr ⟨_, _, htakes, rfl, ?_⟩
        rcases ht with rfl | rfl
        · exact Or.inl rfl
        · exact Or.inr ⟨'/', by decide, rfl⟩
      rw [apply_of_accepts hpattern hplain haccepts fun other hother => (hnothing other hother).2,
        hkeys, collect_single]
      rfl
  · next hstar =>
      exact apply_of_not_accepts hpattern hplain fun taken htaken => hstar (hnothing taken htaken).1

end

end Matcher

/-! ### Masks -/

/-- The outcome for a parameter that has taken values; without a value only one that can be absent is
matched. -/
def Outcome.ofValues (name : Text) (modifier : Char) : List Text → Outcome
  | [] => if modifier = '*' then ⟨true, []⟩ else .refused
  | value :: values => ⟨true, [(name, .many (value :: values))]⟩

namespace Mask

/-- A name of letters and underscores. -/
def IsLettered (name : Text) : Prop :=
  name ≠ [] ∧ ∀ c ∈ name, c.isAlpha = true ∨ c = '_'

/-- Literals in front of a parameter. -/
def repeatedSegments (literals : List Text) (name : Text) : List PathSegment :=
  literals.map .literal ++ [.slot name]

/-- The path of a mask that ends in a repeated parameter. -/
def repeatedPath (literals : List Text) (name : Text) (modifier : Char) : Text :=
  path literals ++ Item.repeatedText name modifier

variable {o : Origin} {literals : List Text} {name : Text} {modifier : Char}

theorem IsLettered.isNameChar (hname : IsLettered name) : ∀ c ∈ name, Lexeme.isNameChar c = true := by
  intro c hc
  rcases hname.2 c hc with h | rfl
  · simp [Lexeme.isNameChar, Char.isAlphanum, h]
  · rfl

theorem IsLettered.isWordChar (hname : IsLettered name) : ∀ c ∈ name, Wildcard.isWordChar c = true := by
  intro c hc
  rcases hname.2 c hc with h | rfl
  · simp [Wildcard.isWordChar, h]
  · rfl

theorem map_inMask_repeatedSegments (literals : List Text) (name : Text) :
    (repeatedSegments literals name).map PathSegment.inMask = literals ++ [':' :: name] := by
  have hliterals : (literals.map PathSegment.literal).map PathSegment.inMask = literals := by
    rw [List.map_map]
    exact List.map_id _
  rw [repeatedSegments, List.map_append, hliterals]
  rfl

theorem repeatedPath_eq (literals : List Text) (name : Text) (modifier : Char) :
    repeatedPath literals name modifier =
      path ((repeatedSegments literals name).map PathSegment.inMask) ++ [modifier] := by
  rw [map_inMask_repeatedSegments]
  simp [repeatedPath, path, Item.repeatedText]

section

variable (hliterals : ∀ s ∈ literals, s ≠ [] ∧ ∀ c ∈ s, Percent.unreserved c = true)
  (hname : IsLettered name)

include hliterals hname

theorem isValid_repeatedSegments : ∀ s ∈ repeatedSegments literals name, s.IsValid := by
  intro s hs
  rcases List.mem_append.mp hs with hs | hs
  · obtain ⟨text, htext, rfl⟩ := List.mem_map.mp hs
    exact hliterals text htext
  · obtain rfl := List.mem_singleton.mp hs
    exact ⟨hname.1, hname.isNameChar⟩

theorem ne_of_mem_repeatedPath (hmodifier : modifier = '+' ∨ modifier = '*') :
    ∀ c ∈ repeatedPath literals name modifier, c ≠ '?' ∧ c ≠ '#' := by
  intro c hc
  rw [repeatedPath_eq] at hc
  rcases List.mem_append.mp hc with hc | hc
  · have := PathSegment.mem_path_inMask (isValid_repeatedSegments hliterals hname) hc
    exact ⟨this.1, this.2.1⟩
  · obtain rfl := List.mem_singleton.mp hc
    rcases hmodifier with rfl | rfl <;> decide

theorem isPath_repeatedPath (hmodifier : modifier = '+' ∨ modifier = '*') :
    Skeleton.isPath (repeatedPath literals name modifier) = true := by
  have hpath : repeatedPath literals name modifier =
      path (literals ++ [':' :: (name ++ [modifier])]) := by
    simp [repeatedPath, path, Item.repeatedText]
  rw [hpath]
  refine PathSegment.isPath_path fun s hs => ?_
  rcases List.mem_append.mp hs with hs | hs
  · exact ⟨(hliterals s hs).1, fun c hc =>
      PathSegment.isSegmentChar_of_unreserved ((hliterals s hs).2 c hc)⟩
  · obtain rfl := List.mem_singleton.mp hs
    have hslot : (PathSegment.slot name).IsValid := ⟨hname.1, hname.isNameChar⟩
    refine ⟨List.cons_ne_nil _ _, fun c hc => ?_⟩
    rcases List.mem_append.mp (show c ∈ (':' :: name) ++ [modifier] from hc) with hc | hc
    · rcases PathSegment.mem_inMask hslot hc with hc | rfl
      · exact PathSegment.isSegmentChar_of_unreserved hc
      · exact PathSegment.isSegmentChar_of_range (by decide) (by decide)
    · obtain rfl := List.mem_singleton.mp hc
      rcases hmodifier with rfl | rfl <;>
        exact PathSegment.isSegmentChar_of_range (by decide) (by decide)

/-- The modifier of a repeated parameter is no wildcard. -/
theorem expand_repeatedPath (o : Origin) (hmodifier : modifier = '+' ∨ modifier = '*') :
    Wildcard.expand (o.text ++ repeatedPath literals name modifier) =
      o.text ++ repeatedPath literals name modifier := by
  have hfree : '*' ∉ path ((repeatedSegments literals name).map PathSegment.inMask) := fun hc =>
    (PathSegment.mem_path_inMask (isValid_repeatedSegments hliterals hname) hc).2.2 rfl
  rcases hmodifier with rfl | rfl
  · refine Wildcard.expand_eq_self (o.star_not_mem_append ?_)
    rw [repeatedPath_eq]
    simpa using hfree
  · have hopens : Wildcard.OpensWithColon
        (o.text ++ path ((repeatedSegments literals name).map PathSegment.inMask)) := by
      have hfront : o.text ++ path ((repeatedSegments literals name).map PathSegment.inMask) =
          (o.text ++ path literals ++ ['/']) ++ ':' :: name := by
        rw [map_inMask_repeatedSegments]
        simp [path]
      rw [hfront]
      exact Wildcard.opensWithColon_append (Wildcard.lastWord_append '/') hname.isWordChar
    rw [repeatedPath_eq, ← List.append_assoc]
    exact Wildcard.expand_append_star (o.star_not_mem_append hfree) hopens

/-- A mask that ends in a repeated parameter is compiled as a literal and this parameter. -/
theorem exists_matcher_repeated (hlen : o.port.length ≤ 5) (hmodifier : modifier = '+' ∨ modifier = '*')
    (base : Option Text) :
    ∃ m, (Mask.text (o.text ++ repeatedPath literals name modifier)).matcher base = .ok m ∧
      m.pattern.IsOf (.literalThen (o.text ++ path literals) (Item.repeated name modifier)) ∧
      m.keys = [Item.repeated name modifier] ∧ m.decode = Percent.decode := by
  have hmarks : ∀ c ∈ path literals, c ∉ Item.openers := by
    intro c hc
    have hsubset : ∀ d ∈ Item.openers, d ≠ '/' ∧ Percent.unreserved d = false := by decide
    intro hmark
    rcases PathSegment.mem_path hc with rfl | ⟨s, hs, hcs⟩
    · exact (hsubset _ hmark).1 rfl
    · exact absurd ((hliterals s hs).2 c hcs) (by simp [(hsubset c hmark).2])
  have hplain : Item.ArePlain (o.items ++ ((path literals).map .char ++ [])) :=
    o.arePlain_items_append (Item.arePlain_map_char_append hmarks trivial)
  rw [List.append_nil] at hplain
  have htexts : Item.texts (o.items ++ (path literals).map .char) = o.site.escaped ++ path literals := by
    rw [Item.texts_append, o.texts_items, Item.texts_map_char]
  have hfill : Item.fill id (o.items ++ (path literals).map .char) = o.text ++ path literals := by
    rw [Item.fill_append, o.fill_items, Item.fill_map_char]
  have hnames : Item.names (o.items ++ (path literals).map .char) = [] := by
    rw [Item.names_append, o.names_items, Item.names_map_char]
    rfl
  have hne : Item.fill id (o.items ++ (path literals).map .char) ≠ [] := by
    rw [hfill]
    simp [Origin.text]
  obtain ⟨m, hm, hpattern, hkeys, hdecode⟩ := Item.exists_matcher_repeated hplain hnames hne hname.1
    hname.isNameChar hmodifier Percent.decode
  rw [hfill] at hpattern
  rw [htexts, List.append_assoc] at hm
  refine ⟨m, ?_, hpattern, hkeys, hdecode⟩
  unfold matcher
  rw [prepare_of_expand hlen (ne_of_mem_repeatedPath hliterals hname hmodifier)
    (expand_repeatedPath hliterals hname o hmodifier)
    (isPath_repeatedPath hliterals hname hmodifier)]
  dsimp only [Except.mapError, bind, Except.bind]
  rw [compile, repeatedPath, hm]

end

/-- Matching undoes repetition: where the path of a mask ends in a repeated parameter, the URL that has a
segment for each of some values gives the values back.  Without values the parameter is absent if it
can be, and otherwise the URL does not match. -/
theorem outcome_repeated (o : Origin) (ho : o.IsCanonical) {literals : List Text}
    (hliterals : ∀ s ∈ literals, s ≠ [] ∧ ∀ c ∈ s, Percent.unreserved c = true) {name : Text}
    (hname : IsLettered name) {modifier : Char} (hmodifier : modifier = '+' ∨ modifier = '*')
    {values : List Text} (hvalues : ∀ v ∈ values, v ≠ []) (base : Option Text) :
    Mask.outcome base (.text (o.text ++ repeatedPath literals name modifier))
        (o.text ++ path (literals ++ values.map (Percent.encode []))) =
      .ok (.ofValues name modifier values) := by
  obtain ⟨m, hm, hpattern, hkeys, hdecode⟩ :=
    exists_matcher_repeated hliterals hname ho.length_port_le hmodifier base
  have hencoded : ∀ s ∈ literals ++ values.map (Percent.encode []),
      ∀ c ∈ s, Percent.unreserved c = true ∨ c = '%' := by
    intro s hs c hc
    rcases List.mem_append.mp hs with hs | hs
    · exact Or.inl ((hliterals s hs).2 c hc)
    · obtain ⟨v, -, rfl⟩ := List.mem_map.mp hs
      rcases Percent.of_mem_encode hc with h | h | h
      · exact Or.inl h
      · cases h
      · exact Or.inr h
  have happend : ∀ segments more : List Text, path (segments ++ more) = path segments ++ path more :=
    fun _ _ => List.flatMap_append
  unfold outcome Matcher.outcome
  rw [hm]
  dsimp only [Except.mapError, bind, Except.bind]
  cases values with
  | nil =>
      -- Without segments at all the canonical URL has a slash behind the origin.
      obtain ⟨t, ht, hcanonical⟩ : ∃ t, (t = [] ∨ t = ['/']) ∧
          Url.canonical (o.text ++ path literals) = .ok (o.text ++ path literals ++ t) := by
        by_cases hnil : literals = []
        · subst hnil
          refine ⟨['/'], Or.inr rfl, ?_⟩
          rw [path, List.flatMap_nil, List.append_nil]
          exact PathSegment.canonical_text ho
        · refine ⟨[], Or.inl rfl, ?_⟩
          rw [List.append_nil]
          exact PathSegment.canonical_path ho hnil fun s hs => hencoded s (List.mem_append_left _ hs)
      rw [List.map_nil, List.append_nil, hcanonical]
      dsimp only
      rw [Matcher.apply_unrepeated hpattern hkeys hmodifier ht]
      dsimp only
      unfold Outcome.ofValues
      split <;> rfl
  | cons value values =>
      have hsegments : ∀ s ∈ (value :: values).map (Percent.encode []), IsSegment s := by
        intro s hs
        obtain ⟨v, hv, rfl⟩ := List.mem_map.mp hs
        exact PathSegment.isSegment_encode (hvalues v hv)
      have hdecoded : ((value :: values).map (Percent.encode [])).map m.decode = value :: values := by
        rw [hdecode, List.map_map]
        exact List.map_id'' (Percent.decode_encode (by simp)) _
      have hne : (value :: values).map (Percent.encode []) ≠ [] := List.cons_ne_nil _ _
      rw [PathSegment.canonical_path ho (by simp) hencoded, happend, ← List.append_assoc]
      dsimp only
      rw [Matcher.apply_repeated hpattern hkeys hmodifier hne hsegments, hdecoded]
      rfl

/-- Two values, one of them with a slash and a percent sign. -/
theorem outcome_repeated_files :
    Mask.outcome none (.text "https://example.com/files/:path+".toList)
        "https://example.com/files/a%2Fb/100%25".toList =
      .ok ⟨true, [("path".toList, .many ["a/b".toList, "100%".toList])]⟩ := by
  have hcanonical : Origin.exampleCom.IsCanonical := by
    unfold Origin.IsCanonical
    decide +kernel
  have hliterals : ∀ s ∈ ["files".toList], s ≠ [] ∧ ∀ c ∈ s, Percent.unreserved c = true := by decide
  have hname : IsLettered "path".toList := ⟨by decide, by decide⟩
  have hvalues : ∀ v ∈ ["a/b".toList, "100%".toList], v ≠ [] := by decide
  exact outcome_repeated .exampleCom hcanonical hliterals hname (Or.inl rfl) hvalues none

end Mask

end RouteMask
