import RouteMask.Proofs.Request.Origin
import RouteMask.Proofs.Url.Percent

/-! # Expansion of masks

A mask whose path consists of names and parameters is expanded into a URL when each parameter is
replaced by a value, percent-encoded.  Matching undoes this: the URL matches the mask, and the
parameters are the values that were put in. -/

namespace RouteMask

/-- A segment of a path in a mask. -/
inductive PathSegment where
  | literal (text : Text)
  | slot (name : Text)

namespace PathSegment

/-- Literals consist of unreserved characters, names of letters, digits and underscores. -/
def IsValid : PathSegment → Prop
  | literal text => text ≠ [] ∧ ∀ c ∈ text, Percent.unreserved c = true
  | slot name => name ≠ [] ∧ ∀ c ∈ name, Lexeme.isNameChar c = true

instance : DecidablePred IsValid
  | literal text => inferInstanceAs (Decidable (text ≠ [] ∧ ∀ c ∈ text, Percent.unreserved c = true))
  | slot name => inferInstanceAs (Decidable (name ≠ [] ∧ ∀ c ∈ name, Lexeme.isNameChar c = true))

/-- A segment as it stands in a mask. -/
def inMask : PathSegment → Text
  | literal text => text
  | slot name => ':' :: name

/-- A segment as it stands in a URL, where names have values. -/
def inUrl (value : Text → Text) : PathSegment → Text
  | literal text => text
  | slot name => Percent.encode [] (value name)

/-- The names of the parameters. -/
def names (segments : List PathSegment) : List Text :=
  segments.filterMap fun
    | literal _ => none
    | slot name => some name

/-- A path: its segments, each behind a slash. -/
def path (segments : List Text) : Text :=
  segments.flatMap ('/' :: ·)

/-! ### Segments as items -/

/-- The items of a segment behind its slash. -/
def items : PathSegment → List Item
  | literal text => .char '/' :: text.map .char
  | slot name => [.slot name]

theorem texts_items (segments : List PathSegment) :
    Item.texts (segments.flatMap items) = path (segments.map inMask) := by
  induction segments with
  | nil => rfl
  | cons segment segments ih =>
      have hcons : Item.texts segment.items = '/' :: segment.inMask := by
        cases segment with
        | literal text => exact Item.texts_map_char ('/' :: text)
        | slot name => exact List.append_nil _
      rw [List.flatMap_cons, Item.texts_append, ih, hcons]
      rfl

theorem fill_items (value : Text → Text) (segments : List PathSegment) :
    Item.fill (fun name => Percent.encode [] (value name)) (segments.flatMap items) =
      path (segments.map (inUrl value)) := by
  induction segments with
  | nil => rfl
  | cons segment segments ih =>
      have hcons : Item.fill (fun name => Percent.encode [] (value name)) segment.items =
          '/' :: segment.inUrl value := by
        cases segment with
        | literal text => exact Item.fill_map_char _ ('/' :: text)
        | slot name => exact List.append_nil _
      rw [List.flatMap_cons, Item.fill_append, ih, hcons]
      rfl

theorem names_items (segments : List PathSegment) :
    Item.names (segments.flatMap items) = names segments := by
  induction segments with
  | nil => rfl
  | cons segment segments ih =>
      rw [List.flatMap_cons, Item.names_append, ih]
      cases segment with
      | literal text =>
          have hchars : Item.names (literal text).items = [] := Item.names_map_char ('/' :: text)
          rw [hchars]
          rfl
      | slot name => rfl

/-- An unreserved character is none of the marks that have a meaning in masks or URLs. -/
theorem not_mem_of_unreserved {c : Char} (h : Percent.unreserved c = true) :
    c ∉ "/\\:*+?()\x7b\x7d#".toList := by
  have hmarks : ∀ d ∈ "/\\:*+?()\x7b\x7d#".toList, Percent.unreserved d = false := by decide
  intro hc
  rw [hmarks c hc] at h
  cases h

theorem head?_texts_items {segments : List PathSegment} :
    segments.flatMap items = [] ∨
      (Item.texts (segments.flatMap items)).head? = some '/' := by
  cases segments with
  | nil => exact Or.inl rfl
  | cons segment segments =>
      rw [texts_items]
      exact Or.inr rfl

theorem arePlain_items {segments : List PathSegment} (h : ∀ s ∈ segments, s.IsValid) :
    Item.ArePlain (segments.flatMap items) := by
  induction segments with
  | nil => trivial
  | cons segment segments ih =>
      have hrest := ih fun s hs => h s (List.mem_cons_of_mem _ hs)
      have hsegment := h segment List.mem_cons_self
      rw [List.flatMap_cons]
      cases segment with
      | literal text =>
          refine Item.arePlain_map_char_append (s := '/' :: text) (fun c hc => ?_) hrest
          rcases List.mem_cons.mp hc with rfl | hc
          · decide
          · have hmarks : ∀ d ∈ Item.openers, d ∈ "/\\:*+?()\x7b\x7d#".toList := by decide
            exact fun hmem => not_mem_of_unreserved (hsegment.2 c hc) (hmarks c hmem)
      | slot name => exact ⟨hsegment, fun _ => head?_texts_items, hrest⟩

/-! ### Segments in a mask -/

/-- The characters of a segment in a mask. -/
theorem mem_inMask {segment : PathSegment} (h : segment.IsValid) {c : Char}
    (hc : c ∈ segment.inMask) : Percent.unreserved c = true ∨ c = ':' := by
  cases segment with
  | literal text => exact Or.inl (h.2 c hc)
  | slot name =>
      rcases List.mem_cons.mp hc with rfl | hc
      · exact Or.inr rfl
      · have := h.2 c hc
        rw [Lexeme.isNameChar, Bool.or_eq_true, beq_iff_eq] at this
        refine Or.inl ?_
        rcases this with halnum | rfl
        · simp [Percent.unreserved, halnum]
        · decide

theorem inMask_ne_nil {segment : PathSegment} (h : segment.IsValid) : segment.inMask ≠ [] := by
  cases segment with
  | literal text => exact h.1
  | slot name => exact List.cons_ne_nil _ _

theorem mem_path {segments : List Text} {c : Char} (h : c ∈ path segments) :
    c = '/' ∨ ∃ s ∈ segments, c ∈ s := by
  obtain ⟨s, hs, hc⟩ := List.mem_flatMap.mp h
  rcases List.mem_cons.mp hc with rfl | hc
  · exact Or.inl rfl
  · exact Or.inr ⟨s, hs, hc⟩

/-- A path is split into its segments. -/
theorem splitOn_path {segment : Text} {segments : List Text}
    (h : ∀ s ∈ segment :: segments, '/' ∉ s) :
    Text.splitOn ['/'] (segment ++ path segments) = segment :: segments := by
  induction segments generalizing segment with
  | nil =>
      rw [path, List.flatMap_nil, List.append_nil]
      exact Text.splitOn_eq_singleton (h segment List.mem_cons_self)
  | cons next segments ih =>
      have hpath : path (next :: segments) = '/' :: (next ++ path segments) := rfl
      rw [hpath, Text.splitOn_append_cons (h segment List.mem_cons_self),
        ih fun s hs => h s (List.mem_cons_of_mem _ hs)]

/-- The path of a mask holds no mark of a query, a fragment or a wildcard. -/
theorem mem_path_inMask {segments : List PathSegment} (h : ∀ s ∈ segments, s.IsValid) {c : Char}
    (hc : c ∈ path (segments.map inMask)) : c ≠ '?' ∧ c ≠ '#' ∧ c ≠ '*' := by
  have hplain : c = '/' ∨ Percent.unreserved c = true ∨ c = ':' := by
    rcases mem_path hc with h' | ⟨s, hs, hc⟩
    · exact Or.inl h'
    · obtain ⟨t, ht, rfl⟩ := List.mem_map.mp hs
      exact Or.inr (mem_inMask (h t ht) hc)
  have hmarks : ∀ d ∈ ['?', '#', '*'],
      ¬ (d = '/' ∨ Percent.unreserved d = true ∨ d = ':') := by decide
  refine ⟨?_, ?_, ?_⟩
  · rintro rfl
    exact hmarks '?' (by decide) hplain
  · rintro rfl
    exact hmarks '#' (by decide) hplain
  · rintro rfl
    exact hmarks '*' (by decide) hplain

theorem isSegmentChar_of_range {c : Char} (h : 0x20 < c.toNat ∧ c.toNat < 0x80) (hne : c ≠ '/') :
    Skeleton.isSegmentChar c = true := by
  simp [Skeleton.isSegmentChar, hne, Skeleton.isBlank_eq_false h]

theorem isSegmentChar_of_unreserved {c : Char} (h : Percent.unreserved c = true) :
    Skeleton.isSegmentChar c = true := by
  have hrange := Percent.unreserved_iff.mp h
  refine isSegmentChar_of_range (by omega) ?_
  rintro rfl
  exact absurd h (by decide)

/-- Segments without blanks are a path for the recognition of structure. -/
theorem isPath_path {segments : List Text}
    (h : ∀ s ∈ segments, s ≠ [] ∧ ∀ c ∈ s, Skeleton.isSegmentChar c = true) :
    Skeleton.isPath (path segments) = true := by
  cases segments with
  | nil => rfl
  | cons segment segments =>
      have hslash : ∀ s ∈ segment :: segments, '/' ∉ s :=
        fun s hs hc => absurd ((h s hs).2 '/' hc) (by decide)
      have hpath : path (segment :: segments) = '/' :: (segment ++ path segments) := rfl
      rw [hpath, Skeleton.isPath, splitOn_path hslash]
      refine Bool.and_eq_true_iff.mpr ⟨rfl, Bool.or_eq_true_iff.mpr (Or.inr ?_)⟩
      refine List.all_eq_true.mpr fun s hs => ?_
      rw [Bool.and_eq_true]
      exact ⟨by simpa using (h s hs).1, List.all_eq_true.mpr (h s hs).2⟩

/-- The path of a mask is one for the recognition of structure. -/
theorem isPath_inMask {segments : List PathSegment} (h : ∀ s ∈ segments, s.IsValid) :
    Skeleton.isPath (path (segments.map inMask)) = true := by
  refine isPath_path fun s hs => ?_
  obtain ⟨t, ht, rfl⟩ := List.mem_map.mp hs
  refine ⟨inMask_ne_nil (h t ht), fun c hc => ?_⟩
  rcases mem_inMask (h t ht) hc with hc | rfl
  · exact isSegmentChar_of_unreserved hc
  · exact isSegmentChar_of_range (by decide) (by decide)

/-! ### Segments in a URL -/

/-- The characters of a segment in a URL. -/
theorem mem_inUrl {value : Text → Text} {segment : PathSegment} (h : segment.IsValid) {c : Char}
    (hc : c ∈ segment.inUrl value) : Percent.unreserved c = true ∨ c = '%' := by
  cases segment with
  | literal text => exact Or.inl (h.2 c hc)
  | slot name =>
      rcases Percent.of_mem_encode hc with h | h | h
      · exact Or.inl h
      · cases h
      · exact Or.inr h

theorem not_mem_usualDelimiter {c : Char} (h : Percent.unreserved c = true ∨ c = '%') :
    c ∉ Template.usualDelimiter := by
  intro hc
  rcases h with h | rfl
  · have hmarks : ∀ d ∈ Template.usualDelimiter, d ∈ "/\\:*+?()\x7b\x7d#".toList := by decide
    exact not_mem_of_unreserved h (hmarks c hc)
  · exact absurd hc (by decide)

/-- An encoded value is a segment. -/
theorem isSegment_encode {v : Text} (h : v ≠ []) : IsSegment (Percent.encode [] v) := by
  refine ⟨Percent.encode_ne_nil h, fun c hc => not_mem_usualDelimiter ?_⟩
  rcases Percent.of_mem_encode hc with h | h | h
  · exact Or.inl h
  · cases h
  · exact Or.inr h

theorem mem_names {segments : List PathSegment} {name : Text} (h : slot name ∈ segments) :
    name ∈ names segments :=
  List.mem_filterMap.mpr ⟨slot name, h, rfl⟩

theorem inUrl_ne_nil {value : Text → Text} {segments : List PathSegment}
    (hvalue : ∀ name ∈ names segments, value name ≠ []) {segment : PathSegment}
    (hsegment : segment ∈ segments) (h : segment.IsValid) : segment.inUrl value ≠ [] := by
  cases segment with
  | literal text => exact h.1
  | slot name => exact Percent.encode_ne_nil (hvalue name (mem_names hsegment))

/-- A path ends in a character of a segment. -/
theorem exists_getLast?_path {segments : List Text} (hne : segments ≠ [])
    (h : ∀ s ∈ segments, s ≠ []) : ∃ s ∈ segments, ∃ c ∈ s, (path segments).getLast? = some c := by
  induction segments with
  | nil => exact absurd rfl hne
  | cons segment segments ih =>
      have hpath : path (segment :: segments) = '/' :: segment ++ path segments := rfl
      rw [hpath, List.getLast?_append]
      by_cases hlast : segments = []
      · subst hlast
        have hsegment := h segment List.mem_cons_self
        refine ⟨segment, List.mem_cons_self, segment.getLast hsegment, List.getLast_mem hsegment, ?_⟩
        rw [List.getLast?_cons, List.getLast?_eq_some_getLast hsegment]
        rfl
      · obtain ⟨s, hs, c, hc, hend⟩ := ih hlast fun t ht => h t (List.mem_cons_of_mem _ ht)
        refine ⟨s, List.mem_cons_of_mem _ hs, c, hc, ?_⟩
        rw [hend]
        rfl

/-- The characters of the path of a URL. -/
theorem range_of_mem_path {segments : List Text}
    (h : ∀ s ∈ segments, ∀ c ∈ s, Percent.unreserved c = true ∨ c = '%') {c : Char}
    (hc : c ∈ path segments) : 0x20 < c.toNat ∧ c ≠ '#' ∧ c ≠ '?' := by
  rcases mem_path hc with rfl | ⟨s, hs, hc⟩
  · decide
  · have hmem := h s hs c hc
    refine ⟨?_, ?_, ?_⟩
    · rcases hmem with h | rfl
      · have := Percent.unreserved_iff.mp h
        omega
      · decide
    · rintro rfl
      exact not_mem_usualDelimiter hmem (by decide)
    · rintro rfl
      exact not_mem_usualDelimiter hmem (by decide)

/-- Behind a canonical origin a path of segments is kept. -/
theorem canonical_path {o : Origin} (ho : o.IsCanonical) {segments : List Text}
    (hne : segments ≠ []) (h : ∀ s ∈ segments, ∀ c ∈ s, Percent.unreserved c = true ∨ c = '%') :
    Url.canonical (o.text ++ path segments) = .ok (o.text ++ path segments) := by
  have hbare : Url.barePath (path segments) = path segments :=
    Url.barePath_eq_self fun c hc => range_of_mem_path h hc
  have hhead : (path segments).head? = some '/' := by
    obtain ⟨s, rest, rfl⟩ := List.exists_cons_of_ne_nil hne
    rfl
  have hcanonical := ho.canonical_append (Or.inr hhead)
  rwa [Url.fullPath_eq hhead, hbare] at hcanonical

/-- A canonical origin alone gets a slash. -/
theorem canonical_text {o : Origin} (ho : o.IsCanonical) :
    Url.canonical o.text = .ok (o.text ++ ['/']) := by
  have hcanonical := ho.canonical_append (Or.inl rfl)
  rwa [List.append_nil] at hcanonical

/-- A path of segments without delimiters does not end in one. -/
theorem getLast?_path_ne {segments : List Text} (hne : segments ≠ [])
    (h : ∀ s ∈ segments, IsSegment s) {d : Char} (hd : d ∈ Template.usualDelimiter) :
    (path segments).getLast? ≠ some d := by
  intro hend
  obtain ⟨s, hs, c, hc, hlast⟩ := exists_getLast?_path hne fun s hs => (h s hs).1
  rw [hlast] at hend
  obtain rfl : c = d := Option.some.inj hend
  exact (h s hs).2 c hc hd

/-- Behind a canonical origin the path of a URL is kept; a bare origin gets a slash.  The URL ends in a
character of a segment, if there is one. -/
theorem exists_canonical {o : Origin} (ho : o.IsCanonical) {segments : List PathSegment}
    (hvalid : ∀ s ∈ segments, s.IsValid) {value : Text → Text}
    (hvalue : ∀ name ∈ names segments, value name ≠ []) :
    ∃ url, Url.canonical (o.text ++ path (segments.map (inUrl value))) = .ok url ∧
      (url = o.text ++ path (segments.map (inUrl value)) ∨
        ∃ c ∈ Template.usualDelimiter,
          url = o.text ++ path (segments.map (inUrl value)) ++ [c]) ∧
      (names segments = [] ∨ ∀ c ∈ Template.usualDelimiter, url.getLast? ≠ some c) := by
  by_cases hnil : segments = []
  · subst hnil
    rw [List.map_nil, path, List.flatMap_nil, List.append_nil]
    exact ⟨_, canonical_text ho, Or.inr ⟨'/', by decide, rfl⟩, Or.inl rfl⟩
  · have hne : segments.map (inUrl value) ≠ [] := fun h => hnil (List.map_eq_nil_iff.mp h)
    have hencoded : ∀ s ∈ segments.map (inUrl value),
        s ≠ [] ∧ ∀ c ∈ s, Percent.unreserved c = true ∨ c = '%' := by
      intro s hs
      obtain ⟨t, ht, rfl⟩ := List.mem_map.mp hs
      exact ⟨inUrl_ne_nil hvalue ht (hvalid t ht), fun c hc => mem_inUrl (hvalid t ht) hc⟩
    refine ⟨_, canonical_path ho hne fun s hs => (hencoded s hs).2, Or.inl rfl,
      Or.inr fun d hd hend => ?_⟩
    have hsegments : ∀ s ∈ segments.map (inUrl value), IsSegment s := fun s hs =>
      ⟨(hencoded s hs).1, fun c hc => not_mem_usualDelimiter ((hencoded s hs).2 c hc)⟩
    refine getLast?_path_ne hne hsegments hd ?_
    obtain ⟨-, -, c, -, hlast⟩ := exists_getLast?_path hne fun s hs => (hencoded s hs).1
    rw [List.getLast?_append, hlast] at hend
    rw [hlast]
    exact hend

end PathSegment

/-- Matching undoes expansion: the URL that a mask is expanded into matches the mask, and its
parameters are the values that were put in. -/
theorem Mask.outcome_expand (o : Origin) (ho : o.IsCanonical) {segments : List PathSegment}
    (hvalid : ∀ s ∈ segments, s.IsValid) (hnodup : (PathSegment.names segments).Nodup)
    {value : Text → Text} (hvalue : ∀ name ∈ PathSegment.names segments, value name ≠ [])
    (base : Option Text) :
    Mask.outcome base (.text (o.text ++ PathSegment.path (segments.map PathSegment.inMask)))
        (o.text ++ PathSegment.path (segments.map (PathSegment.inUrl value))) =
      .ok ⟨true, (PathSegment.names segments).map fun name => (name, .one (value name))⟩ := by
  have hplain := o.arePlain_items_append (PathSegment.arePlain_items hvalid)
  have hnames : Item.names (o.items ++ segments.flatMap PathSegment.items) =
      PathSegment.names segments := by
    rw [Item.names_append, o.names_items, PathSegment.names_items]
    rfl
  have hfill : Item.fill (fun name => Percent.encode [] (value name))
      (o.items ++ segments.flatMap PathSegment.items) =
        o.text ++ PathSegment.path (segments.map (PathSegment.inUrl value)) := by
    rw [Item.fill_append, o.fill_items, PathSegment.fill_items]
  have hmarks : ∀ c ∈ Item.texts (segments.flatMap PathSegment.items),
      c ≠ '?' ∧ c ≠ '#' ∧ c ≠ '*' := by
    intro c hc
    rw [PathSegment.texts_items] at hc
    exact PathSegment.mem_path_inMask hvalid hc
  have hstructure :
      Skeleton.isPath (Item.texts (segments.flatMap PathSegment.items)) = true := by
    rw [PathSegment.texts_items]
    exact PathSegment.isPath_inMask hvalid
  obtain ⟨m, hm, hpattern, hkeys, hdecode⟩ := exists_matcher (o := o)
    (PathSegment.arePlain_items hvalid) ho.length_port_le hmarks hstructure base
  rw [PathSegment.texts_items] at hm
  obtain ⟨url, hcanonical, hurl, hlast⟩ := PathSegment.exists_canonical ho hvalid hvalue
  have hsegments : ∀ name ∈ PathSegment.names segments,
      IsSegment (Percent.encode [] (value name)) :=
    fun name hname => PathSegment.isSegment_encode (hvalue name hname)
  rw [← hnames] at hsegments hnodup hlast
  rw [← hfill] at hurl
  have happly := Matcher.apply_fill hplain hpattern hkeys hnodup hsegments hurl hlast
  have hdecoded : ∀ v : Text, Percent.decode (Percent.encode [] v) = v :=
    Percent.decode_encode (by simp)
  simp only [hnames, hdecode, hdecoded] at happly
  unfold outcome Matcher.outcome
  rw [hm, hcanonical]
  dsimp only [Except.mapError, bind, Except.bind]
  rw [happly]
  rfl

/-- A value with a slash, a space and a letter that is no ASCII. -/
theorem Mask.outcome_expand_user :
    Mask.outcome none (.text "https://example.com/user/:id".toList)
        "https://example.com/user/a%2F%20%C3%A9".toList =
      .ok ⟨true, [("id".toList, .one "a/ é".toList)]⟩ := by
  have hvalid : ∀ s ∈ [PathSegment.literal "user".toList, .slot "id".toList], s.IsValid := by decide
  have hvalue : ∀ name ∈ PathSegment.names [.literal "user".toList, .slot "id".toList],
      (fun _ => "a/ é".toList) name ≠ [] := by decide
  have hcanonical : Origin.exampleCom.IsCanonical := by
    unfold Origin.IsCanonical
    decide +kernel
  exact outcome_expand .exampleCom hcanonical hvalid (by decide) hvalue none

end RouteMask
