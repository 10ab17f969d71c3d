import RouteMask.Proofs.Template.Slots
import RouteMask.Proofs.Template.Uniform
import RouteMask.Proofs.Text.Ascii

/-! # Templates of characters and wildcards

A template may consist of characters, some of them escaped, and of patterns for any text.  The reader
takes such a pattern together with the character in front of it, so that pair is one piece
(`Glyph.any`).  The parts that are read (`Glyph.read_texts`) stand for the texts in which each pattern
has been replaced by some text (`Glyph.fitsBy_parts_iff`). -/

namespace RouteMask

/-- A piece of a template: a character, an escaped character, or the pattern for any text with the
character in front of it, if there is one. -/
inductive Glyph where
  | char (c : Char)
  | escaped (c : Char)
  | any (before : Option Char)

namespace Glyph

/-- The expression of a line. -/
def line : Regex :=
  .star true (.set (.compl (.single false 10)))

/-- The pattern for any text. -/
def linePattern : Text := ".*".toList

/-- The text of a glyph. -/
def text : Glyph → Text
  | char c => [c]
  | escaped c => ['\\', c]
  | any before => before.toList ++ Wildcard.anyText

/-- The lexemes of a glyph at some index. -/
def lexemes (index : Nat) : Glyph → List Lexeme
  | char c => [⟨.char, index, [c]⟩]
  | escaped c => [⟨.escapedChar, index, [c]⟩]
  | any none => [⟨.pattern, index, linePattern⟩]
  | any (some c) => [⟨.char, index, [c]⟩, ⟨.pattern, index + 1, linePattern⟩]

/-- The character in front of a pattern is taken into its lead. -/
def IsLed (before : Option Char) : Prop :=
  ∀ c ∈ before, c ∈ Template.usualLeads

instance : DecidablePred IsLed
  | none => .isTrue fun _ hc => (nomatch hc)
  | some c => decidable_of_iff (c ∈ Template.usualLeads)
      ⟨fun h _ hc => Option.some.inj hc ▸ h, fun h => h c rfl⟩

/-- The parameter of the `n`th pattern. -/
def parameter (n : Nat) (before : Option Char) : Parameter :=
  ⟨(toString n).toList, if IsLed before then before.toList else [], [], linePattern, []⟩

/-- A glyph can be read on its own. -/
def IsPlain : Glyph → Prop
  | char c => c ∉ Item.openers
  | escaped _ => True
  | any before => ∀ c ∈ before, c ∉ Item.openers

/-! ### Sequences of glyphs -/

/-- The text of a sequence of glyphs. -/
def texts (glyphs : List Glyph) : Text :=
  glyphs.flatMap text

/-- The glyphs can be read one after the other: no pattern could take a character in front of it. -/
def ArePlain : List Glyph → Prop
  | [] => True
  | glyph :: glyphs => glyph.IsPlain ∧ glyphs.head? ≠ some (any none) ∧ ArePlain glyphs

/-- The lexemes of a sequence of glyphs that stands at some index. -/
def allLexemes : Nat → List Glyph → List Lexeme
  | _, [] => []
  | index, glyph :: glyphs => glyph.lexemes index ++ allLexemes (index + glyph.text.length) glyphs

/-- A literal, unless it is empty. -/
def literal (text : Text) : Template :=
  if text = [] then [] else [.literal text]

/-- The parts of a sequence of glyphs behind some literal text and `n` patterns. -/
def parts : Text → (n : Nat) → List Glyph → Template
  | pending, _, [] => literal pending
  | pending, n, char c :: glyphs => parts (pending ++ [c]) n glyphs
  | pending, n, escaped c :: glyphs => parts (pending ++ [c]) n glyphs
  | pending, n, any before :: glyphs =>
    literal (if IsLed before then pending else pending ++ before.toList) ++
      .parameter (parameter n before) :: parts [] (n + 1) glyphs

/-- The text is made from the glyphs by replacing each pattern by a text of the set. -/
inductive Fills (L : Text → Prop) : List Glyph → List Text → Text → Prop where
  | nil : Fills L [] [] []
  | char {c : Char} {glyphs : List Glyph} {values : List Text} {a s : Text} :
      SameFold [c] a → Fills L glyphs values s → Fills L (char c :: glyphs) values (a ++ s)
  | escaped {c : Char} {glyphs : List Glyph} {values : List Text} {a s : Text} :
      SameFold [c] a → Fills L glyphs values s → Fills L (escaped c :: glyphs) values (a ++ s)
  | any {before : Option Char} {glyphs : List Glyph} {values : List Text} {a v s : Text} :
      SameFold before.toList a → L v → Fills L glyphs values s →
      Fills L (any before :: glyphs) (v :: values) (a ++ v ++ s)

/-! ### Scanning -/

theorem next_pattern (index : Nat) (rest : Text) :
    Lexeme.next index '(' (".*)".toList ++ rest) = .ok (⟨.pattern, index, linePattern⟩, rest) := by
  rfl

/-- A glyph is scanned. -/
theorem scans_text {glyph : Glyph} (hglyph : glyph.IsPlain) (rest : Text) :
    Lexeme.Scans glyph.text (fun index => glyph.lexemes index) rest := by
  have hpattern : Lexeme.Scans Wildcard.anyText (fun index => [⟨.pattern, index, linePattern⟩]) rest :=
    .one fun index => next_pattern index rest
  cases glyph with
  | char c => exact .one (s := []) fun index => Item.next_char hglyph index rest
  | escaped c => exact .one (s := [c]) fun _ => rfl
  | any before =>
      cases before with
      | none => exact hpattern
      | some c =>
          have hchar : Lexeme.Scans [c] (fun index => [⟨.char, index, [c]⟩])
              (Wildcard.anyText ++ rest) :=
            .one (s := []) fun index => Item.next_char (hglyph c rfl) index _
          exact hchar.append hpattern

/-- Glyphs are scanned one after the other. -/
theorem scans_texts {glyphs : List Glyph} (h : ArePlain glyphs) :
    Lexeme.Scans (texts glyphs) (fun index => allLexemes index glyphs) [] := by
  induction glyphs with
  | nil => exact .nil []
  | cons glyph glyphs ih =>
      obtain ⟨hglyph, -, hglyphs⟩ := h
      exact (scans_text hglyph _).append (ih hglyphs)

/-! ### Reading -/

/-- What is collected when a glyph has been read. -/
def take (d : Template.Draft) : Glyph → Template.Draft
  | char c => d.collect [c]
  | escaped c => d.collect [c]
  | any before =>
    let d := (if IsLed before then d else d.collect before.toList).flush
    { d with unnamed := d.unnamed + 1 }.finish (parameter d.unnamed before)

theorem beginItem_append (index : Nat) {glyphs : List Glyph} (h : glyphs.head? ≠ some (any none))
    {ls : List Lexeme} (hls : Item.BeginItem ls) :
    Item.BeginItem (allLexemes index glyphs ++ ls) := by
  cases glyphs with
  | nil => exact hls
  | cons glyph glyphs =>
      cases glyph with
      | char c => exact ⟨_, _, rfl, Or.inl rfl⟩
      | escaped c => exact ⟨_, _, rfl, Or.inr (Or.inl rfl)⟩
      | any before =>
          cases before with
          | none => exact absurd rfl h
          | some c => exact ⟨_, _, rfl, Or.inl rfl⟩

/-- A pattern is read with the character in front of it. -/
theorem readParameter_pattern {ls : List Lexeme} (hls : Item.BeginItem ls) (d : Template.Draft)
    (before : Option Char) :
    Template.readParameter Template.usualLeads (Template.segmentPattern Template.usualDelimiter) d
        (before.map fun c => [c]) none (some linePattern) ls = .ok (take d (any before), ls) := by
  have hmodifier := hls.take?_eq .modifier (by decide) (by decide) (by decide)
  have hbefore : (before.map fun c => [c]).getD [] = before.toList := by cases before <;> rfl
  unfold Template.readParameter take parameter
  rw [hbefore]
  have hled : (before.toList.all Template.usualLeads.contains = true) ↔ IsLed before := by
    cases before <;> simp [IsLed]
  simp only [hled, hmodifier, bind, Except.bind, pure, Except.pure, Template.Draft.number]
  rfl

/-- A glyph is read. -/
theorem readItem_lexemes (glyph : Glyph) (d : Template.Draft) (index : Nat) {ls : List Lexeme}
    (hls : Item.BeginItem ls) :
    Template.readItem Template.usualLeads (Template.segmentPattern Template.usualDelimiter) d
        (glyph.lexemes index ++ ls) = .ok (glyph.take d, ls) := by
  cases glyph with
  | char c => exact Item.readItem_lexemes (.char c) d index hls
  | escaped c => exact Item.readItem_lexemes (.escaped c) d index hls
  | any before =>
      have hread := readParameter_pattern hls d before
      cases before with
      | none => exact hread
      | some c => exact hread

/-- Glyphs are read one after the other. -/
theorem collects_allLexemes {glyphs : List Glyph} (h : ArePlain glyphs) (index : Nat) {ls : List Lexeme}
    (hls : Item.BeginItem ls) :
    Template.Collects (allLexemes index glyphs) (fun d => glyphs.foldl take d) ls := by
  induction glyphs generalizing index with
  | nil => exact .nil ls
  | cons glyph glyphs ih =>
      obtain ⟨-, hhead, hglyphs⟩ := h
      have hmore : Item.BeginItem (allLexemes (index + glyph.text.length) glyphs ++ ls) :=
        beginItem_append _ hhead hls
      have hne : glyph.lexemes index ≠ [] := by
        cases glyph with
        | any before => cases before <;> exact List.cons_ne_nil _ _
        | _ => exact List.cons_ne_nil _ _
      have hglyph := Template.Collects.item hne fun d => readItem_lexemes glyph d index hmore
      exact hglyph.append (ih hglyphs (index + glyph.text.length))

theorem done_flush (d : Template.Draft) :
    d.flush.done.reverse = d.done.reverse ++ literal d.pending ∧ d.flush.pending = [] ∧
      d.flush.unnamed = d.unnamed := by
  obtain ⟨done, pending, unnamed⟩ := d
  cases pending with
  | nil => simp [Template.Draft.flush, literal]
  | cons c pending => simp [Template.Draft.flush, literal]

/-- The parts that are collected. -/
theorem reverse_done_foldl (glyphs : List Glyph) (d : Template.Draft) :
    (glyphs.foldl take d).flush.done.reverse =
      d.done.reverse ++ parts d.pending d.unnamed glyphs := by
  induction glyphs generalizing d with
  | nil => exact (done_flush d).1
  | cons glyph glyphs ih =>
      rw [List.foldl_cons, ih]
      cases glyph with
      | char c => rfl
      | escaped c => rfl
      | any before =>
          obtain ⟨hdone, hpending, hunnamed⟩ :=
            done_flush (if IsLed before then d else d.collect before.toList)
          simp only [take, Template.Draft.finish, List.reverse_cons, hdone, hpending, hunnamed, parts]
          split <;> simp [Template.Draft.collect]

/-- A template of glyphs is read as their parts. -/
theorem read_texts {glyphs : List Glyph} (h : ArePlain glyphs) :
    Template.read Template.usualLeads Template.usualDelimiter (texts glyphs) =
      .ok (parts [] 0 glyphs) := by
  have hcollects := collects_allLexemes h 0 (Item.beginItem_finish (texts glyphs).length)
  rw [hcollects.read_eq (scans_texts h).scan_eq, reverse_done_foldl]
  rfl

/-! ### Parts -/

theorem mem_literal {text : Text} {part : Part} (h : part ∈ literal text) : part = .literal text := by
  unfold literal at h
  split at h
  · cases h
  · exact List.mem_singleton.mp h

theorem isUniform_parts (pending : Text) (n : Nat) (glyphs : List Glyph) :
    (parts pending n glyphs).IsUniform linePattern := by
  intro p hp
  fun_induction parts pending n glyphs with
  | case1 => cases mem_literal hp
  | case2 _ _ _ _ ih => exact ih hp
  | case3 _ _ _ _ ih => exact ih hp
  | case4 _ n before _ ih =>
      rcases List.mem_append.mp hp with hp | hp
      · cases mem_literal hp
      · rcases List.mem_cons.mp hp with hp | hp
        · cases hp
          exact ⟨rfl, rfl⟩
        · exact ih hp

theorem keys_literal_append (text : Text) (parts : Template) :
    (literal text ++ parts).keys = parts.keys := by
  unfold literal
  split
  · rfl
  · rfl

/-- The keys are numbered. -/
theorem names_keys_parts (pending : Text) (n : Nat) (glyphs : List Glyph) :
    (parts pending n glyphs).keys.map Parameter.name =
      (List.range' n (parts pending n glyphs).keys.length).map fun i => (toString i).toList := by
  fun_induction parts pending n glyphs with
  | case1 _ pending =>
      have hkeys := keys_literal_append pending []
      rw [List.append_nil] at hkeys
      rw [hkeys]
      rfl
  | case2 _ _ _ _ ih => exact ih
  | case3 _ _ _ _ ih => exact ih
  | case4 _ n before glyphs ih =>
      have hcapturing : (parameter n before).isCapturing = true := rfl
      rw [keys_literal_append, Template.keys_parameter, if_pos hcapturing, List.map_cons, ih,
        List.length_cons, List.range'_succ]
      rfl

/-! ### Texts -/

variable {L : Text → Prop}

theorem fitsBy_literal_append_iff {text s : Text} {parts : Template} {values : List Text} :
    (literal text ++ parts).FitsBy L s values ↔
      ∃ a t, s = a ++ t ∧ SameFold text a ∧ parts.FitsBy L t values := by
  unfold literal
  split
  · next hnil =>
      subst hnil
      constructor
      · exact fun h => ⟨[], s, rfl, .nil, h⟩
      · rintro ⟨a, t, rfl, ha, ht⟩
        cases ha
        exact ht
  · constructor
    · intro h
      cases h with
      | literal hs ht => exact ⟨_, _, rfl, hs, ht⟩
    · rintro ⟨a, t, rfl, ha, ht⟩
      exact .literal ha ht

theorem fills_char_iff {c : Char} {glyphs : List Glyph} {values : List Text} {s : Text} :
    Fills L (char c :: glyphs) values s ↔
      ∃ a t, s = a ++ t ∧ SameFold [c] a ∧ Fills L glyphs values t := by
  constructor
  · intro h
    cases h with
    | char ha ht => exact ⟨_, _, rfl, ha, ht⟩
  · rintro ⟨a, t, rfl, ha, ht⟩
    exact .char ha ht

theorem fills_escaped_iff {c : Char} {glyphs : List Glyph} {values : List Text} {s : Text} :
    Fills L (escaped c :: glyphs) values s ↔
      ∃ a t, s = a ++ t ∧ SameFold [c] a ∧ Fills L glyphs values t := by
  constructor
  · intro h
    cases h with
    | escaped ha ht => exact ⟨_, _, rfl, ha, ht⟩
  · rintro ⟨a, t, rfl, ha, ht⟩
    exact .escaped ha ht

theorem fills_any_iff {before : Option Char} {glyphs : List Glyph} {values : List Text} {s : Text} :
    Fills L (any before :: glyphs) values s ↔
      ∃ a t, s = a ++ t ∧ SameFold before.toList a ∧
        ∃ v u rest, t = v ++ u ∧ values = v :: rest ∧ L v ∧ Fills L glyphs rest u := by
  constructor
  · intro h
    cases h with
    | any ha hv hs => exact ⟨_, _, by simp, ha, _, _, _, rfl, rfl, hv, hs⟩
  · rintro ⟨a, t, rfl, ha, v, u, rest, rfl, rfl, hv, hs⟩
    rw [← List.append_assoc]
    exact .any ha hv hs

/-- The parameter of a pattern takes what the pattern takes, behind its lead. -/
theorem fitsBy_parameter_iff {n : Nat} {before : Option Char} {parts : Template} {s : Text}
    {values : List Text} :
    Template.FitsBy L (.parameter (parameter n before) :: parts) s values ↔
      ∃ a t, s = a ++ t ∧ SameFold (parameter n before).lead a ∧
        ∃ v u rest, t = v ++ u ∧ values = v :: rest ∧ L v ∧ parts.FitsBy L u rest := by
  constructor
  · intro h
    cases h with
    | parameter ha hv hb hs =>
        cases hb
        exact ⟨_, _, by simp, ha, _, _, _, rfl, rfl, hv, hs⟩
  · rintro ⟨a, t, rfl, ha, v, u, rest, rfl, rfl, hv, hs⟩
    have htext : a ++ (v ++ u) = a ++ v ++ [] ++ u := by simp
    rw [htext]
    exact .parameter ha hv .nil hs

/-- The parts stand for the texts in which each pattern has been replaced. -/
theorem fitsBy_parts_iff {pending : Text} {n : Nat} {glyphs : List Glyph} {s : Text}
    {values : List Text} :
    (parts pending n glyphs).FitsBy L s values ↔
      ∃ a t, s = a ++ t ∧ SameFold pending a ∧ Fills L glyphs values t := by
  fun_induction parts pending n glyphs generalizing s values with
  | case1 _ pending =>
      have hnil : (literal pending).FitsBy L s values ↔ (literal pending ++ []).FitsBy L s values := by
        rw [List.append_nil]
      rw [hnil, fitsBy_literal_append_iff]
      have hfills : ∀ t, Template.FitsBy L [] t values ↔ Fills L [] values t := by
        intro t
        constructor
        · intro h
          cases h
          exact .nil
        · intro h
          cases h
          exact .nil
      simp only [hfills]
  | case2 pending n c glyphs ih => rw [ih, SameFold.exists_append_iff]; simp only [fills_char_iff]
  | case3 pending n c glyphs ih => rw [ih, SameFold.exists_append_iff]; simp only [fills_escaped_iff]
  | case4 pending n before glyphs ih =>
      have hrest : ∀ u rest, (parts [] (n + 1) glyphs).FitsBy L u rest ↔ Fills L glyphs rest u := by
        intro u rest
        rw [ih, SameFold.exists_nil_iff]
      rw [fitsBy_literal_append_iff]
      by_cases hled : IsLed before
      · have hlead : (parameter n before).lead = before.toList := if_pos hled
        simp only [if_pos hled, fitsBy_parameter_iff, fills_any_iff, hrest, hlead]
      · have hlead : (parameter n before).lead = [] := if_neg hled
        simp only [if_neg hled, SameFold.exists_append_iff, fitsBy_parameter_iff, fills_any_iff,
          hrest, hlead, SameFold.exists_nil_iff]

/-! ### Matching -/

/-- A text on one line. -/
def IsLine (s : Text) : Prop :=
  '\n' ∉ s

/-- The pattern for any text takes the texts on one line. -/
theorem denotes_line : Denotes linePattern line IsLine where
  ne_nil := by decide
  head?_ne := by decide
  yields n := by
    have hchar : Regex.Reader.Atom .caseless n ['.'] (.set (.compl (.single false 10))) n :=
      .of_read fun _ => rfl
    exact hchar.repeated '*' 0 none (fun _ => rfl) (by decide) (by decide)
  isFlat := ⟨⟨rfl, rfl⟩, rfl⟩
  takes := by
    refine (Regex.Takes.set _).star.congr fun s => ?_
    have hset : ∀ x : Char, (CharSet.compl (.single false 10)).has x.toNat = true ↔ x ≠ '\n' := by
      intro x
      rw [CharSet.has_compl, Bool.not_eq_true', Bool.eq_false_iff, Ne, CharSet.has_single_false]
      exact not_congr (Char.toNat_inj (d := '\n'))
    simp only [copies_char_iff, exists_eq_left', hset]
    exact ⟨fun h hmem => h _ hmem rfl, fun h x hx hline => h (hline ▸ hx)⟩

/-- The names of the keys are different. -/
theorem nodup_names_keys_parts (glyphs : List Glyph) :
    ((parts [] 0 glyphs).keys.map Parameter.name).Nodup := by
  rw [names_keys_parts]
  exact List.Nodup.map Text.toList_toString_injective List.nodup_range'

end Glyph

/-- Parameters whose names are their numbers. -/
def numbered (values : List Text) : Params :=
  values.mapIdx fun i v => ((toString i).toList, .one v)

namespace Glyph

theorem collect_parts (decode : Text → Text) {glyphs : List Glyph} {values : List Text}
    (hlength : values.length = (parts [] 0 glyphs).keys.length) :
    Matcher.collect decode (parts [] 0 glyphs).keys (values.map some) [] =
      .ok (numbered (values.map decode)) := by
  have hempty : (([] : Params).map Prod.fst ++
      (parts [] 0 glyphs).keys.map Parameter.name).Nodup := nodup_names_keys_parts glyphs
  have hkeys : ∀ key ∈ (parts [] 0 glyphs).keys, key.isRepeated = false := by
    intro key hkey
    exact Parameter.isRepeated_of_modifier
      (isUniform_parts [] 0 glyphs key (Template.mem_of_mem_keys hkey)).2
  rw [Matcher.collect_of_nodup decode hkeys hlength hempty, List.nil_append]
  refine congrArg Except.ok (List.ext_getElem ?_ fun i h₁ h₂ => ?_)
  · simp [numbered, hlength]
  · have hi : i < (parts [] 0 glyphs).keys.length := by simp at h₁; omega
    have hname : (parts [] 0 glyphs).keys[i].name = (toString i).toList := by
      have hget := congrArg (·[i]?) (names_keys_parts [] 0 glyphs)
      simpa [hi] using hget
    simp [numbered, hname]

/-- A template of characters and wildcards can be compiled.  Its matcher accepts the texts in which each
wildcard has been replaced by a text on one line, apart from a delimiter at the end, and gives the texts
that were put in, numbered. -/
theorem exists_matcher {glyphs : List Glyph} (h : ArePlain glyphs) (decode : Text → Text) :
    ∃ m, Matcher.ofTemplate decode (texts glyphs) = .ok m ∧ ∀ url,
      ((∃ params, m.apply url = .ok (some params)) ↔
        ∃ values body, Fills IsLine glyphs values body ∧
          (url = body ∨ ∃ c ∈ Template.usualDelimiter, url = body ++ [c])) ∧
      (∀ params, m.apply url = .ok (some params) →
        ∃ values body, Fills IsLine glyphs values body ∧
          (url = body ∨ ∃ c ∈ Template.usualDelimiter, url = body ++ [c]) ∧
          params = numbered (values.map decode)) ∧
      ∀ e, m.apply url ≠ .error e := by
  obtain ⟨m, hm, hkeys, rfl, hgroups, hrecognises⟩ :=
    Template.exists_matcher_of_isUniform denotes_line (read_texts h) (isUniform_parts [] 0 glyphs)
      decode
  refine ⟨m, hm, fun url => ?_⟩
  have hlength : m.keys.length = m.pattern.groups := by rw [hkeys, hgroups]
  obtain ⟨haccepts, hparams, herror⟩ := Matcher.apply_of_recognises hrecognises hlength url
  have hfits : ∀ s values, (parts [] 0 glyphs).FitsBy IsLine s values ↔ Fills IsLine glyphs values s := by
    intro s values
    rw [fitsBy_parts_iff, SameFold.exists_nil_iff]
  refine ⟨haccepts.trans ⟨?_, ?_⟩, fun params happly => ?_, herror⟩
  · rintro ⟨taken, body, ⟨values, hbody, rfl⟩, hurl⟩
    exact ⟨values, body, (hfits ..).mp hbody, hurl⟩
  · rintro ⟨values, body, hbody, hurl⟩
    exact ⟨_, body, ⟨values, (hfits ..).mpr hbody, rfl⟩, hurl⟩
  · obtain ⟨taken, ⟨body, ⟨values, hbody, rfl⟩, hurl⟩, hcollect⟩ := hparams params happly
    have hvalues := hbody.length_eq denotes_line (isUniform_parts [] 0 glyphs)
    rw [hkeys, collect_parts m.decode hvalues] at hcollect
    exact ⟨values, body, (hfits ..).mp hbody, hurl, (Except.ok.inj hcollect).symm⟩

end Glyph

end RouteMask
