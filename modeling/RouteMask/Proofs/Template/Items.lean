import RouteMask.Proofs.Template.Acceptance
import RouteMask.Proofs.Template.Pieces

/-! # Templates of characters and slots

Most templates are written with two things only: characters that stand for themselves, some of them
escaped, and parameters behind a slash.  What is read of such a template is known in full
(`Item.read_texts`), and it can be compiled (`Item.exists_matcher`). -/

namespace RouteMask

/-- A piece of a template: a character, an escaped character, or a parameter behind a slash. -/
inductive Item where
  | char (c : Char)
  | escaped (c : Char)
  | slot (name : Text)

/-- A template without patterns of its own can be compiled, if there is an expression for it. -/
theorem Matcher.exists_of_read {template source : Text} {parts : Template}
    (hread : Template.read Template.usualLeads Template.usualDelimiter template = .ok parts)
    (hplain : parts.IsPlain) (hsource : parts.source? .default = .ok source)
    (decode : Text → Text) :
    ∃ m, Matcher.ofTemplate decode template = .ok m ∧ m.pattern.IsOf parts ∧
      m.keys = parts.keys ∧ m.decode = decode := by
  obtain ⟨p, hp⟩ : ∃ p, Pattern.compile source = .ok p := by
    unfold Pattern.compile
    rw [Template.read_source hplain hsource]
    exact ⟨_, rfl⟩
  exact ⟨⟨p, parts.keys, decode⟩, ofTemplate_of_compile hread hsource hp decode,
    Pattern.isOf_of_compile hplain hsource hp, rfl, rfl⟩

namespace Item

/-- The characters that do not stand for themselves in a template. -/
def marks : Text := "\\:*+?(){}".toList

/-- The characters that begin a lexeme of another kind.  A closing parenthesis does not. -/
def openers : Text := "\\:*+?({}".toList

/-- The text of an item. -/
def text : Item → Text
  | char c => [c]
  | escaped c => ['\\', c]
  | slot name => '/' :: ':' :: name

/-- The lexemes of an item at some index. -/
def lexemes (index : Nat) : Item → List Lexeme
  | char c => [⟨.char, index, [c]⟩]
  | escaped c => [⟨.escapedChar, index, [c]⟩]
  | slot name => [⟨.char, index, ['/']⟩, ⟨.name, index + 1, name⟩]

/-- The parameter of a slot. -/
def parameter (name : Text) : Parameter :=
  ⟨name, ['/'], [], Template.segmentPattern Template.usualDelimiter, []⟩

/-- The name of a slot. -/
def name? : Item → Option Text
  | slot name => some name
  | _ => none

/-- An item can be read on its own. -/
def IsPlain : Item → Prop
  | char c => c ∉ openers
  | escaped _ => True
  | slot name => name ≠ [] ∧ ∀ c ∈ name, Lexeme.isNameChar c = true

/-! ### Sequences of items -/

/-- The text of a sequence of items. -/
def texts (items : List Item) : Text :=
  items.flatMap text

/-- The names of the slots. -/
def names (items : List Item) : List Text :=
  items.filterMap name?

/-- The items can be read one after the other: behind a slot stands a slash, or nothing. -/
def ArePlain : List Item → Prop
  | [] => True
  | item :: items =>
    item.IsPlain ∧ (item.name?.isSome = true → items = [] ∨ (texts items).head? = some '/') ∧
      ArePlain items

/-- The lexemes of a sequence of items that stands at some index. -/
def allLexemes : Nat → List Item → List Lexeme
  | _, [] => []
  | index, item :: items => item.lexemes index ++ allLexemes (index + item.text.length) items

/-- The lexeme that marks the end. -/
def finish (index : Nat) : Lexeme :=
  ⟨.finish, index, []⟩

/-- The parts of a sequence of items behind some literal text. -/
def parts : Text → List Item → Template
  | [], [] => []
  | pending, [] => [.literal pending]
  | pending, char c :: items => parts (pending ++ [c]) items
  | pending, escaped c :: items => parts (pending ++ [c]) items
  | [], slot name :: items => .parameter (parameter name) :: parts [] items
  | pending, slot name :: items =>
    .literal pending :: .parameter (parameter name) :: parts [] items

/-! ### Scanning -/

theorem not_mem_openers {c : Char} (h : c ∉ marks) : c ∉ openers := by
  have hsubset : ∀ d ∈ openers, d ∈ marks := by decide
  exact fun hc => h (hsubset c hc)

theorem next_char {c : Char} (h : c ∉ openers) (index : Nat) (rest : Text) :
    Lexeme.next index c rest = .ok (⟨.char, index, [c]⟩, rest) :=
  Lexeme.next_eq_ok_iff.mpr ⟨rfl, rfl, nofun, ⟨c, rfl, h⟩, nofun⟩

theorem next_name {name rest : Text} (hne : name ≠ [])
    (hname : ∀ c ∈ name, Lexeme.isNameChar c = true)
    (hrest : ∀ c ∈ rest.head?, Lexeme.isNameChar c = false) (index : Nat) :
    Lexeme.next index ':' (name ++ rest) = .ok (⟨.name, index, name⟩, rest) :=
  Lexeme.next_eq_ok_iff.mpr ⟨rfl, rfl, nofun, ⟨hne, hname⟩, fun _ => hrest⟩

/-- An item is scanned. -/
theorem scans_text {item : Item} (hitem : item.IsPlain) {rest : Text}
    (hrest : item.name?.isSome = true → rest = [] ∨ rest.head? = some '/') :
    Lexeme.Scans item.text (fun index => item.lexemes index) rest := by
  cases item with
  | char c => exact .one (s := []) fun index => next_char hitem index rest
  | escaped c => exact .one (s := [c]) fun _ => rfl
  | slot name =>
      have hstop : ∀ c ∈ rest.head?, Lexeme.isNameChar c = false := by
        intro c hc
        rcases hrest rfl with rfl | hhead
        · cases hc
        · obtain rfl : '/' = c := Option.some.inj (hhead.symm.trans hc)
          rfl
      have hslash : Lexeme.Scans ['/'] (fun index => [⟨.char, index, ['/']⟩])
          (':' :: name ++ rest) := .one (s := []) fun index => next_char (by decide) index _
      have hname : Lexeme.Scans (':' :: name) (fun index => [⟨.name, index, name⟩]) rest :=
        .one (next_name hitem.1 hitem.2 hstop)
      exact hslash.append hname

/-- Items are scanned, and then what stands behind them. -/
theorem scans_texts {items : List Item} (h : ArePlain items) {rest : Text}
    (hrest : rest = [] ∨ rest.head? = some '/') :
    Lexeme.Scans (texts items) (fun index => allLexemes index items) rest := by
  induction items with
  | nil => exact .nil rest
  | cons item items ih =>
      obtain ⟨hitem, hbehind, hitems⟩ := h
      have hslash : item.name?.isSome = true →
          texts items ++ rest = [] ∨ (texts items ++ rest).head? = some '/' := by
        intro hname
        rcases hbehind hname with rfl | hslash
        · exact hrest
        · exact Or.inr (by rw [List.head?_append, hslash]; rfl)
      exact (scans_text hitem hslash).append (ih hitems)

/-! ### Reading -/

/-- What is collected when an item has been read. -/
def take (d : Template.Draft) : Item → Template.Draft
  | char c => d.collect [c]
  | escaped c => d.collect [c]
  | slot name => d.flush.finish (parameter name)

/-- The lexemes begin with a character, or there is only the end. -/
def BeginItem (ls : List Lexeme) : Prop :=
  ∃ l rest, ls = l :: rest ∧ (l.kind = .char ∨ l.kind = .escapedChar ∨ l.kind = .finish)

theorem beginItem_finish (index : Nat) : BeginItem [finish index] :=
  ⟨_, _, rfl, Or.inr (Or.inr rfl)⟩

theorem beginItem_append (index : Nat) (items : List Item) {ls : List Lexeme} (hls : BeginItem ls) :
    BeginItem (allLexemes index items ++ ls) := by
  cases items with
  | nil => exact hls
  | cons item items =>
      cases item with
      | char c => exact ⟨_, _, rfl, Or.inl rfl⟩
      | escaped c => exact ⟨_, _, rfl, Or.inr (Or.inl rfl)⟩
      | slot name => exact ⟨_, _, rfl, Or.inl rfl⟩

theorem BeginItem.not_begins {ls : List Lexeme} (hls : BeginItem ls) {kind : LexemeKind}
    (hchar : kind ≠ .char) (hescaped : kind ≠ .escapedChar) (hfinish : kind ≠ .finish) :
    ¬ Template.Begins kind ls := by
  obtain ⟨l, rest, rfl, hkind⟩ := hls
  rintro rfl
  rcases hkind with h | h | h
  · exact hchar h
  · exact hescaped h
  · exact hfinish h

theorem BeginItem.take?_eq {ls : List Lexeme} (hls : BeginItem ls) (kind : LexemeKind)
    (hchar : kind ≠ .char) (hescaped : kind ≠ .escapedChar) (hfinish : kind ≠ .finish) :
    Template.take? kind ls = (none, ls) :=
  Template.take?_of_not_begins (hls.not_begins hchar hescaped hfinish)

/-- A parameter behind a slash is read with the slash as its lead, and with its modifier. -/
theorem readParameter_slash {ls rest : List Lexeme} {modifier : Option Text}
    (hls : Template.take? .modifier ls = (modifier, rest)) (d : Template.Draft) (name : Text) :
    Template.readParameter Template.usualLeads (Template.segmentPattern Template.usualDelimiter) d
        (some ['/']) (some name) none ls =
      .ok (d.flush.finish { parameter name with modifier := modifier.getD [] }, rest) := by
  have hsegment : d.flush.segmentAfter (Template.segmentPattern Template.usualDelimiter) ['/'] =
      .ok (Template.segmentPattern Template.usualDelimiter) := by
    unfold Template.Draft.segmentAfter
    split <;> rfl
  have htaken : ['/'].all Template.usualLeads.contains = true := by decide
  unfold Template.readParameter
  simp only [Option.getD_some, htaken, if_true, hsegment, hls, bind, Except.bind]
  rfl

/-- An item is read. -/
theorem readItem_lexemes (item : Item) (d : Template.Draft) (index : Nat) {ls : List Lexeme}
    (hls : BeginItem ls) :
    Template.readItem Template.usualLeads (Template.segmentPattern Template.usualDelimiter) d
        (item.lexemes index ++ ls) = .ok (item.take d, ls) := by
  cases item with
  | char c =>
      exact Template.readItem_text (l := ⟨⟨.char, index, [c]⟩, Or.inl rfl⟩) fun _ =>
        ⟨hls.not_begins (by decide) (by decide) (by decide),
          hls.not_begins (by decide) (by decide) (by decide)⟩
  | escaped c => exact Template.readItem_text (l := ⟨⟨.escapedChar, index, [c]⟩, Or.inr rfl⟩) nofun
  | slot name =>
      have hchar : Template.take? .char ((slot name).lexemes index ++ ls) =
          (some ['/'], ⟨.name, index + 1, name⟩ :: ls) := rfl
      have hpattern := hls.take?_eq .pattern (by decide) (by decide) (by decide)
      have hmodifier := hls.take?_eq .modifier (by decide) (by decide) (by decide)
      have htake : Template.take? .name (⟨.name, index + 1, name⟩ :: ls) = (some name, ls) := rfl
      unfold Template.readItem
      rw [hchar]
      dsimp only
      rw [htake]
      dsimp only
      rw [hpattern]
      dsimp only
      exact readParameter_slash hmodifier d name

/-- Items are read, and then what stands behind them. -/
theorem collects_allLexemes (index : Nat) (items : List Item) {ls : List Lexeme} (hls : BeginItem ls) :
    Template.Collects (allLexemes index items) (fun d => items.foldl take d) ls := by
  induction items generalizing index with
  | nil => exact .nil ls
  | cons item items ih =>
      have hmore : BeginItem (allLexemes (index + item.text.length) items ++ ls) :=
        beginItem_append _ items hls
      have hne : item.lexemes index ≠ [] := by cases item <;> exact List.cons_ne_nil _ _
      have hitem := Template.Collects.item hne fun d => readItem_lexemes item d index hmore
      exact hitem.append (ih (index + item.text.length))

/-- The parts that are collected. -/
theorem reverse_done_foldl (items : List Item) (d : Template.Draft) :
    (items.foldl take d).flush.done.reverse = d.done.reverse ++ parts d.pending items := by
  induction items generalizing d with
  | nil =>
      obtain ⟨done, pending, unnamed⟩ := d
      cases pending with
      | nil => simp [parts, Template.Draft.flush]
      | cons c pending => simp [parts, Template.Draft.flush]
  | cons item items ih =>
      rw [List.foldl_cons, ih]
      obtain ⟨done, pending, unnamed⟩ := d
      cases item with
      | char c => cases pending <;> rfl
      | escaped c => cases pending <;> rfl
      | slot name =>
          cases pending with
          | nil => simp [parts, take, Template.Draft.flush, Template.Draft.finish]
          | cons c pending => simp [parts, take, Template.Draft.flush, Template.Draft.finish]

/-- A template of items is read as their parts. -/
theorem read_texts {items : List Item} (h : ArePlain items) :
    Template.read Template.usualLeads Template.usualDelimiter (texts items) =
      .ok (parts [] items) := by
  have hscan := (scans_texts h (Or.inl rfl)).scan_eq
  have hcollects := collects_allLexemes 0 items (beginItem_finish (texts items).length)
  rw [hcollects.read_eq hscan, reverse_done_foldl]
  rfl

/-! ### Parts -/

/-- Each part of a sequence of items is a literal or the parameter of a slot. -/
theorem mem_parts {pending : Text} {items : List Item} {part : Part} (h : part ∈ parts pending items) :
    (∃ s, part = .literal s) ∨ ∃ name, part = .parameter (parameter name) := by
  fun_induction parts pending items with
  | case1 => cases h
  | case2 pending _ => exact Or.inl ⟨pending, List.mem_singleton.mp h⟩
  | case3 _ _ _ ih => exact ih h
  | case4 _ _ _ ih => exact ih h
  | case5 name _ ih =>
      rcases List.mem_cons.mp h with rfl | h
      · exact Or.inr ⟨name, rfl⟩
      · exact ih h
  | case6 pending name _ _ ih =>
      rcases List.mem_cons.mp h with rfl | h
      · exact Or.inl ⟨pending, rfl⟩
      rcases List.mem_cons.mp h with rfl | h
      · exact Or.inr ⟨name, rfl⟩
      · exact ih h

theorem isPlain_parts (pending : Text) (items : List Item) : (parts pending items).IsPlain := by
  intro p hp
  rcases mem_parts hp with ⟨s, h⟩ | ⟨name, h⟩
  · cases h
  · cases h
    exact ⟨Or.inr rfl, Or.inl rfl⟩

theorem keys_parts (pending : Text) (items : List Item) :
    (parts pending items).keys = (names items).map parameter := by
  fun_induction parts pending items with
  | case1 => rfl
  | case2 => rfl
  | case3 _ _ _ ih => exact ih
  | case4 _ _ _ ih => exact ih
  | case5 name items ih =>
      have hcapturing : (parameter name).isCapturing = true := rfl
      rw [Template.keys_parameter, if_pos hcapturing, ih]
      rfl
  | case6 _ name items _ ih =>
      have hcapturing : (parameter name).isCapturing = true := rfl
      rw [Template.keys_literal, Template.keys_parameter, if_pos hcapturing, ih]
      rfl

theorem exists_source (pending : Text) (items : List Item) :
    ∃ source, (parts pending items).source? .default = .ok source := by
  refine Template.exists_source fun part hpart => ?_
  rcases mem_parts hpart with ⟨s, rfl⟩ | ⟨name, rfl⟩
  · exact ⟨_, rfl⟩
  · exact ⟨_, rfl⟩

/-- A template of items can be compiled. -/
theorem exists_matcher {items : List Item} (h : ArePlain items) (decode : Text → Text) :
    ∃ m, Matcher.ofTemplate decode (texts items) = .ok m ∧ m.pattern.IsOf (parts [] items) ∧
      m.keys = (names items).map parameter ∧ m.decode = decode := by
  obtain ⟨source, hsource⟩ := exists_source [] items
  obtain ⟨m, hm, hpattern, hkeys, hdecode⟩ :=
    Matcher.exists_of_read (read_texts h) (isPlain_parts [] items) hsource decode
  exact ⟨m, hm, hpattern, hkeys.trans (keys_parts [] items), hdecode⟩

end Item

end RouteMask
