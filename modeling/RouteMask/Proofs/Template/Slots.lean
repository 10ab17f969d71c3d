import RouteMask.Proofs.Template.Items
import RouteMask.Proofs.Text.Cut

/-! # What slots take

Where each slot of a template of items has a value, the template takes these values from the text that
is made with them, and no others (`Item.eq_of_fits`).  So a matcher gives them back
(`Matcher.apply_fill`). -/

namespace RouteMask

namespace Item

/-- The text that is made from an item when each slot has a value. -/
def filled (value : Text → Text) : Item → Text
  | char c => [c]
  | escaped c => [c]
  | slot name => '/' :: value name

/-- The text that is made from a sequence of items. -/
def fill (value : Text → Text) (items : List Item) : Text :=
  items.flatMap (filled value)

/-! ### Taking the values -/

theorem sameFold_refl (s : Text) : SameFold s s := by
  induction s with
  | nil => exact .nil
  | cons c s ih => exact .cons (Unicode.mem_orbit _) ih

/-- The slash has no other case. -/
theorem eq_of_sameFold_slash {s : Text} (h : SameFold ['/'] s) : s = ['/'] :=
  h.eq_of_lt (by decide)

theorem eq_of_sameFold_nil {s : Text} (h : SameFold [] s) : s = [] := by
  cases h
  rfl

/-- The parts of items take the values from the text that is made with them. -/
theorem fits_fill {value : Text → Text} (pending : Text) {items : List Item}
    (h : ∀ name ∈ names items, IsSegment (value name)) :
    (parts pending items).Fits (pending ++ fill value items)
      ((names items).map fun name => some (value name)) := by
  have hslot : ∀ (name : Text) (items : List Item), IsSegment (value name) →
      (parts [] items).Fits (fill value items) ((names items).map fun n => some (value n)) →
      (parts [] (slot name :: items)).Fits (fill value (slot name :: items))
        ((names (slot name :: items)).map fun n => some (value n)) := by
    intro name items hvalue hfits
    have htakes : (parameter name).Takes (['/'] ++ value name ++ []) (some (value name)) :=
      .single rfl (sameFold_refl _) hvalue (sameFold_refl _)
    have hfill : fill value (slot name :: items) =
        (['/'] ++ value name ++ []) ++ fill value items := by simp [fill, filled]
    rw [hfill]
    exact .parameter rfl htakes hfits
  fun_induction parts pending items with
  | case1 => exact .nil
  | case2 pending _ => exact .literal (sameFold_refl _) .nil
  | case3 pending c items ih =>
      have := ih h
      rw [List.append_assoc] at this
      exact this
  | case4 pending c items ih =>
      have := ih h
      rw [List.append_assoc] at this
      exact this
  | case5 name items ih =>
      exact hslot name items (h name List.mem_cons_self) (ih fun n hn => h n (List.mem_cons_of_mem _ hn))
  | case6 pending name items _ ih =>
      refine .literal (sameFold_refl _) ?_
      exact hslot name items (h name List.mem_cons_self) (ih fun n hn => h n (List.mem_cons_of_mem _ hn))

theorem parts_char (pending : Text) (c : Char) (items : List Item) :
    parts pending (char c :: items) = parts (pending ++ [c]) items := by
  cases pending <;> rfl

theorem parts_escaped (pending : Text) (c : Char) (items : List Item) :
    parts pending (escaped c :: items) = parts (pending ++ [c]) items := by
  cases pending <;> rfl

/-- The text in front of items is taken first. -/
theorem fits_parts_iff {pending : Text} {items : List Item} {s : Text} {taken : List (Option Text)} :
    (parts pending items).Fits s taken ↔
      ∃ a t, s = a ++ t ∧ SameFold pending a ∧ (parts [] items).Fits t taken := by
  have hliteral : ∀ {c : Char} {pending : Text} {parts : Template} {s : Text},
      Template.Fits (.literal (c :: pending) :: parts) s taken ↔
        ∃ a t, s = a ++ t ∧ SameFold (c :: pending) a ∧ parts.Fits t taken := by
    intro c pending parts s
    constructor
    · intro h
      cases h with
      | literal hfold hrest => exact ⟨_, _, rfl, hfold, hrest⟩
    · rintro ⟨a, t, rfl, hfold, hrest⟩
      exact .literal hfold hrest
  induction items generalizing pending s with
  | nil =>
      cases pending with
      | nil => exact (SameFold.exists_nil_iff (P := fun t => (parts [] []).Fits t taken)).symm
      | cons c pending => exact hliteral
  | cons item items ih =>
      have hchar : ∀ c : Char, (parts (pending ++ [c]) items).Fits s taken ↔
          ∃ a t, s = a ++ t ∧ SameFold pending a ∧ (parts [c] items).Fits t taken := by
        intro c
        have hone : ∀ t, (parts [c] items).Fits t taken ↔
            ∃ a t', t = a ++ t' ∧ SameFold [c] a ∧ (parts [] items).Fits t' taken := fun t => ih
        refine ih.trans (SameFold.exists_append_iff.trans ?_)
        simp only [hone]
      cases item with
      | char c =>
          rw [parts_char, parts_char]
          exact hchar c
      | escaped c =>
          rw [parts_escaped, parts_escaped]
          exact hchar c
      | slot name =>
          cases pending with
          | nil =>
              exact (SameFold.exists_nil_iff
                (P := fun t => (parts [] (slot name :: items)).Fits t taken)).symm
          | cons c pending => exact hliteral

/-- Items without slots are text. -/
theorem parts_append (value : Text → Text) {items : List Item} (h : names items = [])
    (pending : Text) (more : List Item) :
    parts pending (items ++ more) = parts (pending ++ fill value items) more := by
  induction items generalizing pending with
  | nil => rw [fill, List.flatMap_nil, List.append_nil, List.nil_append]
  | cons item items ih =>
      cases item with
      | char c =>
          rw [List.cons_append, parts_char, ih h, List.append_assoc]
          rfl
      | escaped c =>
          rw [List.cons_append, parts_escaped, ih h, List.append_assoc]
          rfl
      | slot name => cases h

/-! ### No other values -/

theorem head?_of_sameFold {s t : Text} (h : SameFold s t) (hs : s.head? = some '/') :
    t.head? = some '/' := by
  cases h with
  | nil => cases hs
  | cons hd htail =>
      obtain rfl := Option.some.inj hs
      rw [← Char.toNat_inj.mp (Unicode.eq_of_mem_orbit hd (Or.inl (by decide)))]
      rfl

theorem head?_of_takes {name s : Text} {value : Option Text}
    (h : (parameter name).Takes s value) : s.head? = some '/' := by
  cases h with
  | single _ hlead _ _ => rw [eq_of_sameFold_slash hlead]; rfl
  | several hrepeated => cases hrepeated
  | absent hmodifier => rcases hmodifier with h | h <;> cases h

/-- What fits parts that begin with a slash begins with a slash. -/
theorem head?_of_fits {pending : Text} {items : List Item} {s : Text} {taken : List (Option Text)}
    (hpending : pending.head? = some '/') (h : (parts pending items).Fits s taken) :
    s.head? = some '/' := by
  obtain ⟨a, t, rfl, hfold, -⟩ := fits_parts_iff.mp h
  obtain ⟨rest, rfl⟩ := List.head?_eq_some_iff.mp (head?_of_sameFold hfold hpending)
  rfl

/-- What fits the items behind a slot begins with a slash, if it is not empty. -/
theorem fits_behind_slot {items : List Item}
    (hitems : items = [] ∨ (texts items).head? = some '/') {s : Text} {taken : List (Option Text)}
    (h : (parts [] items).Fits s taken) : s = [] ∨ s.head? = some '/' := by
  rcases hitems with rfl | hslash
  · cases h
    exact Or.inl rfl
  · cases items with
    | nil => cases hslash
    | cons item items =>
        refine Or.inr ?_
        cases item with
        | char c =>
            obtain rfl : c = '/' := Option.some.inj hslash
            have hpending : (['/'] : Text).head? = some '/' := rfl
            exact head?_of_fits hpending h
        | escaped c => cases hslash
        | slot name =>
            cases h with
            | group hcapturing => cases hcapturing
            | parameter _ htakes _ =>
                obtain ⟨rest, hrest⟩ := List.head?_eq_some_iff.mp (head?_of_takes htakes)
                rw [hrest]
                rfl

theorem slash_not_mem_of_isSegment {s : Text} (h : IsSegment s) : '/' ∉ s :=
  fun hmem => h.2 '/' hmem (by decide)

theorem head?_fill {value : Text → Text} {items : List Item}
    (hitems : items = [] ∨ (texts items).head? = some '/') :
    fill value items = [] ∨ (fill value items).head? = some '/' := by
  rcases hitems with rfl | hslash
  · exact Or.inl rfl
  · cases items with
    | nil => cases hslash
    | cons item items =>
        cases item with
        | char c => exact Or.inr hslash
        | escaped c => cases hslash
        | slot name => exact Or.inr rfl

/-- What fits a slot in front of items takes the value of the slot first. -/
theorem exists_of_fits_slot {value : Text → Text} {name : Text} {items : List Item}
    (hvalue : IsSegment (value name)) (hbehind : items = [] ∨ (texts items).head? = some '/')
    {taken : List (Option Text)}
    (h : (parts [] (slot name :: items)).Fits (fill value (slot name :: items)) taken) :
    ∃ rest, taken = some (value name) :: rest ∧ (parts [] items).Fits (fill value items) rest := by
  have hfill : fill value (slot name :: items) =
      ['/'] ++ (value name ++ fill value items) := by simp [fill, filled]
  rw [hfill] at h
  generalize hs : ['/'] ++ (value name ++ fill value items) = s at h
  cases h with
  | group hcapturing => cases hcapturing
  | @parameter _ piece behind _ _ rest _ htakes hfits =>
      cases htakes with
      | several hrepeated => cases hrepeated
      | absent hmodifier => rcases hmodifier with h | h <;> cases h
      | @single lead v trail _ hlead hv htrail =>
          rw [eq_of_sameFold_slash hlead, eq_of_sameFold_nil htrail, List.append_nil,
            List.append_assoc, List.append_cancel_left_eq] at hs
          obtain ⟨rfl, rfl⟩ := Text.append_inj_of_not_mem (slash_not_mem_of_isSegment hvalue)
            (slash_not_mem_of_isSegment hv) (head?_fill hbehind) (fits_behind_slot hbehind hfits) hs
          exact ⟨rest, rfl, hfits⟩

/-- The text that is made with values is taken apart into these values only. -/
theorem eq_of_fits {value : Text → Text} {items : List Item} (hplain : ArePlain items)
    (hvalue : ∀ name ∈ names items, IsSegment (value name)) {pending t : Text}
    {taken : List (Option Text)} (hlength : t.length = pending.length)
    (h : (parts pending items).Fits (t ++ fill value items) taken) :
    taken = (names items).map fun name => some (value name) := by
  have hslot : ∀ {name : Text} {items : List Item} {taken : List (Option Text)},
      ArePlain (slot name :: items) → IsSegment (value name) →
      (∀ {rest : List (Option Text)}, (parts [] items).Fits (fill value items) rest →
        rest = (names items).map fun name => some (value name)) →
      (parts [] (slot name :: items)).Fits (fill value (slot name :: items)) taken →
        taken = (names (slot name :: items)).map fun name => some (value name) := by
    intro name items taken hplain hname hrest h
    obtain ⟨rest, rfl, hfits⟩ := exists_of_fits_slot hname (hplain.2.1 rfl) h
    rw [hrest hfits]
    rfl
  fun_induction parts pending items generalizing t taken with
  | case1 => exact List.length_eq_zero_iff.mp h.length_eq
  | case2 pending _ => exact List.length_eq_zero_iff.mp h.length_eq
  | case3 pending c items ih =>
      have h' : (parts (pending ++ [c]) items).Fits ((t ++ [c]) ++ fill value items) taken := by
        simpa [fill, filled] using h
      exact ih hplain.2.2 hvalue (by simp [hlength]) h'
  | case4 pending c items ih =>
      have h' : (parts (pending ++ [c]) items).Fits ((t ++ [c]) ++ fill value items) taken := by
        simpa [fill, filled] using h
      exact ih hplain.2.2 hvalue (by simp [hlength]) h'
  | case5 name items ih =>
      obtain rfl := List.length_eq_zero_iff.mp hlength
      refine hslot hplain (hvalue name List.mem_cons_self) (fun hrest => ?_) h
      exact ih hplain.2.2 (fun n hn => hvalue n (List.mem_cons_of_mem _ hn)) rfl hrest
  | case6 pending name items _ ih =>
      generalize hs : t ++ fill value (slot name :: items) = s at h
      cases h with
      | literal hfold hfits =>
          obtain ⟨-, rfl⟩ := List.append_inj hs (hlength.trans hfold.length_eq)
          refine hslot hplain (hvalue name List.mem_cons_self) (fun hrest => ?_) hfits
          exact ih hplain.2.2 (fun n hn => hvalue n (List.mem_cons_of_mem _ hn)) rfl hrest

end Item

/-! ### Matching -/

namespace Matcher

theorem set_eq_append {name : Text} {value : ParamValue} {params : Params}
    (h : name ∉ params.map Prod.fst) : params.set name value = params ++ [(name, value)] := by
  induction params with
  | nil => rfl
  | cons param params ih =>
      rw [List.map_cons, List.mem_cons, not_or] at h
      rw [Params.set, if_neg fun hname => h.1 hname.symm, ih h.2]
      rfl

/-- Keys of different names that take one value each give their names these values. -/
theorem collect_of_nodup (decode : Text → Text) {keys : List Parameter} {values : List Text}
    {params : Params} (hkeys : ∀ key ∈ keys, key.isRepeated = false)
    (hlength : values.length = keys.length)
    (h : (params.map Prod.fst ++ keys.map Parameter.name).Nodup) :
    collect decode keys (values.map some) params =
      .ok (params ++ List.zipWith (fun key v => (key.name, .one (decode v))) keys values) := by
  induction keys generalizing values params with
  | nil => simp [collect]
  | cons key keys ih =>
      cases values with
      | nil => cases hlength
      | cons v values =>
          have hname : key.name ∉ params.map Prod.fst := by
            intro hmem
            exact (List.nodup_append.mp h).2.2 key.name hmem key.name List.mem_cons_self rfl
          have hvalue : valueOf decode key v = .one (decode v) := by
            rw [valueOf, hkeys key List.mem_cons_self]
            rfl
          rw [List.map_cons, collect, hvalue, set_eq_append hname,
            ih (fun k hk => hkeys k (List.mem_cons_of_mem key hk)) (Nat.succ.inj hlength)
              (by simpa using h)]
          simp

/-- Each slot gives its name the value that it has taken. -/
theorem collect_slots (decode value : Text → Text) {names : List Text} {params : Params}
    (h : (params.map Prod.fst ++ names).Nodup) :
    collect decode (names.map Item.parameter) (names.map fun name => some (value name)) params =
      .ok (params ++ names.map fun name => (name, .one (decode (value name)))) := by
  have hkeys : ∀ key ∈ names.map Item.parameter, key.isRepeated = false := by
    intro key hkey
    obtain ⟨name, -, rfl⟩ := List.mem_map.mp hkey
    rfl
  have hnames : (names.map Item.parameter).map Parameter.name = names := by
    simp [Item.parameter, Function.comp_def]
  have hcollect : collect decode (names.map Item.parameter) ((names.map value).map some) params =
      .ok _ := collect_of_nodup decode hkeys (by simp) (by rw [hnames]; exact h)
  simpa [Item.parameter, Function.comp_def] using hcollect

/-- A template of items matches the text that is made with values for its slots, and gives back these
values. -/
theorem apply_fill {m : Matcher} {items : List Item} (hplain : Item.ArePlain items)
    (hpattern : m.pattern.IsOf (Item.parts [] items))
    (hkeys : m.keys = (Item.names items).map Item.parameter) (hnodup : (Item.names items).Nodup)
    {value : Text → Text} (hvalue : ∀ name ∈ Item.names items, IsSegment (value name)) {url : Text}
    (hurl : url = Item.fill value items ∨
      ∃ c ∈ Template.usualDelimiter, url = Item.fill value items ++ [c])
    (hlast : Item.names items = [] ∨ ∀ c ∈ Template.usualDelimiter, url.getLast? ≠ some c) :
    m.apply url = .ok (some
      ((Item.names items).map fun name => (name, .one (m.decode (value name))))) := by
  have hp := Item.isPlain_parts [] items
  have hfits : (Item.parts [] items).Fits (Item.fill value items) _ := Item.fits_fill [] hvalue
  have hunique : ∀ taken, (Item.parts [] items).Accepts url taken →
      taken = (Item.names items).map fun name => some (value name) := by
    rintro taken ⟨body, hbody, hcut⟩
    rcases hlast with hnone | hlast
    · have hlength := hbody.length_eq
      rw [Item.keys_parts, hnone] at hlength
      rw [hnone]
      exact List.length_eq_zero_iff.mp hlength
    · have hends : ∀ {s : Text}, (url = s ∨ ∃ c ∈ Template.usualDelimiter, url = s ++ [c]) →
          url = s := by
        rintro s (h | ⟨c, hc, h⟩)
        · exact h
        · rw [h] at hlast
          exact absurd List.getLast?_concat (hlast c hc)
      rw [← hends hcut, hends hurl] at hbody
      have hbody' : (Item.parts [] items).Fits ([] ++ Item.fill value items) taken := hbody
      exact Item.eq_of_fits hplain hvalue rfl hbody'
  have hempty : (([] : Params).map Prod.fst ++ Item.names items).Nodup := by simpa using hnodup
  rw [apply_of_accepts hpattern hp ⟨_, hfits, hurl⟩ hunique, hkeys,
    collect_slots m.decode value hempty]
  rfl

end Matcher

end RouteMask
