import RouteMask.Proofs.Mask.Structure
import RouteMask.Proofs.Template.Slots
import RouteMask.Request

/-! # Masks with an origin, compiled

The colons of a site are escaped in a template, so that the site stands for itself
(`Site.texts_items`).  A mask that is a canonical origin and a path becomes such a template
(`Mask.exists_matcher`). -/

namespace RouteMask

namespace Item

theorem texts_append (items more : List Item) : texts (items ++ more) = texts items ++ texts more :=
  List.flatMap_append

theorem fill_append (value : Text → Text) (items more : List Item) :
    fill value (items ++ more) = fill value items ++ fill value more :=
  List.flatMap_append

theorem names_append (items more : List Item) : names (items ++ more) = names items ++ names more :=
  List.filterMap_append

theorem texts_map_char (s : Text) : texts (s.map char) = s := by
  induction s with
  | nil => rfl
  | cons c s ih =>
      have hcons : texts ((c :: s).map char) = c :: texts (s.map char) := rfl
      rw [hcons, ih]

theorem fill_map_char (value : Text → Text) (s : Text) : fill value (s.map char) = s := by
  induction s with
  | nil => rfl
  | cons c s ih =>
      have hcons : fill value ((c :: s).map char) = c :: fill value (s.map char) := rfl
      rw [hcons, ih]

theorem names_map_char (s : Text) : names (s.map char) = [] := by
  induction s with
  | nil => rfl
  | cons c s ih => exact ih

/-- Characters that stand for themselves can be put in front of items. -/
theorem arePlain_map_char_append {s : Text} (h : ∀ c ∈ s, c ∉ openers) {items : List Item}
    (hitems : ArePlain items) : ArePlain (s.map char ++ items) := by
  induction s with
  | nil => exact hitems
  | cons c s ih =>
      refine ⟨h c List.mem_cons_self, ?_, ih fun d hd => h d (List.mem_cons_of_mem c hd)⟩
      intro hname
      cases hname

theorem arePlain_escaped_cons {c : Char} {items : List Item} (hitems : ArePlain items) :
    ArePlain (escaped c :: items) := by
  refine ⟨trivial, ?_, hitems⟩
  intro hname
  cases hname

end Item

namespace Origin

/-- The origin `https://example.com`. -/
def exampleCom : Origin :=
  ⟨"https".toList, "example.com".toList, [], by decide, by decide, by decide, by decide, by decide⟩

end Origin

namespace Site

variable (site : Site)

/-- The items of the port behind its colon. -/
def portItems : List Item :=
  if site.port = [] then [] else .escaped ':' :: site.port.map .char

/-- A character of an address, whose colons are escaped. -/
def addressItem (c : Char) : Item :=
  if c = ':' then .escaped c else .char c

/-- The items of a host. -/
def hostItems : HostMask → List Item
  | .plain name => name.map .char
  | .bracketed address => .char '[' :: address.map addressItem ++ [.char ']']

/-- The items of a site whose colons are escaped. -/
def items : List Item :=
  site.scheme.map .char ++ .escaped ':' :: "//".toList.map .char ++
    (hostItems site.host ++ site.portItems)

theorem texts_hostItems (host : HostMask) :
    Item.texts (hostItems host) = Skeleton.escapedHost host := by
  cases host with
  | plain name => exact Item.texts_map_char name
  | bracketed address =>
      have haddress : Item.texts (address.map addressItem) = Skeleton.escapeColons address := by
        induction address with
        | nil => rfl
        | cons c address ih =>
            have hcons : Item.texts ((c :: address).map addressItem) =
                (addressItem c).text ++ Item.texts (address.map addressItem) := rfl
            have hescape : Skeleton.escapeColons (c :: address) =
                (if c = ':' then ['\\', ':'] else [c]) ++ Skeleton.escapeColons address := rfl
            rw [hcons, ih, hescape]
            unfold addressItem
            split
            · next hc => rw [hc]; rfl
            · rfl
      have hhost : Item.texts (hostItems (.bracketed address)) =
          '[' :: (Item.texts (address.map addressItem) ++ [']']) :=
        congrArg ('[' :: ·) (Item.texts_append _ [.char ']'])
      have hescaped : Skeleton.escapedHost (.bracketed address) =
          '[' :: (Skeleton.escapeColons address ++ [']']) :=
        congrArg ('[' :: ·) List.flatMap_append
      rw [hhost, hescaped, haddress]

theorem texts_items : Item.texts site.items = site.escaped := by
  have hport : Item.texts site.portItems =
      if site.port = [] then [] else '\\' :: ':' :: site.port := by
    unfold portItems
    split
    · rfl
    · have hcons : Item.texts (.escaped ':' :: site.port.map .char) =
          '\\' :: ':' :: Item.texts (site.port.map .char) := rfl
      rw [hcons, Item.texts_map_char]
  have hslashes : Item.texts (.escaped ':' :: "//".toList.map .char) = "\\://".toList := rfl
  unfold items escaped
  rw [Item.texts_append, Item.texts_append, Item.texts_append, Item.texts_map_char, hslashes,
    texts_hostItems, hport, List.append_assoc, List.append_assoc, List.append_assoc]

theorem fill_hostItems (value : Text → Text) (host : HostMask) :
    Item.fill value (hostItems host) = host.text := by
  cases host with
  | plain name => exact Item.fill_map_char value name
  | bracketed address =>
      have haddress : Item.fill value (address.map addressItem) = address := by
        induction address with
        | nil => rfl
        | cons c address ih =>
            have hcons : Item.fill value ((c :: address).map addressItem) =
                (addressItem c).filled value ++ Item.fill value (address.map addressItem) := rfl
            rw [hcons, ih]
            unfold addressItem
            split <;> rfl
      have hhost : Item.fill value (hostItems (.bracketed address)) =
          '[' :: (Item.fill value (address.map addressItem) ++ [']']) :=
        congrArg ('[' :: ·) (Item.fill_append value _ [.char ']'])
      rw [hhost, haddress]
      rfl

theorem fill_items (value : Text → Text) : Item.fill value site.items = site.text := by
  have hport : Item.fill value site.portItems = site.portPart := by
    unfold portItems portPart
    split
    · rfl
    · have hcons : Item.fill value (.escaped ':' :: site.port.map .char) =
          ':' :: Item.fill value (site.port.map .char) := rfl
      rw [hcons, Item.fill_map_char]
  have hslashes : Item.fill value (.escaped ':' :: "//".toList.map .char) = "://".toList := rfl
  unfold items text authority
  rw [Item.fill_append, Item.fill_append, Item.fill_append, Item.fill_map_char, hslashes,
    fill_hostItems, hport]

theorem names_hostItems (host : HostMask) : Item.names (hostItems host) = [] := by
  cases host with
  | plain name => exact Item.names_map_char name
  | bracketed address =>
      have haddress : Item.names (address.map addressItem) = [] := by
        induction address with
        | nil => rfl
        | cons c address ih =>
            have hname : (addressItem c).name? = none := by
              unfold addressItem
              split <;> rfl
            rw [List.map_cons, Item.names, List.filterMap_cons, hname]
            exact ih
      have hhost : Item.names (hostItems (.bracketed address)) =
          Item.names (address.map addressItem) ++ [] := Item.names_append _ [.char ']']
      rw [hhost, haddress]
      rfl

theorem names_items : Item.names site.items = [] := by
  have hport : Item.names site.portItems = [] := by
    unfold portItems
    split
    · rfl
    · exact Item.names_map_char site.port
  have hslashes : Item.names (.escaped ':' :: "//".toList.map .char) = [] := rfl
  unfold items
  rw [Item.names_append, Item.names_append, Item.names_append, Item.names_map_char, hslashes,
    names_hostItems, hport]
  rfl

theorem not_mem_marks {c : Char} (h : 0x2D ≤ c.toNat ∧ c.toNat ≤ 0x39 ∨ 0x61 ≤ c.toNat ∧ c.toNat ≤ 0x7A) :
    c ∉ Item.marks := by
  have hmarks : ∀ d ∈ Item.marks,
      ¬ (0x2D ≤ d.toNat ∧ d.toNat ≤ 0x39 ∨ 0x61 ≤ d.toNat ∧ d.toNat ≤ 0x7A) := by decide
  exact fun hc => hmarks c hc h

/-- The items of a host that stands for itself can be put in front of items. -/
theorem arePlain_hostItems_append {host : HostMask} (hhost : host.IsSimple) {more : List Item}
    (hmore : Item.ArePlain more) : Item.ArePlain (hostItems host ++ more) := by
  cases host with
  | plain name =>
      have hsubset : ∀ d ∈ Item.openers, d ∈ HostMask.marks := by decide
      exact Item.arePlain_map_char_append (fun c hc hmark => (hhost.2 c hc).2 (hsubset c hmark)) hmore
  | bracketed address =>
      have hclose : Item.ArePlain ([']'].map .char ++ more) :=
        Item.arePlain_map_char_append (by decide) hmore
      have haddress : ∀ a : Text, (∀ c ∈ a, Skeleton.isAddressChar c = true) →
          Item.ArePlain (a.map addressItem ++ ([']'].map .char ++ more)) := by
        intro a ha
        induction a with
        | nil => exact hclose
        | cons c a ih =>
            have hrest := ih fun d hd => ha d (List.mem_cons_of_mem c hd)
            rw [List.map_cons, List.cons_append, addressItem]
            split
            · exact Item.arePlain_escaped_cons hrest
            · next hcolon =>
                have hc := ha c List.mem_cons_self
                have hdigit : c.isDigit = true ∨ 'a' ≤ c ∧ c ≤ 'f' := by
                  simpa [Skeleton.isAddressChar, hcolon] using hc
                have hmark : ∀ d ∈ [c], d ∉ Item.openers := by
                  intro d hd
                  obtain rfl := List.mem_singleton.mp hd
                  rcases hdigit with h | ⟨hfirst, hlast⟩
                  · have := Text.isDigit_iff.mp h
                    exact Item.not_mem_openers (not_mem_marks (Or.inl (by omega)))
                  · have hlow : 0x61 ≤ d.toNat := UInt32.le_iff_toNat_le.mp hfirst
                    have hhigh : d.toNat ≤ 0x66 := UInt32.le_iff_toNat_le.mp hlast
                    exact Item.not_mem_openers (not_mem_marks (Or.inr (by omega)))
                exact Item.arePlain_map_char_append hmark hrest
      have hopen : Item.ArePlain
          (['['].map .char ++ (address.map addressItem ++ ([']'].map .char ++ more))) :=
        Item.arePlain_map_char_append (by decide) (haddress address hhost.2)
      simpa [hostItems] using hopen

/-- The items of a site can be put in front of items. -/
theorem arePlain_items_append {more : List Item} (hmore : Item.ArePlain more) :
    Item.ArePlain (site.items ++ more) := by
  have hport : Item.ArePlain (site.portItems ++ more) := by
    unfold portItems
    split
    · exact hmore
    · refine Item.arePlain_escaped_cons (Item.arePlain_map_char_append (fun c hc => ?_) hmore)
      have := site.range_of_mem_port hc
      exact Item.not_mem_openers (not_mem_marks (Or.inl (by omega)))
  have hhost := arePlain_hostItems_append site.host_isSimple hport
  have hslashes : Item.ArePlain
      (.escaped ':' :: ("//".toList.map .char ++ (hostItems site.host ++ (site.portItems ++ more)))) :=
    Item.arePlain_escaped_cons (Item.arePlain_map_char_append (by decide) hhost)
  have hscheme := Item.arePlain_map_char_append (s := site.scheme) (fun c hc => by
    have := site.range_of_mem_scheme hc
    exact Item.not_mem_openers (not_mem_marks (Or.inr (by omega)))) hslashes
  simpa [items] using hscheme

end Site

namespace Origin

variable (o : Origin)

/-- The items of an origin whose colons are escaped. -/
def items : List Item :=
  o.site.items

theorem texts_items : Item.texts o.items = o.site.escaped :=
  o.site.texts_items

theorem fill_items (value : Text → Text) : Item.fill value o.items = o.text :=
  o.site.fill_items value

theorem names_items : Item.names o.items = [] :=
  o.site.names_items

/-- The items of an origin can be put in front of items. -/
theorem arePlain_items_append {more : List Item} (hmore : Item.ArePlain more) :
    Item.ArePlain (o.items ++ more) :=
  o.site.arePlain_items_append hmore

end Origin

namespace Mask

variable {o : Origin} {path : Text}

/-- The template of a mask that is an origin and a path whose stars are left alone. -/
theorem prepare_of_expand (hlen : o.port.length ≤ 5) (hmarks : ∀ c ∈ path, c ≠ '?' ∧ c ≠ '#')
    (hexpand : Wildcard.expand (o.text ++ path) = o.text ++ path)
    (hpath : Skeleton.isPath path = true) (base : Option Text) :
    (Mask.text (o.text ++ path)).prepare base = .ok (.text (o.site.escaped ++ path)) := by
  unfold prepare normalize
  dsimp only
  rw [MaskText.normalize_append hmarks base]
  dsimp only [Except.map]
  have hescape : Skeleton.escape (o.text ++ path) = o.site.escaped ++ path :=
    Skeleton.escape_of_isPath o.site hlen hpath
  rw [MaskText.template, hexpand, hescape]

/-- The template of a mask that is an origin and a path. -/
theorem prepare_of_isPath (hlen : o.port.length ≤ 5)
    (hmarks : ∀ c ∈ path, c ≠ '?' ∧ c ≠ '#' ∧ c ≠ '*') (hpath : Skeleton.isPath path = true)
    (base : Option Text) :
    (Mask.text (o.text ++ path)).prepare base = .ok (.text (o.site.escaped ++ path)) := by
  have hstar : '*' ∉ path := fun h => (hmarks _ h).2.2 rfl
  exact prepare_of_expand hlen (fun c hc => ⟨(hmarks c hc).1, (hmarks c hc).2.1⟩)
    (Wildcard.expand_eq_self (o.star_not_mem_append hstar)) hpath base

/-- A mask that is an origin and a path of items can be compiled. -/
theorem exists_matcher {items : List Item} (hitems : Item.ArePlain items) (hlen : o.port.length ≤ 5)
    (hmarks : ∀ c ∈ Item.texts items, c ≠ '?' ∧ c ≠ '#' ∧ c ≠ '*')
    (hpath : Skeleton.isPath (Item.texts items) = true) (base : Option Text) :
    ∃ m, (Mask.text (o.text ++ Item.texts items)).matcher base = .ok m ∧
      m.pattern.IsOf (Item.parts [] (o.items ++ items)) ∧
      m.keys = (Item.names (o.items ++ items)).map Item.parameter ∧ m.decode = Percent.decode := by
  obtain ⟨m, hm, hpattern, hkeys, hdecode⟩ :=
    Item.exists_matcher (o.arePlain_items_append hitems) Percent.decode
  rw [Item.texts_append, Origin.texts_items] at hm
  refine ⟨m, ?_, hpattern, hkeys, hdecode⟩
  unfold matcher
  rw [prepare_of_isPath hlen hmarks hpath]
  dsimp only [Except.mapError, bind, Except.bind]
  rw [compile, hm]

/-- A mask that is prepared as a site and a path without marks of a template matches the URL that is the
same site and path. -/
theorem outcome_of_prepare {mask : Mask} {base : Option Text} {site : Site} {url : Text}
    (hprepare : mask.prepare base = .ok (.text (site.escaped ++ path)))
    (hmarks : ∀ c ∈ path, c ∉ Item.marks)
    (hcanonical : Url.canonical url = .ok (site.text ++ path)) :
    mask.outcome base url = .ok ⟨true, []⟩ := by
  have hplain : Item.ArePlain (site.items ++ (path.map .char ++ [])) :=
    site.arePlain_items_append
      (Item.arePlain_map_char_append (fun c hc => Item.not_mem_openers (hmarks c hc)) trivial)
  rw [List.append_nil] at hplain
  have htexts : Item.texts (site.items ++ path.map .char) = site.escaped ++ path := by
    rw [Item.texts_append, site.texts_items, Item.texts_map_char]
  have hnames : Item.names (site.items ++ path.map .char) = [] := by
    rw [Item.names_append, site.names_items, Item.names_map_char]
    rfl
  have hfill : Item.fill id (site.items ++ path.map .char) = site.text ++ path := by
    rw [Item.fill_append, site.fill_items, Item.fill_map_char]
  obtain ⟨m, hm, hpattern, hkeys, -⟩ := Item.exists_matcher hplain Percent.decode
  have hnodup : (Item.names (site.items ++ path.map .char)).Nodup := by
    rw [hnames]
    exact List.nodup_nil
  have hvalue : ∀ name ∈ Item.names (site.items ++ path.map .char), IsSegment (id name) := by
    rw [hnames]
    simp
  have happly := Matcher.apply_fill hplain hpattern hkeys hnodup hvalue (Or.inl hfill.symm)
    (Or.inl hnames)
  rw [hnames] at happly
  rw [htexts] at hm
  unfold outcome matcher Matcher.outcome
  rw [hprepare, hcanonical]
  dsimp only [Except.mapError, bind, Except.bind]
  rw [compile, hm]
  dsimp only
  rw [happly]
  rfl

end Mask

end RouteMask
