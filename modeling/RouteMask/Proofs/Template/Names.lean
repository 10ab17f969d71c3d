import Mathlib.Data.List.Dedup
import Mathlib.Data.List.Nodup
import Mathlib.Data.List.ReduceOption
import RouteMask.Proofs.Template.Adjacency
import RouteMask.Proofs.Template.Contents
import RouteMask.Proofs.Template.Slots

/-! # When the names of keys differ

The keys of a matcher are named as the mask names them, and those that it does not name are numbered.
Nothing keeps a number apart from a name.

* `withNumbers`: the names of keys, some of which have none of their own.
* `nodup_withNumbers_iff`: when they differ.
* `Mask.nodup_names_iff`: the same for the matcher of a mask, and what becomes of the groups' values. -/

namespace RouteMask

open Lexeme (Of)

/-! ### Numbering -/

/-- The given names, with those that are missing numbered from `n` on. -/
def withNumbers : (n : Nat) → List (Option Text) → List Text
  | _, [] => []
  | n, some name :: names => name :: withNumbers n names
  | n, none :: names => Template.numeral n :: withNumbers (n + 1) names

theorem withNumbers_perm (n : Nat) (names : List (Option Text)) :
    (withNumbers n names).Perm
      (names.reduceOption ++ (List.range' n (names.count none)).map Template.numeral) := by
  induction names generalizing n with
  | nil => exact .nil
  | cons name names ih =>
      cases name with
      | some name => simpa [withNumbers] using ih n
      | none =>
          rw [withNumbers, List.reduceOption_cons_of_none, List.count_cons_self, List.range'_succ,
            List.map_cons]
          exact ((ih (n + 1)).cons _).trans List.perm_middle.symm

/-- The names differ when those that are given do, and none of them is a number in use. -/
theorem nodup_withNumbers_iff (n : Nat) (names : List (Option Text)) :
    (withNumbers n names).Nodup ↔ names.reduceOption.Nodup ∧
      ∀ k, n ≤ k → k < n + names.count none → Template.numeral k ∉ names.reduceOption := by
  have hnumerals : ((List.range' n (names.count none)).map Template.numeral).Nodup :=
    (List.nodup_range' ..).map Text.toList_toString_injective
  rw [(withNumbers_perm n names).nodup_iff, List.nodup_append]
  constructor
  · rintro ⟨hnames, -, hapart⟩
    refine ⟨hnames, fun k hn hk hmem => hapart _ hmem _ (List.mem_map_of_mem ?_) rfl⟩
    exact List.mem_range'_1.mpr ⟨hn, hk⟩
  · rintro ⟨hnames, hapart⟩
    refine ⟨hnames, hnumerals, ?_⟩
    rintro name hname _ hnumeral rfl
    obtain ⟨k, hk, rfl⟩ := List.mem_map.mp hnumeral
    obtain ⟨hn, hk⟩ := List.mem_range'_1.mp hk
    exact hapart k hn hk hname

/-! ### The names of keys -/

theorem Template.IsFront.keys_append {front : Template} (h : front.IsFront) (parts : Template) :
    (front ++ parts).keys = parts.keys := by
  rcases h with rfl | ⟨text, -, rfl⟩ <;> rfl

/-- The keys of a template are named as its parameters are. -/
theorem Template.Makes.keys_names {segment : Text} {n : Nat} {pending : Text}
    {phrases : List Phrase} {parts : Template} (h : Makes segment n pending phrases parts)
    (hvalues : ∀ l ∈ Phrase.allLexemes phrases, l.value ≠ []) (hsegment : segment ≠ []) :
    parts.keys.map Parameter.name = withNumbers n ((phrases.filterMap Phrase.slot?).map Slot.name?) := by
  induction h with
  | @done n front hfront =>
      have hkeys := hfront.keys_append []
      rw [List.append_nil] at hkeys
      rw [hkeys]
      rfl
  | text h ih =>
      rw [Phrase.allLexemes_cons, List.forall_mem_append] at hvalues
      exact ih hvalues.2
  | @parameter n pending q phrases front parts p hq hfront htext hp h ih =>
      rw [Phrase.allLexemes_cons, List.forall_mem_append] at hvalues
      have hrest := ih hvalues.2
      have hcapturing := hp.isCapturing_iff hvalues.1 hsegment
      rw [hfront.keys_append, keys_parameter]
      cases hs : q.slot? with
      | none =>
          have hnumbered : ¬ q.IsNumbered := by simp [Phrase.IsNumbered, Phrase.pattern?, hs]
          rw [if_neg (by simp [hcapturing, hs]), List.filterMap_cons_none hs, hrest,
            if_neg hnumbered]
          rfl
      | some s =>
          rw [if_pos (by simp [hcapturing, hs]), List.filterMap_cons_some hs, List.map_cons,
            List.map_cons, hrest, hp.name_eq]
          cases s with
          | named name pattern =>
              have hnumbered : ¬ q.IsNumbered := by
                simp [Phrase.IsNumbered, Phrase.name?, hs, Slot.name?]
              rw [if_neg hnumbered, Phrase.name?, hs]
              rfl
          | unnamed pattern =>
              have hnumbered : q.IsNumbered := by
                simp [Phrase.IsNumbered, Phrase.name?, Phrase.pattern?, hs, Slot.name?, Slot.pattern?]
              rw [if_pos hnumbered, if_pos hnumbered.2, hnumbered.1]
              rfl

/-- The keys of a regular expression are named as its groups are. -/
theorem Matcher.regexKeys_names (p : Pattern) (count index unnamed : Nat) :
    (regexKeys p count index unnamed).map Parameter.name =
      withNumbers unnamed ((List.range' index count).map p.name?) := by
  induction count generalizing index unnamed with
  | zero => rfl
  | succ count ih =>
      rw [regexKeys, List.range'_succ, List.map_cons]
      cases p.name? index with
      | some name =>
          dsimp only
          rw [List.map_cons, ih]
          rfl
      | none =>
          dsimp only
          rw [List.map_cons, ih]
          rfl

/-- No two groups of a regular expression have the same name. -/
theorem Pattern.name?_inj {p : Pattern} {i j : Nat} {name : Text} (hi : p.name? i = some name)
    (hj : p.name? j = some name) : i = j := by
  have hfirst : ∀ {k : Nat}, p.name? k = some name →
      (p.names.find? (·.2 == name)).map (·.1) = some k := by
    intro k hk
    unfold name? at hk
    split at hk
    · split at hk
      · next hfind =>
          obtain rfl := Option.some.inj hk
          exact beq_iff_eq.mp hfind
      · cases hk
    · cases hk
  exact Option.some.inj ((hfirst hi).symm.trans (hfirst hj))

/-! ### The values of groups -/

theorem Params.map_fst_set_of_mem {name : Text} (value : ParamValue) {params : Params}
    (h : name ∈ params.map Prod.fst) : (params.set name value).map Prod.fst = params.map Prod.fst := by
  induction params with
  | nil => cases h
  | cons entry params ih =>
      obtain ⟨other, v⟩ := entry
      rw [Params.set]
      by_cases hother : other = name
      · simp [hother]
      · have hmem := (List.mem_cons.mp h).resolve_left fun hname => hother hname.symm
        rw [if_neg hother, List.map_cons, ih hmem, List.map_cons]

theorem Params.map_fst_set_of_not_mem {name : Text} (value : ParamValue) {params : Params}
    (h : name ∉ params.map Prod.fst) :
    (params.set name value).map Prod.fst = params.map Prod.fst ++ [name] := by
  rw [Matcher.set_eq_append h, List.map_append]
  rfl

namespace Matcher

variable {decode : Text → Text} {keys : List Parameter} {groups : List (Option Text)}
  {params params' : Params}

/-- The names of the keys whose groups took part. -/
def takenNames : List Parameter → List (Option Text) → List Text
  | key :: keys, some _ :: groups => key.name :: takenNames keys groups
  | _ :: keys, none :: groups => takenNames keys groups
  | _, _ => []

theorem takenNames_sublist (keys : List Parameter) (groups : List (Option Text)) :
    (takenNames keys groups).Sublist (keys.map Parameter.name) := by
  induction keys generalizing groups with
  | nil => exact .slnil
  | cons key keys ih =>
      rcases groups with _ | ⟨_ | captured, groups⟩
      · exact List.nil_sublist _
      · exact (ih groups).cons _
      · exact (ih groups).cons_cons _

/-- The names whose groups took part are given values, once each. -/
theorem collect_names (h : collect decode keys groups params = .ok params')
    (hnodup : (params.map Prod.fst).Nodup) :
    (params'.map Prod.fst).Nodup ∧ ∀ name, name ∈ params'.map Prod.fst ↔
      name ∈ params.map Prod.fst ∨ name ∈ takenNames keys groups := by
  induction keys generalizing groups params with
  | nil =>
      obtain rfl : params = params' := by
        unfold collect at h
        exact Except.ok.inj h
      exact ⟨hnodup, fun name => by simp [takenNames]⟩
  | cons key keys ih =>
      rcases groups with _ | ⟨_ | captured, groups⟩
      · cases h
      · exact ih h hnodup
      · by_cases hmem : key.name ∈ params.map Prod.fst
        · have hset := Params.map_fst_set_of_mem (valueOf decode key captured) hmem
          obtain ⟨hnodup', hiff⟩ := ih h (hset ▸ hnodup)
          refine ⟨hnodup', fun name => ?_⟩
          rw [hiff, hset, takenNames, List.mem_cons]
          constructor
          · exact Or.imp_right Or.inr
          · rintro (h | rfl | h)
            · exact Or.inl h
            · exact Or.inl hmem
            · exact Or.inr h
        · have hset := Params.map_fst_set_of_not_mem (valueOf decode key captured) hmem
          obtain ⟨hnodup', hiff⟩ := ih h (hset ▸ by simpa using hnodup.concat hmem)
          refine ⟨hnodup', fun name => ?_⟩
          rw [hiff, hset, takenNames, List.mem_append, List.mem_singleton, List.mem_cons, or_assoc]

/-- When these names differ, each of the groups has its value, in order. -/
theorem collect_names_of_nodup (h : collect decode keys groups params = .ok params')
    (hnodup : (params.map Prod.fst ++ takenNames keys groups).Nodup) :
    params'.map Prod.fst = params.map Prod.fst ++ takenNames keys groups := by
  induction keys generalizing groups params with
  | nil =>
      obtain rfl : params = params' := by
        unfold collect at h
        exact Except.ok.inj h
      exact (List.append_nil _).symm
  | cons key keys ih =>
      rcases groups with _ | ⟨_ | captured, groups⟩
      · cases h
      · exact ih h hnodup
      · rw [takenNames] at hnodup ⊢
        have hmem : key.name ∉ params.map Prod.fst := fun hmem =>
          (List.nodup_append.mp hnodup).2.2 _ hmem _ List.mem_cons_self rfl
        have hset := Params.map_fst_set_of_not_mem (valueOf decode key captured) hmem
        rw [ih h (by rwa [hset, ← List.append_cons]), hset, ← List.append_cons]

/-- When they do not, there are fewer values than groups. -/
theorem length_lt_of_collect (h : collect decode keys groups [] = .ok params)
    (hnodup : ¬ (takenNames keys groups).Nodup) :
    params.length < (takenNames keys groups).length := by
  obtain ⟨hnames, hmem⟩ := collect_names h List.nodup_nil
  have hperm : (params.map Prod.fst).Perm (takenNames keys groups).dedup :=
    (List.perm_ext_iff_of_nodup hnames (List.nodup_dedup _)).mpr fun name => by
      rw [hmem, List.mem_dedup]
      simp
  rw [← List.length_map (f := Prod.fst), hperm.length_eq]
  refine lt_of_le_of_ne (List.dedup_sublist _).length_le fun hlength => hnodup ?_
  exact List.dedup_eq_self.mp ((List.dedup_sublist _).eq_of_length hlength)

theorem collect_eq_error (h : groups.length < keys.length) (params : Params) :
    collect decode keys groups params = .error .noGroup := by
  induction keys generalizing groups params with
  | nil => cases h
  | cons key keys ih =>
      rcases groups with _ | ⟨_ | captured, groups⟩
      · rfl
      · exact ih (Nat.lt_of_succ_lt_succ h) params
      · exact ih (Nat.lt_of_succ_lt_succ h) _

theorem length_regexKeys (p : Pattern) (count index unnamed : Nat) :
    (regexKeys p count index unnamed).length = count := by
  induction count generalizing index unnamed with
  | zero => rfl
  | succ count ih =>
      rw [regexKeys]
      split
      · exact congrArg (· + 1) (ih ..)
      · exact congrArg (· + 1) (ih ..)

/-- A matching URL has values exactly when there is a group for each key. -/
theorem apply_of_find? {m : Matcher} {url : Text} {groups : List (Option Text)}
    (h : m.pattern.find? url = some groups) :
    (m.pattern.groups < m.keys.length → m.apply url = .error .noGroup) ∧
      (m.keys.length ≤ m.pattern.groups → ∃ params, m.apply url = .ok (some params) ∧
        collect m.decode m.keys groups.tail [] = .ok params) := by
  have hlength : groups.tail.length = m.pattern.groups := by
    obtain ⟨saved, -, rfl⟩ := Option.map_eq_some_iff.mp h
    simp [Pattern.texts]
  rw [apply, h, ← hlength]
  refine ⟨fun hlt => ?_, fun hle => ?_⟩
  · exact congrArg (Except.map some) (collect_eq_error hlt [])
  · obtain ⟨params, hcollect⟩ := exists_collect m.decode hle []
    exact ⟨params, congrArg (Except.map some) hcollect, hcollect⟩

end Matcher

/-! ### The matcher of a mask -/

/-- The names that a mask gives to its keys, in order. -/
def Mask.GivesNames : Mask → List (Option Text) → Prop
  | .text template, names =>
    ∃ (phrases : List Template.Phrase) (last : Of .finish),
      Lexeme.scan template = .ok (Template.Phrase.allLexemes phrases ++ [last.1]) ∧
        Template.Phrase.AreMaximal phrases [last.1] ∧
        names = (phrases.filterMap Template.Phrase.slot?).map Template.Slot.name?
  | .regex r, names => names = (List.range' 1 r.pattern.groups).map r.pattern.name?

theorem Mask.exists_givesNames {decode : Text → Text} {mask : Mask} {m : Matcher}
    (h : mask.compile decode = .ok m) :
    ∃ names, mask.GivesNames names ∧ m.keys.map Parameter.name = withNumbers 0 names := by
  cases mask with
  | regex r =>
      cases h
      exact ⟨_, rfl, Matcher.regexKeys_names r.pattern _ 1 0⟩
  | text template =>
      obtain ⟨parts, source, hread, -, -, hkeys, -⟩ := Matcher.ofTemplate_eq_ok h
      obtain ⟨lexemes, hscan, -⟩ := exists_of_bind_eq_ok hread
      have hscan := eq_ok_of_mapError hscan
      obtain ⟨phrases, last, rfl, hmaximal, hvalues, hmakes⟩ :=
        Template.exists_makes_of_read hscan hread
      refine ⟨_, ⟨phrases, last, hscan, hmaximal, rfl⟩, ?_⟩
      rw [hkeys]
      exact hmakes.keys_names hvalues (Template.segmentPattern_ne_nil _)

/-- The keys of a mask have different names if and only if the mask gives no name twice, which a regular
expression never does, and gives none of the numbers that the keys without name get.  On a matching URL
the parameters are one for each group that took part when the names of these groups' keys differ, and
fewer when they do not. -/
theorem Mask.nodup_names_iff {decode : Text → Text} {mask : Mask} {m : Matcher}
    (h : mask.compile decode = .ok m) :
    ∃ names, mask.GivesNames names ∧ m.keys.map Parameter.name = withNumbers 0 names ∧
      ((m.keys.map Parameter.name).Nodup ↔ names.reduceOption.Nodup ∧
        ∀ k < names.count none, Template.numeral k ∉ names.reduceOption) ∧
      (∀ r, mask = .regex r → names.reduceOption.Nodup ∧ m.keys.length = m.pattern.groups) ∧
      ∀ url groups, m.pattern.find? url = some groups →
        (m.pattern.groups < m.keys.length → m.apply url = .error .noGroup) ∧
        (m.keys.length ≤ m.pattern.groups → ∃ params, m.apply url = .ok (some params) ∧
          (Matcher.takenNames m.keys groups.tail).Sublist (m.keys.map Parameter.name) ∧
          ((Matcher.takenNames m.keys groups.tail).Nodup →
            params.map Prod.fst = Matcher.takenNames m.keys groups.tail) ∧
          (¬ (Matcher.takenNames m.keys groups.tail).Nodup →
            params.length < (Matcher.takenNames m.keys groups.tail).length)) := by
  obtain ⟨names, hnames, hkeys⟩ := Mask.exists_givesNames h
  refine ⟨names, hnames, hkeys, ?_, ?_, fun url groups hfind => ?_⟩
  · rw [hkeys, nodup_withNumbers_iff]
    simp
  · rintro r rfl
    obtain rfl : names = _ := hnames
    cases h
    refine ⟨?_, Matcher.length_regexKeys r.pattern _ 1 0⟩
    rw [List.reduceOption, List.filterMap_map]
    exact (List.nodup_range' ..).filterMap fun i j name => Pattern.name?_inj
  · obtain ⟨herror, hvalues⟩ := Matcher.apply_of_find? hfind
    refine ⟨herror, fun hlength => ?_⟩
    obtain ⟨params, happly, hcollect⟩ := hvalues hlength
    exact ⟨params, happly, Matcher.takenNames_sublist _ _, Matcher.collect_names_of_nodup hcollect,
      Matcher.length_lt_of_collect hcollect⟩

/-- A parameter that is called as the first number is has its value replaced. -/
theorem Mask.nodup_names_iff_number :
    ∃ m params, (Mask.text "/:0/(b)".toList).compile id = .ok m ∧
      ¬ (m.keys.map Parameter.name).Nodup ∧ m.apply "/x/b".toList = .ok (some params) ∧
      params.length < 2 := by
  have hrun : (((Mask.text "/:0/(b)".toList).compile id).toOption.bind fun m =>
      (m.pattern.find? "/x/b".toList).map fun groups =>
        (m.pattern.groups, m.keys.map Parameter.name, Matcher.takenNames m.keys groups.tail)) =
      some (2, [['0'], ['0']], [['0'], ['0']]) := by
    decide +kernel
  cases hm : (Mask.text "/:0/(b)".toList).compile id with
  | error e =>
      rw [hm] at hrun
      cases hrun
  | ok m =>
      rw [hm] at hrun
      obtain ⟨groups, hfind, hgroups⟩ := Option.map_eq_some_iff.mp hrun
      simp only [Prod.mk.injEq] at hgroups
      obtain ⟨hcount, hkeys, htaken⟩ := hgroups
      obtain ⟨-, -, -, -, -, happly⟩ := Mask.nodup_names_iff hm
      obtain ⟨-, happly⟩ := happly _ groups hfind
      have hlength : m.keys.length = 2 := by
        rw [← List.length_map (f := Parameter.name), hkeys]
        rfl
      obtain ⟨params, hparams, -, -, hlt⟩ := happly (by rw [hcount, hlength])
      rw [htaken] at hlt
      exact ⟨m, params, rfl, by rw [hkeys]; decide, hparams, hlt (by decide)⟩

end RouteMask
