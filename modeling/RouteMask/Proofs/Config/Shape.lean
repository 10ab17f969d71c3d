import RouteMask.Proofs.Config.Order

/-! # The shape of configurations

`Config.HasShape` says field by field what a configuration is, and `Config.Describes` which
configuration a value describes.  Reading gives the configuration that is described, and an error
where the shape is not kept.  What is written is read again as it was, and fields of other
names do not count (`Config.parse_shape`). -/

namespace RouteMask

namespace Value

variable {fields : List (Text × Value)}

/-- Fields of other names do not matter for a field. -/
theorem field?_filter {key : Text} {p : Text × Value → Bool} (hp : ∀ w, p (key, w) = true) :
    field? key (fields.filter p) = field? key fields := by
  rw [field?, field?, ← List.filter_reverse]
  induction fields.reverse with
  | nil => rfl
  | cons f rest ih =>
      obtain ⟨other, w⟩ := f
      by_cases hkey : key = other
      · subst hkey
        rw [List.filter_cons_of_pos (hp w), List.lookup_cons_self, List.lookup_cons_self]
      · have hne : (key == other) = false := beq_false_of_ne hkey
        rw [List.filter_cons]
        split
        · rw [List.lookup_cons, List.lookup_cons, hne, ih]
        · rw [List.lookup_cons, hne, ih]

/-- A field whose value is changed by a function of its name and value. -/
theorem field?_map (key : Text) (change : Text → Value → Value) :
    field? key (fields.map fun f => (f.1, change f.1 f.2)) = (field? key fields).map (change key) := by
  rw [field?, field?, ← List.map_reverse]
  induction fields.reverse with
  | nil => rfl
  | cons f rest ih =>
      obtain ⟨other, w⟩ := f
      by_cases hkey : key = other
      · subst hkey
        simp only [List.map_cons, List.lookup_cons_self, Option.map_some]
      · have hne : (key == other) = false := beq_false_of_ne hkey
        simp only [List.map_cons, List.lookup_cons, hne, ih]

end Value

/-- The other kind of masks. -/
def MaskKind.other : MaskKind → MaskKind
  | .path => .regex
  | .regex => .path

namespace Config

/-! ### What values describe -/

/-- The field of that name has that value.  Where there are several, the last one counts. -/
def Gives (fields : List (Text × Value)) (name : String) (v : Value) : Prop :=
  ∃ before after, fields = before ++ (name.toList, v) :: after ∧ ∀ f ∈ after, f.1 ≠ name.toList

/-- There is no field of that name. -/
def Lacks (fields : List (Text × Value)) (name : String) : Prop :=
  ∀ f ∈ fields, f.1 ≠ name.toList

/-- A field that may be left out holds a text, or nothing. -/
inductive Holds (fields : List (Text × Value)) (name : String) : Option Text → Prop
  | absent (habsent : Lacks fields name) : Holds fields name none
  | null (hnull : Gives fields name .null) : Holds fields name none
  | text {s : Text} (htext : Gives fields name (.text s)) : Holds fields name (some s)

/-- The handler that a value describes. -/
inductive DescribesHandler : Value → HandlerSpec → Prop
  | record {fields : List (Text × Value)} {h : HandlerSpec}
      (haction : Gives fields "action" h.action)
      (hmask : Gives fields h.kind.field (.text h.mask))
      (hother : Lacks fields h.kind.other.field) (hmethod : Holds fields "method" h.method) :
      DescribesHandler (.record fields) h

/-- The configuration that a value describes, its handlers in order. -/
inductive Describes : Value → Config → Prop
  | record {fields : List (Text × Value)} {c : Config} {items : List Value}
      (hitems : Gives fields "handlers" (.list items))
      (hhandlers : List.Forall₂ DescribesHandler items c.handlers)
      (hbase : Holds fields "base_url" c.base)
      (hfallback : Gives fields "on_no_match" c.fallback ∨
        Lacks fields "on_no_match" ∧ c.fallback = .null) :
      Describes (.record fields) c

variable {fields : List (Text × Value)} {name : String} {d v : Value} {h : HandlerSpec}
  {c : Config}

theorem field?_eq_some_iff : field? name fields = some v ↔ Gives fields name v := by
  rw [field?, Value.field?, List.lookup_eq_some_iff]
  constructor
  · rintro ⟨after, before, hfields, hafter⟩
    refine ⟨before.reverse, after.reverse, ?_, ?_⟩
    · rw [← List.reverse_reverse fields, hfields]
      simp
    · intro f hf
      exact (bne_iff_ne.mp (hafter f (List.mem_reverse.mp hf))).symm
  · rintro ⟨before, after, rfl, hafter⟩
    refine ⟨after.reverse, before.reverse, by simp, ?_⟩
    intro f hf
    exact bne_iff_ne.mpr (hafter f (List.mem_reverse.mp hf)).symm

theorem field?_eq_none_iff : field? name fields = none ↔ Lacks fields name := by
  rw [field?, Value.field?, List.lookup_eq_none_iff]
  constructor
  · intro h f hf
    exact (bne_iff_ne.mp (h f (List.mem_reverse.mpr hf))).symm
  · intro h f hf
    exact bne_iff_ne.mpr (h f (List.mem_reverse.mp hf)).symm

theorem optionalText_eq_ok_iff {fail : String → ConfigError} {o : Option Text} :
    optionalText name fields fail = .ok o ↔ Holds fields name o := by
  constructor
  · intro h
    unfold optionalText at h
    split at h
    · next hfield =>
        cases h
        exact .absent (field?_eq_none_iff.mp hfield)
    · next hfield =>
        cases h
        exact .null (field?_eq_some_iff.mp hfield)
    · next hfield =>
        cases h
        exact .text (field?_eq_some_iff.mp hfield)
    · cases h
  · intro h
    unfold optionalText
    cases h with
    | absent h => rw [field?_eq_none_iff.mpr h]
    | null h => rw [field?_eq_some_iff.mpr h]
    | text h => rw [field?_eq_some_iff.mpr h]

theorem maskField_eq_ok_iff {kind : MaskKind} :
    maskField fields = .ok (kind, v) ↔ Gives fields kind.field v ∧ Lacks fields kind.other.field := by
  rw [← field?_eq_some_iff, ← field?_eq_none_iff, maskField]
  cases kind <;> dsimp only [MaskKind.field, MaskKind.other] <;>
    cases field? "path" fields <;> cases field? "regex" fields <;> simp

theorem parseHandler_eq_ok_iff : parseHandler v = .ok h ↔ DescribesHandler v h := by
  constructor
  · intro hparse
    unfold parseHandler at hparse
    split at hparse
    · split at hparse
      · cases hparse
      · next action haction =>
          obtain ⟨⟨kind, value⟩, hmask, hparse⟩ := exists_of_bind_eq_ok hparse
          split at hparse
          · next heq =>
              cases heq
              obtain ⟨method, hmethod, hparse⟩ := exists_of_bind_eq_ok hparse
              cases hparse
              obtain ⟨hmask, hother⟩ := maskField_eq_ok_iff.mp hmask
              exact .record (field?_eq_some_iff.mp haction) hmask hother
                (optionalText_eq_ok_iff.mp hmethod)
          · cases hparse
    · cases hparse
  · rintro ⟨haction, hmask, hother, hmethod⟩
    simp only [parseHandler, field?_eq_some_iff.mpr haction,
      maskField_eq_ok_iff.mpr ⟨hmask, hother⟩, optionalText_eq_ok_iff.mpr hmethod, bind, Except.bind]

theorem mapM_parseHandler_eq_ok_iff {items : List Value} {handlers : List HandlerSpec} :
    items.mapM parseHandler = .ok handlers ↔ List.Forall₂ DescribesHandler items handlers := by
  constructor
  · intro hparse
    induction items generalizing handlers with
    | nil =>
        cases hparse
        exact .nil
    | cons v items ih =>
        obtain ⟨h, rest, hv, hrest, rfl⟩ := mapM_cons_eq_ok hparse
        exact .cons (parseHandler_eq_ok_iff.mp hv) (ih hrest)
  · intro hdescribes
    induction hdescribes with
    | nil => rfl
    | cons hv _ ih =>
        rw [List.mapM_cons, parseHandler_eq_ok_iff.mpr hv, ih]
        rfl

theorem getD_null_eq_iff {fallback : Value} :
    (field? name fields).getD .null = fallback ↔
      Gives fields name fallback ∨ Lacks fields name ∧ fallback = .null := by
  rw [← field?_eq_some_iff, ← field?_eq_none_iff]
  cases field? name fields with
  | none => simp [eq_comm]
  | some v => simp

theorem parse_eq_ok_iff : parse d = .ok c ↔ Describes d c := by
  constructor
  · intro hparse
    unfold parse at hparse
    split at hparse
    · split at hparse
      · cases hparse
      · cases hparse
      · next items hitems =>
          obtain ⟨base, hbase, hparse⟩ := exists_of_bind_eq_ok hparse
          obtain ⟨handlers, hhandlers, hparse⟩ := exists_of_bind_eq_ok hparse
          cases hparse
          exact .record (field?_eq_some_iff.mp hitems) (mapM_parseHandler_eq_ok_iff.mp hhandlers)
            (optionalText_eq_ok_iff.mp hbase) (getD_null_eq_iff.mp rfl)
      · cases hparse
    · cases hparse
  · rintro ⟨hitems, hhandlers, hbase, hfallback⟩
    simp only [parse, field?_eq_some_iff.mpr hitems, optionalText_eq_ok_iff.mpr hbase,
      mapM_parseHandler_eq_ok_iff.mpr hhandlers, getD_null_eq_iff.mpr hfallback, bind, Except.bind]

/-! ### The shape -/

/-- A field that is left out, is null or holds a text. -/
def MayHold (fields : List (Text × Value)) (name : String) : Prop :=
  Lacks fields name ∨ Gives fields name .null ∨ ∃ s, Gives fields name (.text s)

/-- The shape of a handler. -/
inductive HandlerHasShape : Value → Prop
  | record {fields : List (Text × Value)} (haction : ∃ action, Gives fields "action" action)
      (hmask : (∃ s, Gives fields "path" (.text s)) ∧ Lacks fields "regex" ∨
        (∃ s, Gives fields "regex" (.text s)) ∧ Lacks fields "path")
      (hmethod : MayHold fields "method") : HandlerHasShape (.record fields)

/-- The shape of a configuration. -/
inductive HasShape : Value → Prop
  | record {fields : List (Text × Value)} {items : List Value}
      (hitems : Gives fields "handlers" (.list items)) (hhandlers : ∀ v ∈ items, HandlerHasShape v)
      (hbase : MayHold fields "base_url") : HasShape (.record fields)

theorem exists_holds_iff : (∃ o, Holds fields name o) ↔ MayHold fields name := by
  constructor
  · rintro ⟨o, habsent | hnull | htext⟩
    · exact .inl habsent
    · exact .inr (.inl hnull)
    · exact .inr (.inr ⟨_, htext⟩)
  · rintro (habsent | hnull | ⟨s, htext⟩)
    · exact ⟨none, .absent habsent⟩
    · exact ⟨none, .null hnull⟩
    · exact ⟨some s, .text htext⟩

theorem exists_describesHandler_iff : (∃ h, DescribesHandler v h) ↔ HandlerHasShape v := by
  constructor
  · rintro ⟨h, haction, hmask, hother, hmethod⟩
    refine .record ⟨_, haction⟩ ?_ (exists_holds_iff.mp ⟨_, hmethod⟩)
    cases hkind : h.kind with
    | path =>
        rw [hkind] at hmask hother
        exact .inl ⟨⟨_, hmask⟩, hother⟩
    | regex =>
        rw [hkind] at hmask hother
        exact .inr ⟨⟨_, hmask⟩, hother⟩
  · rintro ⟨⟨action, haction⟩, hmask, hmethod⟩
    obtain ⟨method, hmethod⟩ := exists_holds_iff.mpr hmethod
    rcases hmask with ⟨⟨s, hpath⟩, hregex⟩ | ⟨⟨s, hregex⟩, hpath⟩
    · exact ⟨⟨.path, s, action, method⟩, .record haction hpath hregex hmethod⟩
    · exact ⟨⟨.regex, s, action, method⟩, .record haction hregex hpath hmethod⟩

theorem exists_describes_iff : (∃ c, Describes d c) ↔ HasShape d := by
  constructor
  · rintro ⟨c, hitems, hhandlers, hbase, -⟩
    refine .record hitems (fun v hv => ?_) (exists_holds_iff.mp ⟨_, hbase⟩)
    obtain ⟨i, hi, rfl⟩ := List.mem_iff_getElem.mp hv
    exact exists_describesHandler_iff.mp
      ⟨_, hhandlers.get hi (hhandlers.length_eq ▸ hi)⟩
  · rintro ⟨hitems, hhandlers, hbase⟩
    obtain ⟨base, hbase⟩ := exists_holds_iff.mpr hbase
    obtain ⟨handlers, hhandlers⟩ := exists_forall₂ fun v hv =>
      exists_describesHandler_iff.mpr (hhandlers v hv)
    exact ⟨⟨handlers, base, _⟩, .record hitems hhandlers hbase (getD_null_eq_iff.mp rfl)⟩

/-! ### Writing -/

theorem holds_writeText {o : Option Text} (h : field? name fields = some (writeText o)) :
    Holds fields name o := by
  cases o with
  | none => exact .null (field?_eq_some_iff.mp h)
  | some s => exact .text (field?_eq_some_iff.mp h)

theorem describesHandler_writeHandler (h : HandlerSpec) : DescribesHandler (writeHandler h) h := by
  have hmask : Gives [(h.kind.field.toList, .text h.mask), ("action".toList, h.action),
      ("method".toList, writeText h.method)] h.kind.field (.text h.mask) := by
    refine ⟨[], _, rfl, ?_⟩
    cases h.kind <;> simp [MaskKind.field]
  have hother : Lacks [(h.kind.field.toList, .text h.mask), ("action".toList, h.action),
      ("method".toList, writeText h.method)] h.kind.other.field := by
    cases h.kind <;> simp [Lacks, MaskKind.field, MaskKind.other]
  exact .record (field?_eq_some_iff.mp rfl) hmask hother (holds_writeText rfl)

theorem describes_write (c : Config) : Describes (write c) c := by
  refine .record (field?_eq_some_iff.mp rfl) ?_ (holds_writeText rfl)
    (.inl (field?_eq_some_iff.mp rfl))
  rw [List.forall₂_map_left_iff, List.forall₂_same]
  exact fun h _ => describesHandler_writeHandler h

/-! ### Fields of other names -/

/-- The fields of those names. -/
def keep (names : List String) (fields : List (Text × Value)) : List (Text × Value) :=
  fields.filter fun f => names.any (·.toList == f.1)

/-- A handler without fields that mean nothing there. -/
def plainHandler : Value → Value
  | .record fields => .record (keep ["path", "regex", "action", "method"] fields)
  | other => other

/-- A list of handlers without fields that mean nothing there. -/
def plainHandlers : Value → Value
  | .list items => .list (items.map plainHandler)
  | other => other

/-- The fields that mean something in a configuration, the handlers without those that do not. -/
def plainFields (fields : List (Text × Value)) : List (Text × Value) :=
  (keep ["handlers", "base_url", "on_no_match"] fields).map fun f =>
    (f.1, if f.1 = "handlers".toList then plainHandlers f.2 else f.2)

/-- A configuration without fields that mean nothing, in its handlers as well. -/
def plain : Value → Value
  | .record fields => .record (plainFields fields)
  | other => other

theorem field?_keep {names : List String} (hname : name ∈ names) :
    field? name (keep names fields) = field? name fields :=
  Value.field?_filter fun _ => List.any_eq_true.mpr ⟨name, hname, beq_self_eq_true _⟩

theorem field?_plainFields (hname : name ∈ ["handlers", "base_url", "on_no_match"]) :
    field? name (plainFields fields) = (field? name fields).map fun v =>
      if name.toList = "handlers".toList then plainHandlers v else v :=
  (Value.field?_map _ fun key v => if key = "handlers".toList then plainHandlers v else v).trans
    (congrArg _ (field?_keep hname))

theorem parseHandler_plainHandler (v : Value) : parseHandler (plainHandler v) = parseHandler v := by
  cases v with
  | record fields =>
      simp only [plainHandler, parseHandler, maskField, optionalText, field?_keep, List.mem_cons,
        true_or, or_true]
  | _ => rfl

theorem mapM_parseHandler_plainHandler (items : List Value) :
    (items.map plainHandler).mapM parseHandler = items.mapM parseHandler := by
  induction items with
  | nil => rfl
  | cons v items ih => rw [List.map_cons, List.mapM_cons, List.mapM_cons, ih, parseHandler_plainHandler]

theorem parse_plain (d : Value) : parse (plain d) = parse d := by
  cases d with
  | record fields =>
      have hitems : field? "handlers" (plainFields fields) =
          (field? "handlers" fields).map plainHandlers := by
        simp [field?_plainFields]
      have hbase : field? "base_url" (plainFields fields) = field? "base_url" fields := by
        simp [field?_plainFields]
      have hfallback : field? "on_no_match" (plainFields fields) = field? "on_no_match" fields := by
        simp [field?_plainFields]
      simp only [plain, parse, optionalText, hitems, hbase, hfallback]
      cases field? "handlers" fields with
      | none => rfl
      | some v =>
          cases v with
          | list items => simp only [Option.map_some, plainHandlers, mapM_parseHandler_plainHandler]
          | _ => rfl
  | _ => rfl

/-- Reading accepts what has the shape of a configuration and refuses everything else.  It gives the
configuration that is described, which can be written and read again, and does not see other fields. -/
theorem parse_shape (d : Value) :
    ((∃ c, parse d = .ok c) ↔ HasShape d) ∧
    ((∃ e, parse d = .error e) ↔ ¬HasShape d) ∧
    (∀ c, parse d = .ok c ↔ Describes d c) ∧
    (∀ c, parse (write c) = .ok c) ∧
    parse (plain d) = parse d := by
  have haccepts : (∃ c, parse d = .ok c) ↔ HasShape d := by
    simp only [parse_eq_ok_iff, exists_describes_iff]
  refine ⟨haccepts, ?_, fun _ => parse_eq_ok_iff, fun c => parse_eq_ok_iff.mpr (describes_write c),
    parse_plain d⟩
  rw [← haccepts]
  cases parse d with
  | ok c => simp
  | error e => simp

/-- The last path counts, and a null regular expression beside it is one mask too many. -/
example :
    let handler := [("path".toList, .null), ("path".toList, .text "/x".toList),
      ("action".toList, .null), ("note".toList, Value.int 1)]
    parse (.record [("handlers".toList, .list [.record handler]), ("base_url".toList, .null)]) =
        .ok ⟨[⟨.path, "/x".toList, .null, none⟩], none, .null⟩ ∧
      parse (.record [("handlers".toList, .list [.record (("regex".toList, .null) :: handler)])]) =
        .error .twoMasks :=
  ⟨rfl, rfl⟩

end Config

end RouteMask
