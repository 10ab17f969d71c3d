import Mathlib.Data.List.Forall2
import RouteMask.Proofs.Result
import RouteMask.Proofs.Table.History

/-! # The order of loading

Loading goes over the handlers three times.  First every handler is made by itself, which fails for the
first one whose mask is too long or is no regular expression; then the handlers are counted; at last the
masks are compiled into the cache, up to the first that cannot be compiled.  `Config.Loads` says which
fault is found and what the cache holds then, and loading does just that (`Config.loads_iff`). -/

namespace RouteMask

theorem exists_forall₂ {α β : Type} {R : α → β → Prop} {l : List α} (h : ∀ a ∈ l, ∃ b, R a b) :
    ∃ l', List.Forall₂ R l l' := by
  induction l with
  | nil => exact ⟨[], .nil⟩
  | cons a l ih =>
      obtain ⟨⟨b, hb⟩, hrest⟩ := List.forall_mem_cons.mp h
      obtain ⟨l', hl⟩ := ih hrest
      exact ⟨b :: l', .cons hb hl⟩

theorem forall_mem_or_exists_first {α : Type} (p : α → Prop) (l : List α) :
    (∀ a ∈ l, p a) ∨
      ∃ before a after, l = before ++ a :: after ∧ (∀ b ∈ before, p b) ∧ ¬p a := by
  classical
  cases hfind : l.find? fun a => !decide (p a) with
  | none => exact .inl (by simpa using hfind)
  | some a =>
      obtain ⟨ha, before, after, rfl, hbefore⟩ := List.find?_eq_some_iff_append.mp hfind
      exact .inr ⟨before, a, after, rfl, by simpa using hbefore, by simpa using ha⟩

/-! ### Handlers by themselves -/

/-- The mask is too long, or it is no regular expression where it should be one. -/
inductive HandlerSpec.IsFaulty (h : HandlerSpec) : LoadError → Prop
  | longPath (hkind : h.kind = .path) (hlength : maxPathLength < h.mask.length) :
      IsFaulty h (.tooLong h.mask.length maxPathLength)
  | longRegex (hkind : h.kind = .regex) (hlength : maxRegexLength < h.mask.length) :
      IsFaulty h (.tooLong h.mask.length maxRegexLength)
  | malformed (hkind : h.kind = .regex) (hlength : h.mask.length ≤ maxRegexLength)
      {e : Regex.SyntaxError} (hmask : Pattern.compile h.mask = .error e) :
      IsFaulty h (.mask (.compile ⟨h.mask, .regex e⟩))

/-- Nothing is wrong with the handler by itself. -/
def HandlerSpec.IsFaultless (h : HandlerSpec) : Prop :=
  ∀ e, ¬h.IsFaulty e

theorem HandlerSpec.isFaultless_of_path {h : HandlerSpec} (hkind : h.kind = .path)
    (hlength : h.mask.length ≤ maxPathLength) : h.IsFaultless := by
  intro e he
  cases he with
  | longPath _ hlong => exact absurd hlength (Nat.not_le.mpr hlong)
  | longRegex hkind' _ => cases hkind.symm.trans hkind'
  | malformed hkind' _ _ => cases hkind.symm.trans hkind'

namespace RegexMask

theorem compile_of_error {source : Text} {serial : Nat} {e : Regex.SyntaxError}
    (h : Pattern.compile source = .error e) : compile source serial = .error e := by
  unfold compile
  split
  · next p hp => cases h.symm.trans hp
  · next e' he' => exact congrArg _ (Except.error.inj (he'.symm.trans h))

theorem compile_of_ok {source : Text} {serial : Nat} {p : Pattern}
    (h : Pattern.compile source = .ok p) : compile source serial = .ok ⟨source, serial, p, h⟩ := by
  unfold compile
  split
  · next q hq =>
      obtain rfl : q = p := Except.ok.inj (hq.symm.trans h)
      rfl
  · next e he => cases h.symm.trans he

end RegexMask

namespace Config

variable {base : Option Text} {serial : Nat → Nat} {h : HandlerSpec} {place : Nat}
  {specs : List HandlerSpec} {handlers : List (Handler Value)}

/-- The handler that a specification describes at its place. -/
inductive IsMade (base : Option Text) (serial : Nat → Nat) : HandlerSpec × Nat → Handler Value → Prop
  | path {h : HandlerSpec} {place : Nat} (hkind : h.kind = .path) :
      IsMade base serial (h, place) ⟨.text h.mask, h.action, methodRule h.method, base⟩
  | regex {h : HandlerSpec} {place : Nat} (hkind : h.kind = .regex) {p : Pattern}
      (hmask : Pattern.compile h.mask = .ok p) :
      IsMade base serial (h, place)
        ⟨.regex ⟨h.mask, serial place, p, hmask⟩, h.action, methodRule h.method, none⟩

theorem buildHandler_of_isFaulty {e : LoadError} (he : h.IsFaulty e) (base : Option Text)
    (serial : Nat) : buildHandler base serial h = .error e := by
  cases he with
  | longPath hkind hlength => simp only [buildHandler, hkind, if_pos hlength]
  | longRegex hkind hlength => simp only [buildHandler, hkind, if_pos hlength]
  | malformed hkind hlength hmask =>
      simp only [buildHandler, hkind, if_neg (Nat.not_lt.mpr hlength), RegexMask.compile_of_error hmask]

theorem buildHandler_of_isMade {handler : Handler Value} (hfaultless : h.IsFaultless)
    (hmade : IsMade base serial (h, place) handler) :
    buildHandler base (serial place) h = .ok handler := by
  cases hmade with
  | path hkind =>
      have hlength := fun hlong => hfaultless _ (.longPath hkind hlong)
      simp only [buildHandler, hkind, if_neg hlength]
  | regex hkind hmask =>
      have hlength := fun hlong => hfaultless _ (.longRegex hkind hlong)
      simp only [buildHandler, hkind, if_neg hlength, RegexMask.compile_of_ok hmask]

theorem exists_isMade_of_isFaultless (hfaultless : h.IsFaultless) (base : Option Text)
    (serial : Nat → Nat) (place : Nat) : ∃ handler, IsMade base serial (h, place) handler := by
  cases hkind : h.kind with
  | path => exact ⟨_, .path hkind⟩
  | regex =>
      have hlength := Nat.not_lt.mp fun hlong => hfaultless _ (.longRegex hkind hlong)
      cases hmask : Pattern.compile h.mask with
      | ok p => exact ⟨_, .regex hkind hmask⟩
      | error e => exact absurd (.malformed hkind hlength hmask) (hfaultless _)

theorem exists_isMade (hfaultless : ∀ h ∈ specs, h.IsFaultless) (base : Option Text)
    (serial : Nat → Nat) : ∃ handlers, List.Forall₂ (IsMade base serial) specs.zipIdx handlers :=
  exists_forall₂ fun _ hmem =>
    exists_isMade_of_isFaultless (hfaultless _ (List.fst_mem_of_mem_zipIdx hmem)) base serial _

/-- The handlers in front are made first. -/
theorem build_append (hfaultless : ∀ h ∈ specs, h.IsFaultless)
    (hmade : List.Forall₂ (IsMade base serial) (specs.zipIdx place) handlers)
    (rest : List HandlerSpec) :
    build base serial place (specs ++ rest) =
      (handlers ++ (build base serial (place + specs.length) rest).1,
        (build base serial (place + specs.length) rest).2) := by
  induction specs generalizing place handlers with
  | nil =>
      cases hmade
      rfl
  | cons h specs ih =>
      cases hmade with
      | cons hmade hmades =>
          obtain ⟨hfaultless, hrest⟩ := List.forall_mem_cons.mp hfaultless
          have hlength : place + (h :: specs).length = place + 1 + specs.length := by
            rw [List.length_cons]
            omega
          simp only [List.cons_append, build, buildHandler_of_isMade hfaultless hmade,
            ih hrest hmades, hlength]

end Config

/-! ### Asking a cache for masks -/

/-- What cannot be compiled does not depend on how captured texts are decoded. -/
theorem Mask.compile_eq_map (decode : Text → Text) (m : Mask) :
    m.compile decode = (m.compile Percent.decode).map fun matcher => { matcher with decode } := by
  cases m with
  | regex r => rfl
  | text template =>
      change Matcher.ofTemplate decode template = (Matcher.ofTemplate Percent.decode template).map _
      unfold Matcher.ofTemplate
      cases (Template.read Template.usualLeads Template.usualDelimiter template) with
      | error e => rfl
      | ok parts =>
          dsimp only [Except.mapError, bind, Except.bind]
          cases Template.source? .default parts with
          | error e => rfl
          | ok source =>
              dsimp only
              cases Pattern.compile source with
              | error e => rfl
              | ok pattern => rfl

theorem Mask.matcherBy_of_ok {base : Option Text} {m : Mask} {matcher : Matcher}
    (h : m.matcher base = .ok matcher) (decode : Text → Text) :
    m.matcherBy decode base = .ok { matcher with decode } := by
  obtain ⟨prepared, hprepare, h⟩ := exists_of_bind_eq_ok h
  unfold matcherBy
  rw [hprepare]
  dsimp only [bind, Except.bind]
  rw [compile_eq_map, eq_ok_of_mapError h]
  rfl

theorem Cache.IsSound.get_of_error {κ ν ε : Type} [DecidableEq κ] {compute : κ → Except ε ν}
    {c : Cache κ ν} (hc : c.IsSound compute) {k : κ} {e : ε} (he : compute k = .error e) :
    c.get compute k = (.error e, c) := by
  cases hfind : c.find? k with
  | some stored => cases (hc.computed _ (mem_of_find? hfind)).symm.trans he
  | none => simp only [Cache.get, hfind, he]

namespace MatcherCache

/-- The cache as it is left by asking for prepared masks, one after another. -/
def getAll (c : MatcherCache) (masks : List Mask) : MatcherCache :=
  masks.foldl (fun c m => (c.get m).2) c

namespace IsSound

variable {decode : Text → Text} {c : MatcherCache} {base : Option Text} {m prepared : Mask}

theorem getAll (hc : c.IsSound decode) (masks : List Mask) : (c.getAll masks).IsSound decode := by
  induction masks generalizing c with
  | nil => exact hc
  | cons m masks ih => exact ih (hc.get m)

theorem get_of_error (hc : c.IsSound decode) {e : CompileError}
    (he : m.compile Percent.decode = .error e) : c.get m = (.error e, c) := by
  obtain ⟨rfl, hmemo⟩ := hc
  have hcompile : m.compile c.decode = .error e := by rw [Mask.compile_eq_map, he]; rfl
  simp only [MatcherCache.get, hmemo.get_of_error hcompile]

/-- A mask that cannot be compiled leaves the cache alone. -/
theorem matcher_of_error (hc : c.IsSound decode) {e : MatchError} (he : m.matcher base = .error e) :
    c.matcher base m = (.error e, c) := by
  unfold MatcherCache.matcher
  rcases eq_error_of_bind_eq_error he with he | ⟨prepared, hprepare, he⟩
  · obtain ⟨cause, hcause, rfl⟩ := exists_of_mapError_eq_error he
    rw [hcause]
  · obtain ⟨cause, hcause, rfl⟩ := exists_of_mapError_eq_error he
    simp only [eq_ok_of_mapError hprepare, hc.get_of_error hcause]
    rfl

/-- A mask that can be compiled is looked up in the form that it is prepared to. -/
theorem exists_matcher_of_ok (hc : c.IsSound decode) {matcher : Matcher}
    (hprepare : m.prepare base = .ok prepared) (hm : m.matcher base = .ok matcher) :
    ∃ found, c.matcher base m = (.ok found, (c.get prepared).2) := by
  have hcompile : prepared.compile Percent.decode = .ok matcher := by
    obtain ⟨other, hother, hcompile⟩ := exists_of_bind_eq_ok hm
    obtain rfl := Except.ok.inj ((eq_ok_of_mapError hother).symm.trans hprepare)
    exact eq_ok_of_mapError hcompile
  have hvalue := hc.map_get prepared
  rw [Mask.compile_eq_map, hcompile] at hvalue
  simp only [MatcherCache.matcher, hprepare]
  cases hfound : (c.get prepared).1 with
  | error e =>
      rw [hfound] at hvalue
      cases hvalue
  | ok found => exact ⟨found, rfl⟩

end IsSound

end MatcherCache

/-- The handler's mask can be compiled, from the form that it is prepared to. -/
def Handler.IsReady {α : Type} (h : Handler α) (prepared : Mask) : Prop :=
  (∃ matcher, h.matcher = .ok matcher) ∧ h.mask.prepare h.base = .ok prepared

theorem Handler.exists_isReady {α : Type} {handlers : List (Handler α)}
    (h : ∀ h ∈ handlers, ∃ matcher, h.matcher = .ok matcher) :
    ∃ masks, List.Forall₂ IsReady handlers masks := by
  refine exists_forall₂ fun handler hmem => ?_
  obtain ⟨matcher, hmatcher⟩ := h handler hmem
  obtain ⟨prepared, hprepare, -⟩ := exists_of_bind_eq_ok hmatcher
  exact ⟨prepared, ⟨matcher, hmatcher⟩, eq_ok_of_mapError hprepare⟩

theorem Handler.exists_matcher_of_isReady {α : Type} {handlers : List (Handler α)} {masks : List Mask}
    (h : List.Forall₂ IsReady handlers masks) : ∀ h ∈ handlers, ∃ matcher, h.matcher = .ok matcher :=
  ((List.forall₂_and_left handlers masks).mp h).1

namespace Config

variable {decode : Text → Text} {c : MatcherCache} {handlers : List (Handler Value)}
  {masks : List Mask}

/-- The masks in front are compiled first. -/
theorem compileAll_append (hc : c.IsSound decode)
    (hready : List.Forall₂ Handler.IsReady handlers masks) (rest : List (Handler Value)) :
    compileAll (handlers ++ rest) c = compileAll rest (c.getAll masks) := by
  induction hready generalizing c with
  | nil => rfl
  | @cons h m handlers masks hh _ ih =>
      obtain ⟨⟨matcher, hmatcher⟩, hprepare⟩ := hh
      obtain ⟨found, hfound⟩ := hc.exists_matcher_of_ok hprepare hmatcher
      simp only [List.cons_append, compileAll, hfound]
      exact ih (hc.get m)

/-! ### Loading -/

/-- How loading a configuration ends, and with which cache. -/
inductive Loads (config : Config) (serial : Nat → Nat) (c : MatcherCache) :
    Except LoadError (Table Value) × MatcherCache → Prop
  /-- The first handler with a fault is found, whatever comes behind it. -/
  | faulty {before after : List HandlerSpec} {h : HandlerSpec} {e : LoadError}
      (hhandlers : config.handlers = before ++ h :: after) (hbefore : ∀ h ∈ before, h.IsFaultless)
      (he : h.IsFaulty e) : Loads config serial c (.error e, c)
  | tooMany (hfaultless : ∀ h ∈ config.handlers, h.IsFaultless)
      (hcount : maxHandlers < config.handlers.length) :
      Loads config serial c (.error (.tooMany ⟨config.handlers.length⟩), c)
  /-- The masks in front of the first that cannot be compiled are in the cache. -/
  | stuck (hfaultless : ∀ h ∈ config.handlers, h.IsFaultless)
      (hcount : config.handlers.length ≤ maxHandlers) {before after : List (Handler Value)}
      {h : Handler Value}
      (hmade : List.Forall₂ (IsMade config.base serial) config.handlers.zipIdx (before ++ h :: after))
      {masks : List Mask} (hready : List.Forall₂ Handler.IsReady before masks)
      {e : MatchError} (he : h.matcher = .error e) :
      Loads config serial c (.error (.mask e), c.getAll masks)
  | loaded (hfaultless : ∀ h ∈ config.handlers, h.IsFaultless)
      (hcount : config.handlers.length ≤ maxHandlers) {handlers : List (Handler Value)}
      (hmade : List.Forall₂ (IsMade config.base serial) config.handlers.zipIdx handlers)
      {masks : List Mask} (hready : List.Forall₂ Handler.IsReady handlers masks) :
      Loads config serial c (.ok ⟨handlers, fallback? config.fallback⟩, c.getAll masks)

variable {config : Config} {serial : Nat → Nat}

theorem load_of_isMade (hfaultless : ∀ h ∈ config.handlers, h.IsFaultless)
    (hmade : List.Forall₂ (IsMade config.base serial) config.handlers.zipIdx handlers)
    (c : MatcherCache) :
    config.load serial c =
      if maxHandlers < config.handlers.length then
        (.error (.tooMany ⟨config.handlers.length⟩), c)
      else
        ((compileAll handlers c).1.map fun _ => ⟨handlers, fallback? config.fallback⟩,
          (compileAll handlers c).2) := by
  have hbuild := build_append hfaultless hmade []
  rw [List.append_nil] at hbuild
  have hbuild : build config.base serial 0 config.handlers = (handlers, none) := by
    rw [hbuild]
    simp [build]
  have hlength : handlers.length = config.handlers.length := by
    rw [← hmade.length_eq, List.length_zipIdx]
  simp only [load, hbuild, Table.make, hlength]
  by_cases hcount : maxHandlers < config.handlers.length
  · simp only [if_pos hcount]
  · simp only [if_neg hcount]
    rcases compileAll handlers c with ⟨e | _, c'⟩
    · rfl
    · rfl

theorem Loads.load_eq (hc : c.IsSound decode) {result : Except LoadError (Table Value) × MatcherCache}
    (h : Loads config serial c result) : config.load serial c = result := by
  cases h with
  | faulty hhandlers hbefore he =>
      obtain ⟨handlers, hmade⟩ := exists_isMade hbefore config.base serial
      have hbuild := build_append hbefore hmade
      simp only [load, hhandlers, hbuild, build, buildHandler_of_isFaulty he]
  | tooMany hfaultless hcount =>
      obtain ⟨handlers, hmade⟩ := exists_isMade hfaultless config.base serial
      rw [load_of_isMade hfaultless hmade, if_pos hcount]
  | stuck hfaultless hcount hmade hready he =>
      rw [load_of_isMade hfaultless hmade, if_neg (Nat.not_lt.mpr hcount), compileAll_append hc hready,
        compileAll, (hc.getAll _).matcher_of_error he]
      rfl
  | loaded hfaultless hcount hmade hready =>
      have hall := compileAll_append hc hready []
      rw [List.append_nil] at hall
      rw [load_of_isMade hfaultless hmade, if_neg (Nat.not_lt.mpr hcount), hall]
      rfl

theorem exists_loads (config : Config) (serial : Nat → Nat) (c : MatcherCache) :
    ∃ result, Loads config serial c result := by
  rcases forall_mem_or_exists_first HandlerSpec.IsFaultless config.handlers with
    hfaultless | ⟨before, h, after, hhandlers, hbefore, hfaulty⟩
  · by_cases hcount : maxHandlers < config.handlers.length
    · exact ⟨_, .tooMany hfaultless hcount⟩
    rw [Nat.not_lt] at hcount
    obtain ⟨handlers, hmade⟩ := exists_isMade hfaultless config.base serial
    rcases forall_mem_or_exists_first (fun h => ∃ matcher, h.matcher = .ok matcher) handlers with
      hall | ⟨before, h, after, rfl, hbefore, hnot⟩
    · obtain ⟨masks, hready⟩ := Handler.exists_isReady hall
      exact ⟨_, .loaded hfaultless hcount hmade hready⟩
    · obtain ⟨masks, hready⟩ := Handler.exists_isReady hbefore
      cases he : h.matcher with
      | ok matcher => exact absurd ⟨matcher, he⟩ hnot
      | error e => exact ⟨_, .stuck hfaultless hcount hmade hready he⟩
  · rw [HandlerSpec.IsFaultless, not_forall_not] at hfaulty
    obtain ⟨e, he⟩ := hfaulty
    exact ⟨_, .faulty hhandlers hbefore he⟩

/-- Loading ends as it should, whatever the cache has been used for before. -/
theorem loads_iff {capacity : Int} {start : MatcherCache}
    (hstart : MatcherCache.make capacity decode = .ok start) (earlier : List CacheUse) (config : Config)
    (serial : Nat → Nat) (result : Except LoadError (Table Value) × MatcherCache) :
    Loads config serial (start.after earlier) result ↔
      config.load serial (start.after earlier) = result := by
  have hc := (MatcherCache.IsSound.make hstart).after earlier
  constructor
  · exact Loads.load_eq hc
  · rintro rfl
    obtain ⟨result, hresult⟩ := exists_loads config serial (start.after earlier)
    rw [hresult.load_eq hc]
    exact hresult

/-- A malformed regular expression is found before a malformed path in front of it.  Without it, the path
in front of the malformed one gets into the cache. -/
theorem loads_iff_malformed :
    let user : HandlerSpec := ⟨.path, "/user/:id".toList, .null, none⟩
    let path : HandlerSpec := ⟨.path, "/(".toList, .null, none⟩
    let regex : HandlerSpec := ⟨.regex, "(".toList, .null, none⟩
    ∃ start c, MatcherCache.make 1 Percent.decode = .ok start ∧
      c = start.after [.get (.text "/x".toList)] ∧ c.memo.keys = [.text "/x".toList] ∧
      load ⟨[user, path, regex], none, .null⟩ id c =
        (.error (.mask (.compile ⟨"(".toList, .regex ⟨.missingParen, "(".toList⟩⟩)), c) ∧
      load ⟨[user, path], none, .null⟩ id c =
        (.error (.mask (.compile ⟨"/(".toList, .template (.scan (.unbalanced 1))⟩)),
          c.getAll [.text "/user/:id".toList]) ∧
      (c.getAll [.text "/user/:id".toList]).memo.keys = [.text "/user/:id".toList] := by
  intro user path regex
  have hstart : MatcherCache.make 1 Percent.decode = .ok ⟨Percent.decode, .empty 1⟩ := rfl
  have hloads := loads_iff hstart [.get (.text "/x".toList)]
  have huser : user.IsFaultless := HandlerSpec.isFaultless_of_path rfl (by decide)
  have hpath : path.IsFaultless := HandlerSpec.isFaultless_of_path rfl (by decide)
  have hboth : ∀ h ∈ [user, path], h.IsFaultless := by simp [huser, hpath]
  refine ⟨_, _, hstart, rfl, by decide +kernel, ?_, ?_, by decide +kernel⟩
  · exact (hloads ⟨[user, path, regex], none, .null⟩ id _).mp
      (.faulty rfl hboth (.malformed rfl (by decide) rfl))
  · have hmade : List.Forall₂ (IsMade none id) [user, path].zipIdx
        ([⟨.text "/user/:id".toList, .null, .any, none⟩] ++
          ⟨.text "/(".toList, .null, .any, none⟩ :: []) :=
      .cons (.path rfl) (.cons (.path rfl) .nil)
    exact (hloads ⟨[user, path], none, .null⟩ id _).mp
      (.stuck hboth (by decide) hmade (.cons ⟨⟨_, rfl⟩, rfl⟩ .nil) rfl)

end Config

end RouteMask
