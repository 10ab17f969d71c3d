import RouteMask.Proofs.Config.Order
import RouteMask.Proofs.Url.Reference

/-! # Bases that cannot be read

When a mask cannot be compiled, that is mostly said of the mask.  The exception is a mask that has to be
resolved against a base: if the base cannot be read, the fault of the base is all that is said
(`Mask.matcher_eq_error_url_iff`).  Loading fails in this way exactly when it gets as far as such a mask
(`Config.IsRefused`, `Config.errors_after`). -/

namespace RouteMask

/-! ### Masks -/

/-- The only thing that can go wrong when a mask is resolved. -/
theorem MaskText.absolute_eq_error_iff {s : Text} {base : Option Text} {cause : UrlError} :
    absolute s base = .error cause ↔
      ∃ b, base = some b ∧ IsRelative s ∧ s ≠ [] ∧ Url.parse [] b = .error cause := by
  by_cases hrelative : IsRelative s
  · rcases base with _ | _ | ⟨c, base⟩
    · simp [absolute]
    · have hempty : Url.parse [] [] = .ok ⟨[], [], [], [], []⟩ := rfl
      simp [absolute, hempty]
    · rw [hrelative.absolute_eq (List.cons_ne_nil c base), map_eq_error_iff,
        Url.resolve_encode_eq_error_iff hrelative.1]
      simp [hrelative]
  · rw [absolute_of_not_isRelative hrelative]
    simp [hrelative]

namespace Mask

/-- The mask has to be resolved against a base that cannot be read. -/
def IsRefused (base : Option Text) (m : Mask) (cause : UrlError) : Prop :=
  ∃ s b, m = .text s ∧ base = some b ∧ MaskText.IsRelative s ∧ s ≠ [] ∧ Url.parse [] b = .error cause

variable {base : Option Text} {m : Mask} {cause : UrlError}

theorem prepare_eq_error_iff : m.prepare base = .error cause ↔ m.IsRefused base cause := by
  unfold prepare
  rw [map_eq_error_iff]
  cases m with
  | regex r => simp [normalize, IsRefused]
  | text s =>
      rw [normalize, map_eq_error_iff, MaskText.normalize, map_eq_error_iff,
        MaskText.absolute_eq_error_iff]
      simp [IsRefused]

theorem eq_of_matcher_eq_error {e : MatchError} (h : m.matcher base = .error e) :
    (∃ cause, e = .compile cause) ∨ ∃ cause, e = .url cause := by
  rcases eq_error_of_bind_eq_error h with h | ⟨prepared, -, h⟩
  · obtain ⟨cause, -, rfl⟩ := exists_of_mapError_eq_error h
    exact .inr ⟨cause, rfl⟩
  · obtain ⟨cause, -, rfl⟩ := exists_of_mapError_eq_error h
    exact .inl ⟨cause, rfl⟩

theorem matcher_eq_error_url_iff :
    m.matcher base = .error (.url cause) ↔ m.IsRefused base cause := by
  rw [← prepare_eq_error_iff]
  constructor
  · intro h
    rcases eq_error_of_bind_eq_error h with h | ⟨prepared, -, h⟩
    · obtain ⟨cause', hcause, heq⟩ := exists_of_mapError_eq_error h
      obtain rfl := MatchError.url.inj heq
      exact hcause
    · obtain ⟨cause', -, heq⟩ := exists_of_mapError_eq_error h
      cases heq
  · intro h
    unfold matcher
    rw [h]
    rfl

end Mask

theorem MatcherCache.IsSound.matcher_eq_error_iff {decode : Text → Text} {c : MatcherCache}
    (hc : c.IsSound decode) {base : Option Text} {m : Mask} {e : MatchError} :
    (c.matcher base m).1 = .error e ↔ m.matcher base = .error e := by
  cases hm : m.matcher base with
  | error e' => simp [hc.matcher_of_error hm]
  | ok matcher =>
      obtain ⟨prepared, hprepare, -⟩ := exists_of_bind_eq_ok hm
      obtain ⟨found, hfound⟩ := hc.exists_matcher_of_ok (eq_ok_of_mapError hprepare) hm
      rw [hfound]
      exact iff_of_false nofun nofun

/-! ### Loading -/

/-- Whether an error is about a mask or about the number of handlers. -/
def LoadError.IsMaskError : LoadError → Prop
  | .tooLong _ _ | .tooMany _ | .mask (.compile _) => True
  | .mask (.url _) | .mask (.encoding _) | .mask .noGroup => False

theorem HandlerSpec.IsFaulty.isMaskError {h : HandlerSpec} {e : LoadError} (he : h.IsFaulty e) :
    e.IsMaskError := by
  cases he with
  | longPath => trivial
  | longRegex => trivial
  | malformed => trivial

namespace Config

variable {decode : Text → Text} {c : MatcherCache} {config : Config} {serial : Nat → Nat}
  {cause : UrlError}

/-- Loading gets as far as a mask that has to be resolved against a base that cannot be read. -/
structure IsRefused (config : Config) (serial : Nat → Nat) (cause : UrlError) : Prop where
  isFaultless : ∀ h ∈ config.handlers, h.IsFaultless
  count_le : config.handlers.length ≤ maxHandlers
  exists_isRefused : ∃ before h after,
    List.Forall₂ (IsMade config.base serial) config.handlers.zipIdx (before ++ h :: after) ∧
      (∀ h ∈ before, ∃ matcher, h.matcher = .ok matcher) ∧ h.mask.IsRefused h.base cause

theorem isMaskError_or_isRefused_of_load (hc : c.IsSound decode) {e : LoadError}
    (he : (config.load serial c).1 = .error e) :
    e.IsMaskError ∨ ∃ cause, e = .mask (.url cause) ∧ config.IsRefused serial cause := by
  obtain ⟨⟨result, c'⟩, hloads⟩ := exists_loads config serial c
  rw [hloads.load_eq hc] at he
  obtain rfl : result = .error e := he
  cases hloads with
  | faulty _ _ he => exact .inl he.isMaskError
  | tooMany _ _ => exact .inl trivial
  | stuck hfaultless hcount hmade hready he =>
      rcases Mask.eq_of_matcher_eq_error he with ⟨cause, rfl⟩ | ⟨cause, rfl⟩
      · exact .inl trivial
      · exact .inr ⟨cause, rfl, hfaultless, hcount, _, _, _, hmade,
          Handler.exists_matcher_of_isReady hready, Mask.matcher_eq_error_url_iff.mp he⟩

theorem load_of_isRefused (hc : c.IsSound decode) (h : config.IsRefused serial cause) :
    (config.load serial c).1 = .error (.mask (.url cause)) := by
  obtain ⟨before, handler, after, hmade, hbefore, hrefused⟩ := h.exists_isRefused
  obtain ⟨masks, hready⟩ := Handler.exists_isReady hbefore
  have he := Mask.matcher_eq_error_url_iff.mpr hrefused
  rw [(Loads.stuck h.isFaultless h.count_le hmade hready he).load_eq hc]

theorem load_eq_error_url_iff (hc : c.IsSound decode) :
    (config.load serial c).1 = .error (.mask (.url cause)) ↔ config.IsRefused serial cause := by
  constructor
  · intro h
    rcases isMaskError_or_isRefused_of_load hc h with hmask | ⟨cause', heq, hrefused⟩
    · exact hmask.elim
    · cases heq
      exact hrefused
  · exact load_of_isRefused hc

/-- Compiling a mask and loading fail with errors about masks, and with the fault of a base that cannot be
read where a mask has to be resolved against it, whatever the cache has been used for before. -/
theorem errors_after {capacity : Int} {start : MatcherCache}
    (hstart : MatcherCache.make capacity decode = .ok start) (earlier : List CacheUse) :
    (∀ base m e, ((start.after earlier).matcher base m).1 = .error e ↔ m.matcher base = .error e) ∧
    (∀ base (m : Mask) e, m.matcher base = .error e →
      (∃ cause, e = .compile cause) ∨ ∃ cause, e = .url cause) ∧
    (∀ base (m : Mask) cause, m.matcher base = .error (.url cause) ↔ m.IsRefused base cause) ∧
    (∀ (config : Config) serial e, (config.load serial (start.after earlier)).1 = .error e →
      e.IsMaskError ∨ ∃ cause, e = .mask (.url cause)) ∧
    ∀ (config : Config) serial cause,
      (config.load serial (start.after earlier)).1 = .error (.mask (.url cause)) ↔
        config.IsRefused serial cause := by
  have hc := (MatcherCache.IsSound.make hstart).after earlier
  refine ⟨fun _ _ _ => hc.matcher_eq_error_iff, fun _ _ _ => Mask.eq_of_matcher_eq_error,
    fun _ _ _ => Mask.matcher_eq_error_url_iff, ?_, fun _ _ _ => load_eq_error_url_iff hc⟩
  intro config serial e he
  rcases isMaskError_or_isRefused_of_load hc he with hmask | ⟨cause, heq, -⟩
  · exact .inl hmask
  · exact .inr ⟨cause, heq⟩

/-- A mask that needs no base is compiled before the fault of the base is found. -/
theorem errors_after_brackets :
    let base := some "http://[".toList
    let config : Config :=
      ⟨[⟨.path, "*".toList, .null, none⟩, ⟨.path, "/x".toList, .null, none⟩], base, .null⟩
    ∃ start, MatcherCache.make 1 Percent.decode = .ok start ∧
      ((start.after [.get (.text "/y".toList)]).matcher base (.text "/x".toList)).1 =
        .error (.url .brackets) ∧
      (config.load id (start.after [.get (.text "/y".toList)])).1 = .error (.mask (.url .brackets)) ∧
      ¬(LoadError.mask (.url .brackets)).IsMaskError := by
  intro base config
  have hstart : MatcherCache.make 1 Percent.decode = .ok ⟨Percent.decode, .empty 1⟩ := rfl
  obtain ⟨hcached, -, hmask, -, hload⟩ := errors_after hstart [.get (.text "/y".toList)]
  have hrefused : (Mask.text "/x".toList).IsRefused base .brackets :=
    ⟨_, _, rfl, rfl, by decide, by decide, rfl⟩
  have hfaultless : ∀ h ∈ config.handlers, h.IsFaultless := by
    intro h hh
    simp only [config, List.mem_cons, List.not_mem_nil, or_false] at hh
    rcases hh with rfl | rfl
    · exact HandlerSpec.isFaultless_of_path rfl (by decide)
    · exact HandlerSpec.isFaultless_of_path rfl (by decide)
  have hmade : List.Forall₂ (IsMade base id) config.handlers.zipIdx
      ([⟨.text "*".toList, .null, .any, base⟩] ++ ⟨.text "/x".toList, .null, .any, base⟩ :: []) :=
    .cons (.path rfl) (.cons (.path rfl) .nil)
  refine ⟨_, hstart, (hcached _ _ _).mpr ((hmask _ _ _).mpr hrefused), (hload _ _ _).mpr ?_, id⟩
  exact ⟨hfaultless, by decide, _, _, _, hmade, List.forall_mem_singleton.mpr ⟨_, rfl⟩, hrefused⟩

end Config

end RouteMask
