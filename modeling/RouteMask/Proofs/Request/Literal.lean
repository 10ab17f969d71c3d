import RouteMask.Proofs.Request.Origin

/-! # Literal masks

A canonical URL whose path holds no mark of a template, used as a mask for itself.  The colon behind
its scheme is escaped only if its path is one for the recognition of structure: a slash alone, or
segments without blanks, none of them empty.  Then the URL matches (`Mask.outcome_of_isPath`);
otherwise the colon is taken for the beginning of a parameter, and the mask is refused
(`Mask.outcome_of_not_isPath`). -/

namespace RouteMask

namespace Item

/-- Plain characters are scanned. -/
theorem exists_scans {s : Text} (h : ∀ c ∈ s, c ∉ marks) (rest : Text) :
    ∃ ls, Lexeme.Scans s ls rest := by
  induction s with
  | nil => exact ⟨_, .nil rest⟩
  | cons c s ih =>
      obtain ⟨ls, hs⟩ := ih fun d hd => h d (List.mem_cons_of_mem c hd)
      have hchar : Lexeme.Scans [c] (fun index => [⟨.char, index, [c]⟩]) (s ++ rest) :=
        .one (s := []) fun index => next_char (not_mem_openers (h c List.mem_cons_self)) index _
      exact ⟨_, hchar.append hs⟩

/-- A colon that no name follows ends the scanning, wherever it stands behind plain characters. -/
theorem scan_missingName {s : Text} (h : ∀ c ∈ s, c ∉ marks) (more : Text) :
    Lexeme.scan (s ++ ':' :: '/' :: more) = .error (.missingName s.length) := by
  obtain ⟨ls, hs⟩ := exists_scans h (':' :: '/' :: more)
  obtain ⟨fuel, hfuel, hscan⟩ := hs _ 0 (Nat.le_refl _)
  rw [List.length_cons] at hfuel
  obtain ⟨fuel, rfl⟩ : ∃ n, fuel = n + 1 := ⟨fuel - 1, by omega⟩
  rw [Lexeme.scan, hscan, Nat.zero_add]
  rfl

end Item

namespace Origin

/-- A path that is kept as it is holds no mark of a query or a fragment. -/
theorem ne_of_mem_barePath {path : Text} {c : Char} (h : c ∈ Url.barePath path) : c ≠ '?' ∧ c ≠ '#' := by
  have htake : ∀ {p : Char → Bool} {s : Text}, c ∈ s.takeWhile p → p c = true ∧ c ∈ s := by
    intro p s hc
    exact ⟨List.all_eq_true.mp (List.all_takeWhile) c hc, (List.takeWhile_prefix p).subset hc⟩
  obtain ⟨hquery, hrest⟩ := htake h
  obtain ⟨hfragment, -⟩ := htake hrest
  exact ⟨bne_iff_ne.mp hquery, bne_iff_ne.mp hfragment⟩

end Origin

namespace Mask

variable {o : Origin} {path : Text}

/-- A URL whose path is one for the recognition of structure is matched by itself. -/
theorem outcome_of_isPath (hlen : o.port.length ≤ 5) (hkept : ∀ c ∈ path, c ≠ '?' ∧ c ≠ '#')
    (hmarks : ∀ c ∈ path, c ∉ Item.marks) (hstructure : Skeleton.isPath path = true)
    (hcanonical : Url.canonical (o.text ++ path) = .ok (o.text ++ path)) (base : Option Text) :
    Mask.outcome base (.text (o.text ++ path)) (o.text ++ path) = .ok ⟨true, []⟩ := by
  have hnone : ∀ c ∈ path, c ≠ '?' ∧ c ≠ '#' ∧ c ≠ '*' := by
    intro c hc
    refine ⟨(hkept c hc).1, (hkept c hc).2, ?_⟩
    rintro rfl
    exact hmarks _ hc (by decide)
  exact outcome_of_prepare (prepare_of_isPath hlen hnone hstructure base) hmarks hcanonical

/-- Otherwise the colon of its scheme begins a parameter without a name. -/
theorem outcome_of_not_isPath (hlen : o.port.length ≤ 5) (hkept : ∀ c ∈ path, c ≠ '?' ∧ c ≠ '#')
    (hmarks : ∀ c ∈ path, c ∉ Item.marks) (hpath : path.head? = some '/')
    (hstructure : Skeleton.isPath path = false) (url : Text) (base : Option Text) :
    Mask.outcome base (.text (o.text ++ path)) url =
      .error (.compile ⟨o.text ++ path, .template (.scan (.missingName o.scheme.length))⟩) := by
  have hstar : '*' ∉ path := fun h => hmarks _ h (by decide)
  have hcolon : ':' ∉ path := fun h => hmarks _ h (by decide)
  have hscheme : ∀ c ∈ o.scheme, c ∉ Item.marks := by
    intro c hc
    have := o.range_of_mem_scheme hc
    exact Site.not_mem_marks (Or.inr (by omega))
  have hscan : Lexeme.scan (o.text ++ path) = .error (.missingName o.scheme.length) := by
    have htext : o.text ++ path = o.scheme ++ ':' :: '/' :: ('/' :: (o.authority ++ path)) := by
      simp [Origin.text]
    rw [htext]
    exact Item.scan_missingName hscheme _
  have hprepare : (Mask.text (o.text ++ path)).prepare base = .ok (.text (o.text ++ path)) := by
    unfold prepare normalize
    dsimp only
    rw [MaskText.normalize_append hkept]
    dsimp only [Except.map]
    rw [MaskText.template_append hstar, Skeleton.escape_of_not_isPath hlen hpath hcolon hstructure]
  unfold outcome matcher
  rw [hprepare]
  dsimp only [Except.mapError, bind, Except.bind]
  unfold compile Matcher.ofTemplate Template.read
  dsimp only
  rw [hscan]
  rfl

/-- A canonical URL without marks of a template matches itself as a mask if its path is one for the
recognition of structure, and is refused as a mask if it is not. -/
theorem outcome_literal (o : Origin) {path : Text} (hpath : path.head? = some '/')
    (hmarks : ∀ c ∈ path, c ∉ Item.marks)
    (hcanonical : Url.canonical (o.text ++ path) = .ok (o.text ++ path)) (base : Option Text) :
    Mask.outcome base (.text (o.text ++ path)) (o.text ++ path) =
      if Skeleton.isPath path then .ok ⟨true, []⟩
      else .error (.compile ⟨o.text ++ path, .template (.scan (.missingName o.scheme.length))⟩) := by
  obtain ⟨hport, hbare⟩ := (o.canonical_eq_self_iff hpath).mp hcanonical
  have hlen := (Origin.isCanonical_iff.mpr hport).length_port_le
  have hkept : ∀ c ∈ path, c ≠ '?' ∧ c ≠ '#' := by
    intro c hc
    rw [← hbare] at hc
    exact Origin.ne_of_mem_barePath hc
  cases hstructure : Skeleton.isPath path with
  | true => exact outcome_of_isPath hlen hkept hmarks hstructure hcanonical base
  | false => exact outcome_of_not_isPath hlen hkept hmarks hpath hstructure _ base

/-- A slash at the end of a path with segments leaves the colon of the scheme alone. -/
theorem outcome_literal_trailing_slash :
    Mask.outcome none (.text "https://example.com/a/".toList) "https://example.com/a/".toList =
      .error (.compile ⟨"https://example.com/a/".toList, .template (.scan (.missingName 5))⟩) :=
  outcome_literal .exampleCom rfl (by decide) (by decide +kernel) none

end Mask

end RouteMask
