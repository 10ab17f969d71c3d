import Mathlib.Data.List.TakeWhile
import RouteMask.Proofs.Text.Lower
import RouteMask.Proofs.Url.Canonical

/-! # Stability of the canonical form

A canonical form is read again: its scheme, its host and its port are found where they were written
(`Url.parse_canonical`, `Url.hostAndPort_authorityText`), and neither the case of the host nor the port
changes any more.  There are two ways in which this fails.  Brackets that stand in a host without colons,
or that were checked in front of the host, are not there or not in order the second time, and the second
reading is an error.  And where there is neither a host nor a port to be written, nothing stands between
the slashes, so that the second reading finds no authority and keeps the path alone.  The canonical form is
stable exactly if neither is the case (`Url.canonical_canonical_iff`). -/

namespace RouteMask.Url

/-! ### Hosts -/

/-- A host in lower case, except for its zone. -/
def lowerHost (host : Text) : Text :=
  Text.lower (host.takeWhile (· != '%')) ++ host.dropWhile (· != '%')

theorem host_eq_lowerHost (u : Url) : u.host = lowerHost (hostAndPort u.authority).1 :=
  rfl

/-- In lower case a host has no marks that it did not have before, and hides none. -/
theorem mem_of_mem_lowerHost {host : Text} {c : Char} (h : c ∈ lowerHost host)
    (hc : c.toNat < 0x61 ∨ Unicode.hidesDelimiter c = true) : c ∈ host := by
  rcases List.mem_append.mp h with h | h
  · exact (List.takeWhile_prefix _).subset (Text.mem_of_mem_lower h hc)
  · exact (List.dropWhile_suffix _).subset h

theorem lowerHost_lowerHost (host : Text) : lowerHost (lowerHost host) = lowerHost host := by
  have hpercent : '%' ∉ Text.lower (host.takeWhile (· != '%')) := by
    intro hc
    have hmem := Text.mem_of_mem_lower hc (Or.inl (by decide))
    exact absurd (List.all_eq_true.mp List.all_takeWhile _ hmem) (by decide)
  have hfront := Text.bne_of_not_mem hpercent
  have hzone : (host.dropWhile (· != '%')).takeWhile (· != '%') = [] ∧
      (host.dropWhile (· != '%')).dropWhile (· != '%') = host.dropWhile (· != '%') := by
    have hhead := List.head?_dropWhile_not (· != '%') host
    cases hrest : host.dropWhile (· != '%') with
    | nil => exact ⟨rfl, rfl⟩
    | cons c rest =>
        rw [hrest] at hhead
        have hc : ¬ (c != '%') = true := by simpa using hhead
        exact ⟨List.takeWhile_cons_of_neg hc, List.dropWhile_cons_of_neg hc⟩
  unfold lowerHost
  rw [List.takeWhile_append_of_pos hfront, List.dropWhile_append_of_pos hfront, hzone.1, hzone.2,
    List.append_nil, Text.lower_lower]

section Marks

variable {authority : Text}

theorem not_mem_withoutUser : '@' ∉ withoutUser authority := by
  intro h
  have h := List.mem_reverse.mp h
  exact absurd (List.all_eq_true.mp List.all_takeWhile _ h) (by decide)

theorem mem_of_mem_withoutUser {c : Char} (h : c ∈ withoutUser authority) : c ∈ authority :=
  List.mem_reverse.mp ((List.takeWhile_prefix _).subset (List.mem_reverse.mp h))

/-- The host is a text in brackets, without closing brackets, or a text without colons and without
opening brackets. -/
theorem host_cases (authority : Text) :
    (∀ c ∈ (hostAndPort authority).1, c ∈ withoutUser authority) ∧
      (']' ∉ (hostAndPort authority).1 ∨
        ':' ∉ (hostAndPort authority).1 ∧ '[' ∉ (hostAndPort authority).1) := by
  have hmark : ∀ (mark : Char) (s : Text), mark ∉ (splitMark mark s).1 := by
    intro mark s h
    rw [splitMark_fst] at h
    exact absurd (List.all_eq_true.mp List.all_takeWhile _ h) (by simp)
  have hfront : ∀ (mark : Char) (s : Text), ∀ c ∈ (splitMark mark s).1, c ∈ s := by
    intro mark s c h
    rw [splitMark_fst] at h
    exact (List.takeWhile_prefix _).subset h
  unfold hostAndPort
  dsimp only
  split
  · next inside hcut =>
      obtain ⟨c, htext, -⟩ := Text.cut?_eq_some hcut
      refine ⟨fun d hd => ?_, Or.inl (hmark _ _)⟩
      rw [htext]
      exact List.mem_append_right _ (List.mem_cons_of_mem c (hfront _ _ d hd))
  · next hcut =>
      refine ⟨hfront _ _, Or.inr ⟨hmark _ _, fun h => ?_⟩⟩
      exact absurd (Text.cut?_eq_none_iff.mp hcut _ (hfront _ _ _ h)) (by decide)

end Marks

/-- A mark in the host stands in the authority behind the user. -/
theorem mem_withoutUser_of_mem_host {u : Url} {c : Char} (h : c ∈ u.host)
    (hc : c.toNat < 0x61 ∨ Unicode.hidesDelimiter c = true) : c ∈ withoutUser u.authority :=
  (host_cases u.authority).1 c (mem_of_mem_lowerHost h hc)

theorem user_not_mem_host (u : Url) : '@' ∉ u.host :=
  fun h => not_mem_withoutUser (mem_withoutUser_of_mem_host h (Or.inl (by decide)))

theorem close_not_mem_host {u : Url} (h : ':' ∈ u.host ∨ '[' ∈ u.host) : ']' ∉ u.host := by
  intro hclose
  have hmem : ∀ {c : Char}, c.toNat < 0x61 → c ∈ u.host → c ∈ (hostAndPort u.authority).1 :=
    fun hc hmem => mem_of_mem_lowerHost hmem (Or.inl hc)
  rcases (host_cases u.authority).2 with hno | ⟨hcolon, hopen⟩
  · exact hno (hmem (by decide) hclose)
  · rcases h with h | h
    · exact hcolon (hmem (by decide) h)
    · exact hopen (hmem (by decide) h)

/-! ### The authority of a canonical form -/

/-- The host and the port as the canonical form has them. -/
def authorityText (u : Url) (port : Option Nat) : Text :=
  hostText u.host ++ portText u.scheme port

variable {s : Text} {u : Url} {port : Option Nat}

/-- What stands in the authority of a canonical form besides the host. -/
theorem mem_authorityText {c : Char} (h : c ∈ authorityText u port) :
    c ∈ u.host ∨ 0x30 ≤ c.toNat ∧ c.toNat ≤ 0x3A ∨ ':' ∈ u.host ∧ (c = '[' ∨ c = ']') := by
  rcases List.mem_append.mp h with h | h
  · unfold hostText at h
    split at h
    · next hcolon =>
        rw [List.contains_iff_mem] at hcolon
        simp only [List.cons_append, List.mem_cons, List.mem_append, List.not_mem_nil, or_false] at h
        rcases h with h | h | h
        · exact Or.inr (Or.inr ⟨hcolon, Or.inl h⟩)
        · exact Or.inl h
        · exact Or.inr (Or.inr ⟨hcolon, Or.inr h⟩)
    · exact Or.inl h
  · exact Or.inr (Or.inl (range_of_mem_portText h))

theorem isAuthority_authorityText (hu : parse [] s = .ok u) : IsAuthority (authorityText u port) := by
  have hmarks : ∀ d ∈ "\t\r\n/?#".toList, d.toNat < 0x61 ∧
      ¬ (0x30 ≤ d.toNat ∧ d.toNat ≤ 0x3A) ∧ d ≠ '[' ∧ d ≠ ']' := by decide
  intro c hc hmark
  obtain ⟨hlt, hrange, hopen, hclose⟩ := hmarks c hmark
  rcases mem_authorityText hc with h | h | ⟨-, h | h⟩
  · have hmem := mem_of_mem_withoutUser (mem_withoutUser_of_mem_host h (Or.inl hlt))
    exact isAuthority_of_parse hu c hmem hmark
  · exact hrange h
  · exact hopen h
  · exact hclose h

theorem checkHidden_authorityText (hu : parse [] s = .ok u) :
    checkHidden (authorityText u port) = .ok () := by
  have hfirst := (checkAuthority_of_parse hu).2
  have hclean : ∀ c ∈ u.authority, Unicode.hidesDelimiter c = false := by
    unfold checkHidden at hfirst
    split at hfirst
    · cases hfirst
    · next hnone => simpa using hnone
  have hascii : ∀ c : Char, c.toNat < 128 → ¬ Unicode.hidesDelimiter c = true := by
    intro c hc
    rw [Unicode.hidesDelimiter_ascii hc]
    exact Bool.false_ne_true
  unfold checkHidden
  refine if_neg ?_
  rw [List.any_eq_true]
  rintro ⟨c, hc, hhides⟩
  rcases mem_authorityText hc with h | h | ⟨-, rfl | rfl⟩
  · have hmem := mem_of_mem_withoutUser (mem_withoutUser_of_mem_host h (Or.inr hhides))
    rw [hclean c hmem] at hhides
    cases hhides
  · exact hascii c (by omega) hhides
  · exact hascii '[' (by decide) hhides
  · exact hascii ']' (by decide) hhides

theorem authorityText_of_colon (h : ':' ∈ u.host) :
    authorityText u port = '[' :: u.host ++ ']' :: portText u.scheme port := by
  unfold authorityText hostText
  rw [if_pos (List.contains_iff_mem.mpr h)]
  simp

theorem authorityText_of_not_colon (h : ':' ∉ u.host) :
    authorityText u port = u.host ++ portText u.scheme port := by
  unfold authorityText hostText
  rw [if_neg (by simpa using h)]

theorem authorityText_ne_nil_iff :
    authorityText u port ≠ [] ↔ u.host ≠ [] ∨ ∃ n, port = some n ∧ schemePort? u.scheme ≠ some n := by
  have hhost : hostText u.host = [] ↔ u.host = [] := by
    unfold hostText
    split
    · next hcolon =>
        rw [List.contains_iff_mem] at hcolon
        exact iff_of_false (List.cons_ne_nil _ _) (List.ne_nil_of_mem hcolon)
    · rfl
  have hport : portText u.scheme port ≠ [] ↔ ∃ n, port = some n ∧ schemePort? u.scheme ≠ some n := by
    rcases portText_eq u.scheme port with hport | ⟨n, rfl, hne, hport⟩
    · refine iff_of_false (fun h => h hport) ?_
      rintro ⟨n, rfl, hne⟩
      rw [portText, if_neg hne] at hport
      cases hport
    · exact iff_of_true (hport ▸ List.cons_ne_nil _ _) ⟨n, rfl, hne⟩
  rw [authorityText, ne_eq, List.append_eq_nil_iff, hhost, Decidable.not_and_iff_not_or_not, ← ne_eq,
    ← ne_eq, hport]

/-- When the brackets of the authority are in order. -/
theorem checkBrackets_authorityText (u : Url) (port : Option Nat) :
    checkBrackets (authorityText u port) = .ok () ↔
      if ':' ∈ u.host then Address.check u.host = .ok () else '[' ∉ u.host ∧ ']' ∉ u.host := by
  split
  · next hcolon =>
      have hclose := close_not_mem_host (Or.inl hcolon)
      have hinside : bracketed ('[' :: u.host ++ ']' :: portText u.scheme port) = u.host := by
        have hdrop : ('[' :: u.host ++ ']' :: portText u.scheme port).dropWhile (· != '[') =
            '[' :: (u.host ++ ']' :: portText u.scheme port) := rfl
        unfold bracketed
        rw [hdrop, List.drop_one, List.tail_cons,
          List.takeWhile_append_of_pos (Text.bne_of_not_mem hclose)]
        simp
      rw [authorityText_of_colon hcolon, checkBrackets, if_pos (by simp), if_pos (by simp), hinside]
  · next hcolon =>
      have hport : ∀ {c : Char}, c = '[' ∨ c = ']' → c ∉ portText u.scheme port := by
        intro c hc hmem
        have hrange := range_of_mem_portText hmem
        rcases hc with rfl | rfl <;> exact absurd hrange (by decide)
      have hopen : '[' ∈ authorityText u port ↔ '[' ∈ u.host := by
        rw [authorityText_of_not_colon hcolon, List.mem_append, or_iff_left (hport (Or.inl rfl))]
      have hclose : ']' ∈ authorityText u port ↔ ']' ∈ u.host := by
        rw [authorityText_of_not_colon hcolon, List.mem_append, or_iff_left (hport (Or.inr rfl))]
      unfold checkBrackets
      simp only [List.contains_iff_mem, hopen, hclose]
      by_cases hmem : '[' ∈ u.host
      · simp [hmem, close_not_mem_host (Or.inr hmem)]
      · by_cases hmem' : ']' ∈ u.host <;> simp [hmem, hmem']

/-- Where its brackets are in order, the host and the port of the authority are read back. -/
theorem hostAndPort_authorityText (h : checkBrackets (authorityText u port) = .ok ()) :
    hostAndPort (authorityText u port) =
      (u.host, ((writtenPort u.scheme port).map fun n => (toString n).toList).getD []) := by
  have huser : '@' ∉ authorityText u port := by
    intro hmem
    rcases mem_authorityText hmem with hmem | hmem | ⟨-, hmem | hmem⟩
    · exact user_not_mem_host u hmem
    · exact absurd hmem (by decide)
    · exact absurd hmem (by decide)
    · exact absurd hmem (by decide)
  rw [checkBrackets_authorityText] at h
  split at h
  · next hcolon =>
      rw [authorityText_of_colon hcolon, portText_eq_part] at huser ⊢
      exact hostAndPort_bracketed huser (close_not_mem_host (Or.inl hcolon))
  · next hcolon =>
      have hopen : '[' ∉ authorityText u port := by
        intro hmem
        rcases mem_authorityText hmem with hmem | hmem | ⟨hmem, -⟩
        · exact h.1 hmem
        · exact absurd hmem (by decide)
        · exact hcolon hmem
      rw [authorityText_of_not_colon hcolon, portText_eq_part] at huser hopen ⊢
      exact hostAndPort_plain huser hopen hcolon

/-! ### The second reading -/

theorem writtenPort_writtenPort (scheme : Text) (port : Option Nat) :
    writtenPort scheme (writtenPort scheme port) = writtenPort scheme port := by
  by_cases h : port = schemePort? scheme
  · have hnone : writtenPort scheme port = none := if_pos h
    rw [hnone, writtenPort, ite_self]
  · have hsame : writtenPort scheme port = port := if_neg h
    rw [hsame, hsame]

theorem portText_writtenPort (scheme : Text) (port : Option Nat) :
    portText scheme (writtenPort scheme port) = portText scheme port := by
  rw [portText_eq_part, writtenPort_writtenPort, ← portText_eq_part]

theorem rootedPath_rootedPath (path : Text) : rootedPath (rootedPath path) = rootedPath path := by
  by_cases h : path.isEmpty = true
  · have hroot : rootedPath path = ['/'] := if_pos h
    rw [hroot]
    rfl
  · have hsame : rootedPath path = path := if_neg h
    rw [hsame, hsame]

/-- A canonical form is read as what it is made of, provided that its brackets are in order. -/
theorem parse_canonical (hu : parse [] s = .ok u) (hscheme : u.scheme ≠ [])
    (hauthority : u.authority ≠ []) (port : Option Nat) :
    parse [] (u.scheme ++ "://".toList ++ authorityText u port ++ rootedPath u.path) =
      (checkBrackets (authorityText u port)).map fun _ =>
        ⟨u.scheme, authorityText u port, rootedPath u.path, [], []⟩ := by
  obtain ⟨hname, hlower⟩ := isScheme_of_parse hu hscheme
  have hhead := head?_rootedPath (head?_path_of_parse hu hauthority)
  have hpath : ∀ c ∈ rootedPath u.path, c ∉ "\t\r\n?#".toList := by
    intro c hc
    unfold rootedPath at hc
    split at hc
    · rw [List.mem_singleton.mp hc]
      decide
    · exact not_mem_of_mem_path hu hc
  rw [parse_written_path [] hname (isAuthority_authorityText hu) (Or.inr hhead) hpath,
    map_toLower_eq_self hlower]
  unfold checkAuthority
  rw [checkHidden_authorityText hu]
  cases checkBrackets (authorityText u port) <;> rfl

/-- The canonical form of a canonical form. -/
theorem canonical_authorityText (hu : parse [] s = .ok u) (hscheme : u.scheme ≠ [])
    (hauthority : u.authority ≠ []) (hport : u.port? = .ok port) :
    let c := u.scheme ++ "://".toList ++ authorityText u port ++ rootedPath u.path
    canonical c = (checkBrackets (authorityText u port)).map fun _ =>
      if authorityText u port = [] then rootedPath u.path else c := by
  intro c
  have hparse := parse_canonical hu hscheme hauthority port
  cases hcheck : checkBrackets (authorityText u port) with
  | error e =>
      rw [hcheck] at hparse
      unfold canonical
      rw [hparse]
      rfl
  | ok _ =>
      rw [hcheck] at hparse
      have hv : parse [] c = .ok ⟨u.scheme, authorityText u port, rootedPath u.path, [], []⟩ := hparse
      by_cases hempty : authorityText u port = []
      · have hparts : (u.scheme.isEmpty || (authorityText u port).isEmpty) = true := by simp [hempty]
        unfold canonical
        rw [hv]
        dsimp only [bind, Except.bind, Except.map]
        rw [hparts, if_pos rfl, if_pos hempty, ← rootedPath, rootedPath_rootedPath]
      · have hread := hostAndPort_authorityText hcheck
        have hle : ∀ n ∈ writtenPort u.scheme port, n ≤ 65535 := by
          intro n hn
          unfold writtenPort at hn
          split at hn
          · cases hn
          · exact le_of_port?_eq_some (hport.trans (congrArg Except.ok hn))
        have hport' : port? ⟨u.scheme, authorityText u port, rootedPath u.path, [], []⟩ =
            .ok (writtenPort u.scheme port) := port?_of_written (congrArg Prod.snd hread) hle
        have hhost : host ⟨u.scheme, authorityText u port, rootedPath u.path, [], []⟩ = u.host := by
          rw [host_eq_lowerHost]
          dsimp only
          rw [hread]
          exact lowerHost_lowerHost _
        rw [canonical_eq_of_parse hv hscheme hempty, hport', hhost]
        dsimp only [Except.map]
        rw [portText_writtenPort, rootedPath_rootedPath, if_neg hempty]
        rfl

/-- A canonical form is its own canonical form exactly if there is a host or a port to be written, and
the brackets of the host are in order. -/
theorem canonical_canonical_iff {c : Text} (hu : parse [] s = .ok u) (hscheme : u.scheme ≠ [])
    (hauthority : u.authority ≠ []) (hc : canonical s = .ok c) :
    canonical c = .ok c ↔
      (u.host ≠ [] ∨ ∃ n, u.port? = .ok (some n) ∧ schemePort? u.scheme ≠ some n) ∧
        if ':' ∈ u.host then Address.check u.host = .ok () else '[' ∉ u.host ∧ ']' ∉ u.host := by
  rw [canonical_eq_of_parse hu hscheme hauthority] at hc
  cases hport : u.port? with
  | error e =>
      rw [hport] at hc
      cases hc
  | ok port =>
      rw [hport] at hc
      have htext : u.scheme ++ "://".toList ++ authorityText u port ++ rootedPath u.path = c :=
        Except.ok.inj hc
      have hagain := canonical_authorityText hu hscheme hauthority hport
      dsimp only at hagain
      rw [htext] at hagain
      rw [← checkBrackets_authorityText u port, hagain]
      simp only [Except.ok.injEq, ← authorityText_ne_nil_iff]
      cases checkBrackets (authorityText u port) with
      | error e => exact iff_of_false (fun h => nomatch h) fun h => nomatch h.2
      | ok _ =>
          dsimp only [Except.map]
          by_cases hempty : authorityText u port = []
          · -- The path alone is shorter than the canonical form.
            refine iff_of_false (fun h => ?_) fun h => h.1 hempty
            rw [if_pos hempty, ← htext] at h
            have hlength := congrArg List.length (Except.ok.inj h)
            have hmark : "://".toList.length = 3 := rfl
            simp only [List.length_append, hmark] at hlength
            omega
          · rw [if_neg hempty]
            exact iff_of_true rfl ⟨hempty, rfl⟩

/-- The first form has a host and is stable.  In the second the port of the scheme goes and nothing stands
between the slashes, and in the third a bracket is left without the other. -/
theorem canonical_canonical_scheme_port :
    (canonical "HTTP://me@A:081/x?q".toList = .ok "http://a:81/x".toList ∧
      canonical "http://a:81/x".toList = .ok "http://a:81/x".toList) ∧
    (canonical "http://:80/x".toList = .ok "http:///x".toList ∧
      canonical "http:///x".toList ≠ .ok "http:///x".toList) ∧
    (canonical "http://[v1.[]/".toList = .ok "http://v1.[/".toList ∧
      canonical "http://v1.[/".toList ≠ .ok "http://v1.[/".toList) := by
  have hstable : canonical "HTTP://me@A:081/x?q".toList = .ok "http://a:81/x".toList := by decide +kernel
  have hempty : canonical "http://:80/x".toList = .ok "http:///x".toList := by decide +kernel
  have hbracket : canonical "http://[v1.[]/".toList = .ok "http://v1.[/".toList := by decide +kernel
  have hu : parse [] "HTTP://me@A:081/x?q".toList =
      .ok ⟨"http".toList, "me@A:081".toList, "/x".toList, "q".toList, []⟩ := by decide +kernel
  have hv : parse [] "http://:80/x".toList = .ok ⟨"http".toList, ":80".toList, "/x".toList, [], []⟩ := by
    decide +kernel
  have hw : parse [] "http://[v1.[]/".toList =
      .ok ⟨"http".toList, "[v1.[]".toList, ['/'], [], []⟩ := by decide +kernel
  refine ⟨⟨hstable, ?_⟩, ⟨hempty, ?_⟩, hbracket, ?_⟩
  · exact (canonical_canonical_iff hu (by decide) (by decide) hstable).mpr
      ⟨Or.inl (by decide +kernel), by decide +kernel⟩
  · refine mt (canonical_canonical_iff hv (by decide) (by decide) hempty).mp ?_
    rintro ⟨hhost | ⟨n, hport, hne⟩, -⟩
    · exact hhost (by decide +kernel)
    · have heighty : port? ⟨"http".toList, ":80".toList, "/x".toList, [], []⟩ = .ok (some 80) := by
        decide +kernel
      rw [heighty] at hport
      obtain rfl := Option.some.inj (Except.ok.inj hport)
      exact hne (by decide)
  · refine mt (canonical_canonical_iff hw (by decide) (by decide) hbracket).mp ?_
    rintro ⟨-, hbrackets⟩
    exact absurd hbrackets (by decide +kernel)

end RouteMask.Url
