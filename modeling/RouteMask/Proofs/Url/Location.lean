import Mathlib.Data.List.TakeWhile
import RouteMask.Proofs.Url.Query
import RouteMask.Proofs.Url.Stable

/-! # Locations

A URL locates something by its scheme, its host, its port, which may be the one of the scheme, and its
path (`Url.SameLocation`).  The canonical form is glued together of these without escapes, but nothing is
lost: a scheme has no colon, a host with a colon stands in brackets, and neither hosts nor ports have
slashes.  So canonical forms are equal exactly for the same location, and how a URL is written down
makes no other difference (`Url.canonical_eq_iff`). -/

namespace RouteMask.Url

/-! ### Ports -/

/-- The port that is meant: the one that is written down, or else the scheme's own. -/
def effectivePort (scheme : Text) (port : Option Nat) : Option Nat :=
  port.or (schemePort? scheme)

section Ports

variable (scheme : Text) (port : Option Nat)

theorem writtenPort_effectivePort :
    writtenPort scheme (effectivePort scheme port) = writtenPort scheme port := by
  cases port with
  | none => simp [writtenPort, effectivePort]
  | some n => rfl

theorem effectivePort_writtenPort :
    effectivePort scheme (writtenPort scheme port) = effectivePort scheme port := by
  unfold writtenPort
  split
  · next h => simp [effectivePort, h]
  · rfl

/-- What is written for a port tells which port is meant, and no more. -/
theorem portText_eq_portText_iff {port port' : Option Nat} :
    portText scheme port = portText scheme port' ↔
      effectivePort scheme port = effectivePort scheme port' := by
  constructor
  · intro h
    have hwritten : writtenPort scheme port = writtenPort scheme port' := by
      rw [portText_eq_part, portText_eq_part] at h
      cases hp : writtenPort scheme port with
      | none =>
          cases hq : writtenPort scheme port' with
          | none => rfl
          | some m => rw [hp, hq] at h; cases h
      | some n =>
          cases hq : writtenPort scheme port' with
          | none => rw [hp, hq] at h; cases h
          | some m =>
              rw [hp, hq] at h
              exact congrArg some (Text.toList_toString_injective (List.cons.inj h).2)
    rw [← effectivePort_writtenPort scheme port, hwritten, effectivePort_writtenPort]
  · intro h
    rw [portText_eq_part, portText_eq_part, ← writtenPort_effectivePort scheme port, h,
      writtenPort_effectivePort]

end Ports

/-- The port that is read is the number that is written down. -/
theorem eq_of_port?_eq_ok {u : Url} {port : Option Nat} (h : u.port? = .ok port) :
    port = if (hostAndPort u.authority).2 = [] then none
      else some (Text.decimalValue (hostAndPort u.authority).2) := by
  unfold port? at h
  dsimp only at h
  split at h
  · next hempty =>
      rw [if_pos (List.isEmpty_iff.mp hempty)]
      exact (Except.ok.inj h).symm
  · next hempty =>
      rw [if_neg (mt List.isEmpty_iff.mpr hempty)]
      split at h
      · cases h
      split at h
      · cases h
      split at h
      · cases h
      · exact (Except.ok.inj h).symm

/-! ### Canonical forms -/

/-- The URLs have the same scheme, host and path, and the same port is meant. -/
structure SameLocation (u v : Url) : Prop where
  scheme_eq : u.scheme = v.scheme
  host_eq : u.host = v.host
  port_eq : u.port?.map (effectivePort u.scheme) = v.port?.map (effectivePort v.scheme)
  path_eq : rootedPath u.path = rootedPath v.path

/-- The text is read as the URL, which has a scheme, an authority, and a host without brackets in it. -/
structure NamesHost (s : Text) (u : Url) : Prop where
  parse_eq : parse [] s = .ok u
  scheme_ne_nil : u.scheme ≠ []
  authority_ne_nil : u.authority ≠ []
  host_ne_nil : u.host ≠ []
  bracket_not_mem_host : '[' ∉ u.host ∧ ']' ∉ u.host

/-- The canonical form depends on the location only. -/
theorem SameLocation.canonical_eq {s t : Text} {u v : Url} (h : SameLocation u v)
    (hu : parse [] s = .ok u) (hv : parse [] t = .ok v) (hscheme : u.scheme ≠ [])
    (hauthority : u.authority ≠ []) (hauthority' : v.authority ≠ []) : canonical s = canonical t := by
  have hport := h.port_eq
  rw [canonical_eq_of_parse hu hscheme hauthority,
    canonical_eq_of_parse hv (h.scheme_eq ▸ hscheme) hauthority', ← h.scheme_eq, ← h.host_eq,
    ← h.path_eq]
  rw [← h.scheme_eq] at hport
  cases hp : u.port? with
  | error e =>
      cases hq : v.port? with
      | error e' =>
          rw [hp, hq] at hport
          exact congrArg Except.error (Except.error.inj hport)
      | ok q =>
          rw [hp, hq] at hport
          cases hport
  | ok p =>
      cases hq : v.port? with
      | error e' =>
          rw [hp, hq] at hport
          cases hport
      | ok q =>
          rw [hp, hq] at hport
          have htext := (portText_eq_portText_iff u.scheme).mpr (Except.ok.inj hport)
          dsimp only [Except.map]
          rw [htext]

/-- A host and what follows it are told apart, whether the host is in brackets or not. -/
theorem hostText_append_inj {host host' rest rest' : Text} (hne : host ≠ []) (hne' : host' ≠ [])
    (hhost : '[' ∉ host ∧ ']' ∉ host) (hhost' : '[' ∉ host' ∧ ']' ∉ host')
    (hrest : rest = [] ∨ rest.head? = some ':') (hrest' : rest' = [] ∨ rest'.head? = some ':')
    (h : hostText host ++ rest = hostText host' ++ rest') : host = host' ∧ rest = rest' := by
  have hplain : ∀ {name more other : Text}, name ≠ [] → '[' ∉ name →
      name ++ more ≠ '[' :: other := by
    intro name more other hname hopen heq
    obtain ⟨c, name, rfl⟩ := List.exists_cons_of_ne_nil hname
    rw [(List.cons.inj heq).1] at hopen
    exact hopen List.mem_cons_self
  unfold hostText at h
  split at h
  · split at h
    · have hinside : host ++ ']' :: rest = host' ++ ']' :: rest' := by simpa using h
      obtain ⟨hsame, htail⟩ :=
        Text.append_inj_of_not_mem hhost.2 hhost'.2 (Or.inr rfl) (Or.inr rfl) hinside
      exact ⟨hsame, (List.cons.inj htail).2⟩
    · exact absurd h.symm (hplain hne' hhost'.1)
  · split at h
    · exact absurd h (hplain hne hhost.1)
    · next hcolon hcolon' =>
        exact Text.append_inj_of_not_mem (by simpa using hcolon) (by simpa using hcolon') hrest hrest' h

theorem portText_nil_or_head? (scheme : Text) (port : Option Nat) :
    portText scheme port = [] ∨ (portText scheme port).head? = some ':' := by
  rcases portText_eq scheme port with hport | ⟨n, -, -, hport⟩
  · exact Or.inl hport
  · exact Or.inr (by rw [hport]; rfl)

/-- The canonical form tells the location. -/
theorem NamesHost.sameLocation {s t c : Text} {u v : Url} (hu : NamesHost s u) (hv : NamesHost t v)
    (hc : canonical s = .ok c) (hd : canonical t = .ok c) : SameLocation u v := by
  rw [canonical_eq_of_parse hu.parse_eq hu.scheme_ne_nil hu.authority_ne_nil] at hc
  rw [canonical_eq_of_parse hv.parse_eq hv.scheme_ne_nil hv.authority_ne_nil] at hd
  cases hp : u.port? with
  | error e => rw [hp] at hc; cases hc
  | ok p =>
  cases hq : v.port? with
  | error e => rw [hq] at hd; cases hd
  | ok q =>
  rw [hp] at hc
  rw [hq] at hd
  have htext : u.scheme ++ ':' :: ("//".toList ++ (authorityText u p ++ rootedPath u.path)) =
      v.scheme ++ ':' :: ("//".toList ++ (authorityText v q ++ rootedPath v.path)) := by
    have := (Except.ok.inj hc).trans (Except.ok.inj hd).symm
    simpa [authorityText] using this
  -- A scheme has no colon, and an authority has no slash.
  have hcolon : ∀ {x : Text} {w : Url}, NamesHost x w → ':' ∉ w.scheme :=
    fun hw => (isScheme_of_parse hw.parse_eq hw.scheme_ne_nil).1.colon_not_mem
  obtain ⟨hscheme, htail⟩ :=
    Text.append_inj_of_not_mem (hcolon hu) (hcolon hv) (Or.inr rfl) (Or.inr rfl) htext
  have hslash : ∀ {x : Text} {w : Url} (port : Option Nat), NamesHost x w →
      '/' ∉ authorityText w port :=
    fun port hw hmem => isAuthority_authorityText hw.parse_eq _ hmem (by decide)
  have hhead : ∀ {x : Text} {w : Url}, NamesHost x w → (rootedPath w.path).head? = some '/' :=
    fun hw => head?_rootedPath (head?_path_of_parse hw.parse_eq hw.authority_ne_nil)
  obtain ⟨hauthority, hpath⟩ := Text.append_inj_of_not_mem (hslash p hu) (hslash q hv)
    (Or.inr (hhead hu)) (Or.inr (hhead hv)) (List.append_cancel_left (List.cons.inj htail).2)
  obtain ⟨hhost, hport⟩ := hostText_append_inj hu.host_ne_nil hv.host_ne_nil hu.bracket_not_mem_host
    hv.bracket_not_mem_host (portText_nil_or_head? _ _) (portText_nil_or_head? _ _) hauthority
  rw [← hscheme] at hport
  refine ⟨hscheme, hhost, ?_, hpath⟩
  rw [hp, hq, ← hscheme]
  exact congrArg Except.ok ((portText_eq_portText_iff _).mp hport)

/-! ### URLs that are written down -/

/-- A host as it can be written down: a name without colons, or an address in brackets. -/
def IsHostName : HostMask → Prop
  | .plain name => name ≠ [] ∧ ∀ c ∈ name, c ∉ "\t\r\n/?#@[]:".toList
  | .bracketed address => address ≠ [] ∧ ∀ c ∈ address, c ∉ "\t\r\n/?#@[]".toList

theorem IsHostName.hostName {host : HostMask} (h : IsHostName host) :
    Site.hostName host ≠ [] ∧ ∀ c ∈ Site.hostName host, c ∉ "\t\r\n/?#@[]".toList := by
  cases host with
  | plain name =>
      have hmarks : ∀ d ∈ "\t\r\n/?#@[]".toList, d ∈ "\t\r\n/?#@[]:".toList := by decide
      exact ⟨h.1, fun c hc hmark => h.2 c hc (hmarks c hmark)⟩
  | bracketed address => exact h

/-- The parts of a URL as they are written down. -/
structure Written where
  scheme : Text
  user : Option Text
  host : HostMask
  port : Option Text
  path : Text
  query : Option Text
  fragment : Option Text
  isScheme : IsScheme scheme
  isAuthority_of_mem_user : ∀ text ∈ user, IsAuthority text
  isHostName : IsHostName host
  isDigit_of_mem_port : ∀ digits ∈ port, ∀ c ∈ digits, c.isDigit = true
  head?_path : path = [] ∨ path.head? = some '/'
  not_mem_of_mem_path : ∀ c ∈ path, c ∉ "\t\r\n?#".toList

namespace Written

variable (w : Written)

/-- The host and the port behind its colon. -/
def place : Text :=
  w.host.text ++ Text.part ':' w.port

/-- The user in front of an at sign, the host and the port. -/
def authority : Text :=
  match w.user with
  | some user => user ++ '@' :: w.place
  | none => w.place

/-- The text without query and fragment. -/
def front : Text :=
  w.scheme ++ "://".toList ++ w.authority ++ w.path

/-- The text of a URL. -/
def text : Text :=
  w.front ++ Text.part '?' w.query ++ Text.part '#' w.fragment

/-- The parts that are read. -/
def url : Url :=
  ⟨w.scheme.map Char.toLower, w.authority, w.path, [], []⟩

/-- The port that is written down, unless it is empty. -/
def number : Option Nat :=
  (w.port.filter (· ≠ [])).map Text.decimalValue

/-- The URLs are the same but for the user, the query and the fragment, for letter case in the scheme and
the host, and for a port that need not be written. -/
structure Restates (w w' : Written) : Prop where
  scheme_eq : w.scheme.map Char.toLower = w'.scheme.map Char.toLower
  host_eq : lowerHost (Site.hostName w.host) = lowerHost (Site.hostName w'.host)
  port_eq : effectivePort (w.scheme.map Char.toLower) w.number =
    effectivePort (w'.scheme.map Char.toLower) w'.number
  path_eq : rootedPath w.path = rootedPath w'.path

theorem mem_place {c : Char} (h : c ∈ w.place) :
    c ∈ Site.hostName w.host ∨ c = ':' ∨ c.isDigit = true ∨ c = '[' ∨ c = ']' := by
  rcases List.mem_append.mp h with h | h
  · cases hhost : w.host with
    | plain name =>
        rw [hhost] at h
        exact Or.inl h
    | bracketed address =>
        rw [hhost] at h
        simp only [HostMask.text, List.cons_append, List.mem_cons, List.mem_append, List.not_mem_nil,
          or_false] at h
        rcases h with h | h | h
        · exact Or.inr (Or.inr (Or.inr (Or.inl h)))
        · exact Or.inl h
        · exact Or.inr (Or.inr (Or.inr (Or.inr h)))
  · cases hport : w.port with
    | none => rw [hport] at h; cases h
    | some digits =>
        rw [hport] at h
        rcases List.mem_cons.mp h with h | h
        · exact Or.inr (Or.inl h)
        · exact Or.inr (Or.inr (Or.inl (w.isDigit_of_mem_port digits hport c h)))

/-- No mark that ends an authority, no blank that is filtered out and no at sign stands in the place. -/
theorem not_mem_of_mem_place {c : Char} (h : c ∈ w.place) : c ∉ "\t\r\n/?#@".toList := by
  have hmarks : ∀ d ∈ "\t\r\n/?#@".toList, d ∈ "\t\r\n/?#@[]".toList ∧ d ≠ ':' ∧
      d.isDigit = false ∧ d ≠ '[' ∧ d ≠ ']' := by decide
  intro hmark
  obtain ⟨hname, hcolon, hdigit, hopen, hclose⟩ := hmarks c hmark
  rcases w.mem_place h with h | h | h | h | h
  · exact w.isHostName.hostName.2 c h hname
  · exact hcolon h
  · rw [hdigit] at h
    cases h
  · exact hopen h
  · exact hclose h

theorem at_not_mem_place : '@' ∉ w.place :=
  fun h => w.not_mem_of_mem_place h (by decide)

theorem isAuthority : IsAuthority w.authority := by
  have hplace : IsAuthority w.place := by
    have hmarks : ∀ d ∈ "\t\r\n/?#".toList, d ∈ "\t\r\n/?#@".toList := by decide
    exact fun c hc hmark => w.not_mem_of_mem_place hc (hmarks c hmark)
  unfold authority
  split
  · next user huser =>
      have hat : IsAuthority ['@'] := by decide
      exact (w.isAuthority_of_mem_user user huser).append (hat.append hplace)
  · exact hplace

theorem scheme_ne_nil : w.url.scheme ≠ [] := by
  obtain ⟨c, hc, -⟩ := w.isScheme.isAlpha_head
  obtain ⟨name, hname⟩ := List.head?_eq_some_iff.mp hc
  simp [url, hname]

theorem authority_ne_nil : w.authority ≠ [] := by
  have hhost : w.host.text ≠ [] := by
    cases hhost : w.host with
    | plain name => exact fun h => w.isHostName.hostName.1 (by rw [hhost]; exact h)
    | bracketed address => exact List.cons_ne_nil _ _
  unfold authority
  split
  · simp
  · simp [place, hhost]

/-- The host and the port are read as they are written down. -/
theorem hostAndPort_authority :
    hostAndPort w.authority = (Site.hostName w.host, w.port.getD []) := by
  have hplace : hostAndPort w.place = (Site.hostName w.host, w.port.getD []) := by
    have hat := w.at_not_mem_place
    have hname := w.isHostName
    unfold place at hat ⊢
    cases hhost : w.host with
    | plain name =>
        rw [hhost] at hat hname
        refine hostAndPort_plain hat (fun h => ?_) fun h => hname.2 _ h (by decide)
        rcases List.mem_append.mp h with h | h
        · exact hname.2 _ h (by decide)
        · cases hport : w.port with
          | none => rw [hport] at h; cases h
          | some digits =>
              rw [hport] at h
              rcases List.mem_cons.mp h with h | h
              · cases h
              · exact absurd (w.isDigit_of_mem_port digits hport _ h) (by decide)
    | bracketed address =>
        rw [hhost] at hat hname
        have htext : HostMask.text (.bracketed address) ++ Text.part ':' w.port =
            '[' :: address ++ ']' :: Text.part ':' w.port := by simp [HostMask.text]
        rw [htext] at hat ⊢
        exact hostAndPort_bracketed hat fun h => hname.2 _ h (by decide)
  unfold authority
  split
  · next user _ => rw [hostAndPort_user user w.at_not_mem_place, hplace]
  · exact hplace

theorem parse_front : parse [] w.front = (checkAuthority w.authority).map fun _ => w.url :=
  parse_written_path [] w.isScheme w.isAuthority w.head?_path w.not_mem_of_mem_path

/-- Query and fragment leave the canonical form alone. -/
theorem canonical_text : canonical w.text = canonical w.front := by
  have hpart : ∀ (mark : Char), mark = '?' ∨ mark = '#' → ∀ (s : Text) (part : Option Text),
      canonical (s ++ Text.part mark part) = canonical s := by
    intro mark hmark s part
    cases part with
    | none => rw [Text.part, List.append_nil]
    | some rest => exact canonical_append_mark hmark s rest
  rw [text, hpart '#' (Or.inr rfl), hpart '?' (Or.inl rfl)]

/-- Where there is a canonical form, the URL and its port have been read. -/
theorem parse_front_of_canonical {c : Text} (h : canonical w.text = .ok c) :
    parse [] w.front = .ok w.url ∧ w.url.port? = .ok w.number := by
  rw [canonical_text] at h
  obtain ⟨u, hu, -⟩ := exists_of_bind_eq_ok h
  have hread : parse [] w.front = .ok w.url := by
    have hparse := w.parse_front
    cases hcheck : checkAuthority w.authority with
    | error e =>
        rw [hcheck, hu] at hparse
        cases hparse
    | ok _ =>
        rw [hcheck] at hparse
        exact hparse
  refine ⟨hread, ?_⟩
  rw [canonical_eq_of_parse hread w.scheme_ne_nil w.authority_ne_nil] at h
  cases hport : w.url.port? with
  | error e =>
      rw [hport] at h
      cases h
  | ok port =>
      have hdigits : (hostAndPort w.url.authority).2 = w.port.getD [] :=
        congrArg Prod.snd w.hostAndPort_authority
      rw [eq_of_port?_eq_ok hport, hdigits, number]
      cases w.port with
      | none => rfl
      | some digits => cases digits <;> rfl

/-- In which of these ways a URL is written down makes no difference. -/
theorem Restates.canonical_eq {w w' : Written} (h : w.Restates w') {c d : Text}
    (hc : canonical w.text = .ok c) (hd : canonical w'.text = .ok d) : c = d := by
  obtain ⟨hread, hport⟩ := w.parse_front_of_canonical hc
  obtain ⟨hread', hport'⟩ := w'.parse_front_of_canonical hd
  have hhost : ∀ w : Written, w.url.host = lowerHost (Site.hostName w.host) := by
    intro w
    have hname : (hostAndPort w.url.authority).1 = Site.hostName w.host :=
      congrArg Prod.fst w.hostAndPort_authority
    rw [host_eq_lowerHost, hname]
  have hsame : SameLocation w.url w'.url := by
    refine ⟨h.scheme_eq, ?_, ?_, h.path_eq⟩
    · rw [hhost, hhost, h.host_eq]
    · rw [hport, hport']
      exact congrArg Except.ok h.port_eq
  rw [canonical_text, hsame.canonical_eq hread hread' w.scheme_ne_nil w.authority_ne_nil
    w'.authority_ne_nil, ← canonical_text, hd] at hc
  exact (Except.ok.inj hc).symm

end Written

/-- Canonical forms are equal exactly for the same location, and the same URL written down in another way
has the same canonical form. -/
theorem canonical_eq_iff :
    (∀ {s t c d : Text} {u v : Url}, NamesHost s u → NamesHost t v → canonical s = .ok c →
      canonical t = .ok d → (c = d ↔ SameLocation u v)) ∧
    ∀ {w w' : Written} {c d : Text}, w.Restates w' → canonical w.text = .ok c →
      canonical w'.text = .ok d → c = d := by
  refine ⟨fun {s t c d u v} hu hv hc hd => ⟨?_, fun h => ?_⟩, fun h hc hd => h.canonical_eq hc hd⟩
  · rintro rfl
    exact hu.sameLocation hv hc hd
  · have hsame := h.canonical_eq hu.parse_eq hv.parse_eq hu.scheme_ne_nil hu.authority_ne_nil
      hv.authority_ne_nil
    rw [hc, hd] at hsame
    exact Except.ok.inj hsame

/-- With a user, in capitals, with the port of the scheme and a query a URL is the same; with another port
it is not. -/
theorem canonical_eq_iff_scheme_port :
    SameLocation ⟨"http".toList, "me@A:080".toList, [], "q".toList, []⟩
        ⟨"http".toList, "a".toList, ['/'], [], []⟩ ∧
      ¬ SameLocation ⟨"http".toList, "a:81".toList, ['/'], [], []⟩
        ⟨"http".toList, "a".toList, ['/'], [], []⟩ ∧
      ∃ w w' : Written, w.text = "HTTP://me@A:080?q".toList ∧ w'.text = "http://a/".toList ∧
        w.Restates w' ∧ canonical w.text = .ok "http://a/".toList ∧
        ∀ d, canonical w'.text = .ok d → "http://a/".toList = d := by
  have hs : NamesHost "HTTP://me@A:080?q".toList
      ⟨"http".toList, "me@A:080".toList, [], "q".toList, []⟩ :=
    ⟨by decide +kernel, by decide, by decide, by decide +kernel, by decide +kernel⟩
  have ht : NamesHost "http://a/".toList ⟨"http".toList, "a".toList, ['/'], [], []⟩ :=
    ⟨by decide +kernel, by decide, by decide, by decide +kernel, by decide +kernel⟩
  have hother : NamesHost "http://a:81/".toList ⟨"http".toList, "a:81".toList, ['/'], [], []⟩ :=
    ⟨by decide +kernel, by decide, by decide, by decide +kernel, by decide +kernel⟩
  have hc : canonical "HTTP://me@A:080?q".toList = .ok "http://a/".toList := by decide +kernel
  have hd : canonical "http://a/".toList = .ok "http://a/".toList := by decide +kernel
  have he : canonical "http://a:81/".toList = .ok "http://a:81/".toList := by decide +kernel
  let w : Written :=
    ⟨"HTTP".toList, some "me".toList, .plain "A".toList, some "080".toList, [], some "q".toList, none,
      ⟨⟨'H', rfl, by decide⟩, by decide⟩, by decide, ⟨by decide, by decide⟩, by decide,
      by decide, by decide⟩
  let w' : Written :=
    ⟨"http".toList, none, .plain "a".toList, none, ['/'], none, none,
      ⟨⟨'h', rfl, by decide⟩, by decide⟩, by decide, ⟨by decide, by decide⟩, by decide,
      by decide, by decide⟩
  have hsame : w.Restates w' :=
    ⟨by decide, by decide +kernel, by decide +kernel, by decide⟩
  refine ⟨(canonical_eq_iff.1 hs ht hc hd).mp rfl, ?_, w, w', by decide, by decide, hsame, hc,
    fun d hd => canonical_eq_iff.2 hsame hc hd⟩
  exact mt (canonical_eq_iff.1 hother ht he hd).mpr (by decide)

end RouteMask.Url
