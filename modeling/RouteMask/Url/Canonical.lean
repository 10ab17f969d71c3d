import RouteMask.Url.Basic

/-! # Canonical request URLs

Requests are matched by origin and path alone.  `Url.canonical` reduces the URL of a request to that:
query, fragment and user are dropped, the scheme and the host are in lower case, and the port is
left out where it is the scheme's own.  A URL without origin is reduced to its path.

`Url.canonicalRaw` does the same to a URL as it comes in.  Its surrogates stay where they are, or go with
the part that they stand in. -/

namespace RouteMask.Url

/-- The ports that need not be written. -/
def schemePort? (scheme : Text) : Option Nat :=
  [("http".toList, 80), ("https".toList, 443), ("ws".toList, 80), ("wss".toList, 443),
    ("ftp".toList, 21)].lookup scheme

/-- The host as it is written in an origin: an address with colons is put in brackets. -/
def hostText (host : Text) : Text :=
  if host.contains ':' then '[' :: host ++ [']'] else host

/-- The port as it is written in an origin. -/
def portText (scheme : Text) (port : Option Nat) : Text :=
  match port with
  | some n => if schemePort? scheme = some n then [] else ':' :: (toString n).toList
  | none => []

/-- The canonical form of a URL. -/
def canonical (s : Text) : Except UrlError Text := do
  let u ← parse [] s
  let path := if u.path.isEmpty then ['/'] else u.path
  if u.scheme.isEmpty || u.authority.isEmpty then .ok path
  else
    let port ← u.port?
    .ok (u.scheme ++ "://".toList ++ hostText u.host ++ portText u.scheme port ++ path)

/-- The canonical form of a URL as it comes in.  A surrogate is no mark, has no case and hides no
delimiter, and nor do the private-use characters that spell it: so the canonical form of the spelling
spells the canonical form. -/
def canonicalRaw (s : RawText) : Except UrlError RawText :=
  match s.toText with
  | .ok text => (canonical text).map .ofText
  | .error _ =>
    match canonical s.spell with
    | .ok text => .ok (.unspell text)
    | .error e => .error (e.mapShown fun shown => .unspell shown.chars)

theorem canonicalRaw_ofText (s : Text) : canonicalRaw s = (canonical s).map .ofText := by
  rw [canonicalRaw, RawText.toText_ofText]

theorem exists_of_canonicalRaw_ofText {s : Text} {r : RawText} (h : canonicalRaw s = .ok r) :
    ∃ t : Text, r = t := by
  rw [canonicalRaw_ofText] at h
  cases hs : canonical s with
  | error e =>
    rw [hs] at h
    cases h
  | ok t =>
    rw [hs] at h
    exact ⟨t, (Except.ok.inj h).symm⟩

/-- A URL whose spelling is canonical is canonical itself. -/
theorem canonicalRaw_eq_self {s : RawText} {e : EncodingError} (hs : s.toText = .error e)
    (h : canonical s.spell = .ok s.spell) : canonicalRaw s = .ok s := by
  simp only [canonicalRaw, hs, h, RawText.unspell_spell]

example :
    let lone : RawText := [.surrogate 0]
    let text := RawText.ofText
    let url := text "HTTP://A".toList ++ lone ++ text ":80/".toList ++ lone ++ text "?b".toList
    (canonicalRaw url).toOption =
      some (text "http://a".toList ++ lone ++ text "/".toList ++ lone) := by
  decide +kernel

end RouteMask.Url
