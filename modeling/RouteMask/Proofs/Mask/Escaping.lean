import RouteMask.Proofs.Mask.Structure
import RouteMask.Proofs.Request.Expansion

/-! # Escaping structural colons

What escaping has to do is said part by part: the colon of a scheme, those of an address in brackets
and that of a port get a backslash, and nothing else changes.  A mask that is put together from such
parts becomes the text of the escaped parts (`Skeleton.escape_parts`). -/

namespace RouteMask.Skeleton

/-- A scheme, and the same with its colon escaped. -/
inductive SchemeEscaped : Text → Text → Prop
  | none : SchemeEscaped [] []
  | slashes : SchemeEscaped "//".toList "//".toList
  | name {name : Text} (hname : IsSchemeName name) :
      SchemeEscaped (name ++ "://".toList) (name ++ "\\://".toList)

/-- An address, and the same with its colons escaped if it stands in brackets. -/
inductive AddressEscaped : Text → Text → Prop
  | bracketed {address : Text} (hne : address ≠ [])
      (hchars : ∀ c ∈ address, isAddressChar c = true) :
      AddressEscaped ('[' :: address ++ [']']) ('[' :: escapeColons address ++ [']'])
  | plain {text : Text} (hne : text ≠ []) (hchars : ∀ c ∈ text, isHostChar c = true)
      (hends : ¬ EndsInPort text) : AddressEscaped text text

/-- A port, and the same with its colon escaped. -/
inductive PortEscaped : Text → Text → Prop
  | none : PortEscaped [] []
  | port {port : Text} (hport : IsPort port) : PortEscaped port ('\\' :: port)

/-- Nothing, a slash, or segments behind a slash each. -/
inductive IsPlainPath : Text → Prop
  | slash : IsPlainPath ['/']
  | segments {segments : List Text}
      (hsegments : ∀ s ∈ segments, s ≠ [] ∧ ∀ c ∈ s, isSegmentChar c = true) :
      IsPlainPath (PathSegment.path segments)

/-! ### Parts -/

theorem SchemeEscaped.isScheme {scheme scheme' : Text} (h : SchemeEscaped scheme scheme') :
    IsScheme scheme := by
  cases h with
  | none => exact Or.inl rfl
  | slashes => exact Or.inr (Or.inl rfl)
  | name hname => exact Or.inr (Or.inr ⟨_, hname, rfl⟩)

theorem SchemeEscaped.escapeFirstColon_eq {scheme scheme' : Text} (h : SchemeEscaped scheme scheme') :
    escapeFirstColon scheme = scheme' := by
  cases h with
  | none => rfl
  | slashes => rfl
  | name hname => exact escapeFirstColon_append (fun hc => (hname.2 _ hc).2 rfl) _

theorem AddressEscaped.exists_host {address address' : Text} (h : AddressEscaped address address') :
    ∃ host : HostMask, host.IsAddress ∧ host.text = address ∧ escapedHost host = address' := by
  cases h with
  | bracketed hne hchars =>
      refine ⟨.bracketed _, ⟨hne, hchars⟩, rfl, ?_⟩
      simp [escapedHost, HostMask.text, escapeColons]
  | plain hne hchars hends => exact ⟨.plain _, ⟨hne, hchars, hends⟩, rfl, rfl⟩

theorem PortEscaped.isPort {port port' : Text} (h : PortEscaped port port') :
    port = [] ∨ IsPort port := by
  cases h with
  | none => exact Or.inl rfl
  | port hport => exact Or.inr hport

theorem PortEscaped.escapeColons_eq {port port' : Text} (h : PortEscaped port port') :
    escapeColons port = port' := by
  cases h with
  | none => rfl
  | port hport =>
      obtain ⟨digits, rfl, -, -, hdigits⟩ := hport
      have hcolon : ':' ∉ digits := fun hc => absurd (hdigits _ hc) (by decide)
      have hcons : escapeColons (':' :: digits) = '\\' :: ':' :: escapeColons digits := rfl
      rw [hcons, escapeColons_eq_self hcolon]

theorem PortEscaped.of_isPort {port : Text} (h : port = [] ∨ IsPort port) :
    PortEscaped port (escapeColons port) := by
  rcases h with rfl | hport
  · exact .none
  · have hescaped : PortEscaped port ('\\' :: port) := .port hport
    rwa [hescaped.escapeColons_eq]

theorem IsPlainPath.isPath {path : Text} (h : IsPlainPath path) : isPath path = true := by
  cases h with
  | slash => rfl
  | segments hsegments => exact PathSegment.isPath_path hsegments

/-! ### The whole mask -/

/-- The structural colons in front of a path are escaped. -/
theorem escape_append_path {scheme scheme' address address' port port' path : Text}
    (hscheme : SchemeEscaped scheme scheme') (haddress : AddressEscaped address address')
    (hport : PortEscaped port port') (hpath : Skeleton.isPath path = true) :
    escape (scheme ++ address ++ port ++ path) = scheme' ++ address' ++ port' ++ path := by
  obtain ⟨host, hhost, rfl, rfl⟩ := haddress.exists_host
  have hfind := find?_of_isPath hscheme.isScheme hhost hport.isPort hpath
  have htext : scheme ++ host.text ++ port ++ path = scheme ++ (host.text ++ port ++ path) := by
    simp
  unfold escape
  rw [htext, hfind]
  dsimp only
  rw [List.nil_append, escaped, hscheme.escapeFirstColon_eq, hport.escapeColons_eq]

/-- The structural colons of a mask are escaped, and nothing else is. -/
theorem escape_parts {scheme scheme' address address' port port' path : Text}
    (hscheme : SchemeEscaped scheme scheme') (haddress : AddressEscaped address address')
    (hport : PortEscaped port port') (hpath : IsPlainPath path) :
    escape (scheme ++ address ++ port ++ path) = scheme' ++ address' ++ port' ++ path :=
  escape_append_path hscheme haddress hport hpath.isPath

/-- Colons in the path begin parameters. -/
theorem escape_parts_parameters :
    escape "http://[::1]:3000/:user/:id".toList =
      "http\\://[\\:\\:1]\\:3000/:user/:id".toList := by
  have hname : IsSchemeName "http".toList := ⟨by decide, by decide⟩
  have haddress : AddressEscaped ('[' :: "::1".toList ++ [']']) "[\\:\\:1]".toList :=
    .bracketed (by decide) (by decide)
  have hport : IsPort ":3000".toList := ⟨"3000".toList, rfl, by decide, by decide, by decide⟩
  have hpath : IsPlainPath (PathSegment.path [":user".toList, ":id".toList]) :=
    .segments (by decide)
  exact escape_parts (.name hname) haddress (.port hport) hpath

end RouteMask.Skeleton
