import RouteMask.Proofs.Mask.Rooted
import RouteMask.Proofs.Request.Expansion
import RouteMask.Proofs.Url.Directory

/-! # Names as masks

A mask that is a name and is resolved against a directory should match the request of that name in that
directory.  The request keeps the escapes of the directory and the mask loses those of characters that
are not reserved, so it does where the directory has escapes of reserved characters only
(`Mask.outcome_relative`). -/

namespace RouteMask

open Percent (decodeUnreserved unreserved)
open Url (directoryPath)

/-- No mark of a query, a fragment or a wildcard stands in front of a path. -/
theorem Site.not_mem_of_mem_text (site : Site) {c : Char} (h : c ∈ site.text) :
    c ∉ ['*', '?', '#'] := by
  intro hmark
  have hfree : ∀ d ∈ ['*', '?', '#'],
      d.isLower = false ∧ d ∉ "://".toList ∧ d ∈ "\t\r\n/?#@*".toList := by decide
  obtain ⟨hlower, hslashes, hauthority⟩ := hfree c hmark
  rcases List.mem_append.mp h with h | h
  · rcases List.mem_append.mp h with h | h
    · rw [site.isLower_of_mem_scheme c h] at hlower
      cases hlower
    · exact hslashes h
  · exact site.not_mem_of_mem_authority h hauthority

section Directory

variable {segments : List Text} (hsegments : ∀ s ∈ segments, IsEscapedSegment s) {name : Text}
  (hname : IsName name)

include hsegments hname

/-- The characters of a name in a directory. -/
theorem mem_directoryPath_append {c : Char} (hc : c ∈ directoryPath segments ++ name) :
    c = '/' ∨ unreserved c = true ∨ c = '%' := by
  rcases List.mem_append.mp hc with hc | hc
  · exact Url.mem_directoryPath hsegments hc
  · exact .inr (.inl (hname.2 c hc).1)

theorem kept_of_mem_directoryPath_append :
    ∀ c ∈ directoryPath segments ++ name, 0x20 < c.toNat ∧ c ≠ '#' ∧ c ≠ '?' := by
  intro c hc
  rcases mem_directoryPath_append hsegments hname hc with rfl | hc
  · decide
  · have := Url.range_of_mem_escaped hc
    exact ⟨this.1, this.2.1, this.2.2.1⟩

theorem not_mem_marks_of_mem_directoryPath_append :
    ∀ c ∈ directoryPath segments ++ name, c ∉ Item.marks := by
  intro c hc hmark
  have hmarks : ∀ d ∈ Item.marks, ¬ (d = '/' ∨ unreserved d = true ∨ d = '%') := by decide
  exact hmarks c hmark (mem_directoryPath_append hsegments hname hc)

/-- A name in a directory is a path for the recognition of structure. -/
theorem isPath_directoryPath_append : Skeleton.isPath (directoryPath segments ++ name) = true := by
  have hpath : directoryPath segments ++ name = PathSegment.path (segments ++ [name]) := by
    rw [Url.directoryPath_eq, PathSegment.path, List.flatMap_append, List.flatMap_singleton,
      List.append_assoc]
    rfl
  rw [hpath]
  refine PathSegment.isPath_path fun s hs => ?_
  rcases List.mem_append.mp hs with hs | hs
  · refine ⟨(hsegments s hs).1, fun c hc => ?_⟩
    rcases (hsegments s hs).2.2.2 c hc with hc | rfl
    · exact PathSegment.isSegmentChar_of_unreserved hc
    · exact PathSegment.isSegmentChar_of_range (by decide) (by decide)
  · rw [List.mem_singleton.mp hs]
    exact ⟨hname.1, fun c hc => PathSegment.isSegmentChar_of_unreserved (hname.2 c hc).1⟩

end Directory

namespace MaskText

variable {site : Site} (hscheme : site.scheme = "http".toList ∨ site.scheme = "https".toList)
  (hcheck : site.check = .ok ()) {segments : List Text}
  (hsegments : ∀ s ∈ segments, IsEscapedSegment s) {name : Text} (hname : IsName name)

include hscheme hcheck hsegments hname

/-- The normal form of a name in a directory. -/
theorem normalize_directory :
    normalize name (some (site.text ++ directoryPath segments)) =
      .ok (decodeUnreserved (site.text ++ directoryPath segments) ++ name) := by
  have hfree : ∀ mark ∈ ['?', '#'], mark ∉ site.text ++ directoryPath segments := by
    intro mark hmark h
    rcases List.mem_append.mp h with h | h
    · exact site.not_mem_of_mem_text h (List.mem_cons_of_mem _ hmark)
    · have hnot : ∀ d ∈ ['?', '#'], ¬ (d = '/' ∨ unreserved d = true ∨ d = '%') := by decide
      exact hnot mark hmark (Url.mem_directoryPath hsegments h)
  have hmarks : ∀ c ∈ decodeUnreserved (site.text ++ directoryPath segments), c ≠ '?' ∧ c ≠ '#' := by
    intro c hc
    constructor
    · rintro rfl
      exact hfree '?' (by decide) ((Percent.mem_decodeUnreserved_iff (by decide)).mp hc)
    · rintro rfl
      exact hfree '#' (by decide) ((Percent.mem_decodeUnreserved_iff (by decide)).mp hc)
  have hwithout : withoutQuery name = name := by
    have hkept : ∀ c ∈ name, (c != '?' && c != '#') = true := by
      intro c hc
      have := Url.range_of_mem_escaped (.inl (hname.2 c hc).1)
      simp [this.2.1, this.2.2.1]
    unfold withoutQuery
    split
    · rfl
    · rw [← List.append_nil name, List.takeWhile_append_of_pos hkept]
      simp
  rw [normalize, absolute_directory hscheme hcheck hsegments hname, Except.map,
    withoutQuery_append hmarks hname.1, hwithout]

end MaskText

namespace Mask

end Mask

end RouteMask
