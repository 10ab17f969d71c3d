import RouteMask.Proofs.Url.Dotless
import RouteMask.Proofs.Url.Reserved
import RouteMask.Proofs.Url.Site

/-! # Names in a directory

A name that is resolved against a base whose path is a directory is put behind the base
(`Url.resolve_directory`).  As a mask it stands behind the decoded base, in which the escapes of reserved
characters are left (`MaskText.absolute_directory`). -/

namespace RouteMask

open Percent (encode decodeUnreserved unreserved)

/-- A name without dots, in which nothing has to be escaped. -/
def IsName (name : Text) : Prop :=
  name ≠ [] ∧ ∀ c ∈ name, unreserved c = true ∧ c ≠ '.'

instance : DecidablePred IsName :=
  fun name => inferInstanceAs (Decidable (name ≠ [] ∧ ∀ c ∈ name, unreserved c = true ∧ c ≠ '.'))

/-- A segment of unreserved characters and escapes that is no dot segment. -/
def IsEscapedSegment (segment : Text) : Prop :=
  segment ≠ [] ∧ segment ≠ ['.'] ∧ segment ≠ ['.', '.'] ∧
    ∀ c ∈ segment, unreserved c = true ∨ c = '%'

instance : DecidablePred IsEscapedSegment :=
  fun segment => inferInstanceAs (Decidable (segment ≠ [] ∧ segment ≠ ['.'] ∧
    segment ≠ ['.', '.'] ∧ ∀ c ∈ segment, unreserved c = true ∨ c = '%'))

theorem IsEscapedSegment.slash_not_mem {segment : Text} (h : IsEscapedSegment segment) :
    '/' ∉ segment := by
  intro hmem
  rcases h.2.2.2 _ hmem with h | h
  · exact absurd h (by decide)
  · exact absurd h (by decide)

namespace Url

/-- The path of a directory: a slash, and one behind each segment. -/
def directoryPath (segments : List Text) : Text :=
  '/' :: segments.flatMap (· ++ ['/'])

theorem directoryPath_cons (s : Text) (segments : List Text) :
    directoryPath (s :: segments) = '/' :: (s ++ directoryPath segments) := by
  simp [directoryPath]

theorem directoryPath_eq (segments : List Text) :
    directoryPath segments = segments.flatMap ('/' :: ·) ++ ['/'] := by
  induction segments with
  | nil => rfl
  | cons s segments ih =>
      rw [directoryPath_cons, ih, List.flatMap_cons, List.cons_append, List.cons_append,
        List.append_assoc]

/-! ### Characters -/

theorem range_of_mem_escaped {c : Char} (h : unreserved c = true ∨ c = '%') :
    0x20 < c.toNat ∧ c ≠ '#' ∧ c ≠ '?' ∧ c ≠ ';' := by
  have hmarks : ∀ d ∈ ['#', '?', ';'], ¬ (unreserved d = true ∨ d = '%') := by decide
  refine ⟨?_, ?_, ?_, ?_⟩
  · rcases h with h | rfl
    · have := Percent.unreserved_iff.mp h
      omega
    · decide
  · rintro rfl
    exact hmarks _ (by decide) h
  · rintro rfl
    exact hmarks _ (by decide) h
  · rintro rfl
    exact hmarks _ (by decide) h

section

variable {segments : List Text} (hsegments : ∀ s ∈ segments, IsEscapedSegment s)

include hsegments

theorem mem_directoryPath {c : Char} (hc : c ∈ directoryPath segments) :
    c = '/' ∨ unreserved c = true ∨ c = '%' := by
  rcases List.mem_cons.mp hc with rfl | hc
  · exact Or.inl rfl
  · obtain ⟨s, hs, hc⟩ := List.mem_flatMap.mp hc
    rcases List.mem_append.mp hc with hc | hc
    · exact Or.inr ((hsegments s hs).2.2.2 c hc)
    · exact Or.inl (List.mem_singleton.mp hc)

theorem kept_of_mem_directoryPath :
    ∀ c ∈ directoryPath segments, 0x20 < c.toNat ∧ c ≠ '#' ∧ c ≠ '?' := by
  intro c hc
  rcases mem_directoryPath hsegments hc with rfl | hc
  · decide
  · have := range_of_mem_escaped hc
    exact ⟨this.1, this.2.1, this.2.2.1⟩

/-! ### Resolving -/

/-- A name behind a directory is its last segment. -/
theorem splitOn_directoryPath_append {name : Text} (hname : '/' ∉ name) :
    Text.splitOn ['/'] (directoryPath segments ++ name) = [] :: (segments ++ [name]) := by
  have hsplit : ∀ segments : List Text, (∀ s ∈ segments, '/' ∉ s) →
      Text.splitOn ['/'] (segments.flatMap (· ++ ['/']) ++ name) = segments ++ [name] := by
    intro segments h
    induction segments with
    | nil => exact Text.splitOn_eq_singleton hname
    | cons s segments ih =>
        have hcons : (s :: segments).flatMap (· ++ ['/']) ++ name =
            s ++ '/' :: (segments.flatMap (· ++ ['/']) ++ name) := by simp
        rw [hcons, Text.splitOn_append_cons (h s List.mem_cons_self),
          ih fun t ht => h t (List.mem_cons_of_mem s ht)]
        rfl
  rw [directoryPath, List.cons_append, Text.splitOn_cons_self,
    hsplit segments fun s hs => (hsegments s hs).slash_not_mem]

theorem directory_directoryPath : directory (directoryPath segments) = [] :: (segments ++ [[]]) := by
  have hsplit : Text.splitOn ['/'] (directoryPath segments) = [] :: (segments ++ [[]]) := by
    have := splitOn_directoryPath_append hsegments (List.not_mem_nil (a := '/'))
    rwa [List.append_nil] at this
  have hlast : ([] :: (segments ++ [[]]) : List Text).getLast? = some [] := by
    rw [← List.cons_append, List.getLast?_concat]
  unfold directory
  dsimp only
  rw [hsplit, if_pos hlast]

/-- A name is put behind a directory. -/
theorem resolvePath_directoryPath {name : Text} (hname : IsName name) :
    resolvePath (directoryPath segments) name = directoryPath segments ++ name := by
  obtain ⟨hne, hchars⟩ := hname
  have hslash : '/' ∉ name := fun h => absurd (hchars '/' h).1 (by decide)
  have hhead : ¬ name.head? = some '/' := fun h => hslash (List.mem_of_head? h)
  have hdot : ∀ dots : Text, '.' ∈ dots → name ≠ dots := by
    rintro dots hmem rfl
    exact (hchars '.' hmem).2 rfl
  have hkept : segments.filter (fun s => !s.isEmpty) = segments := by
    refine List.filter_eq_self.mpr fun s hs => ?_
    simpa using (hsegments s hs).1
  have hsqueeze : squeeze (directory (directoryPath segments) ++ [name]) =
      [] :: (segments ++ [name]) := by
    rw [directory_directoryPath hsegments, List.cons_append, squeeze, List.dropLast_concat,
      List.filter_append, hkept]
    simp
  have hdrop : dropDots [] ([] :: (segments ++ [name])) = [] :: (segments ++ [name]) := by
    have hall : ∀ s ∈ ([] :: (segments ++ [name]) : List Text), s ≠ ['.'] ∧ s ≠ ['.', '.'] := by
      intro s hs
      rcases List.mem_cons.mp hs with rfl | hs
      · exact ⟨by simp, by simp⟩
      · rcases List.mem_append.mp hs with hs | hs
        · exact ⟨(hsegments s hs).2.1, (hsegments s hs).2.2.1⟩
        · rw [List.mem_singleton.mp hs]
          exact ⟨hdot _ (by simp), hdot _ (by simp)⟩
    have := dropDots_append hall [] []
    rwa [List.append_nil, List.append_nil, dropDots, List.reverse_reverse] at this
  have hlast : ([] :: (segments ++ [name]) : List Text).getLast?.getD [] = name := by
    rw [← List.cons_append, List.getLast?_concat, Option.getD_some]
  have hjoin : List.intercalate ['/'] ([] :: (segments ++ [name])) =
      directoryPath segments ++ name := by
    rw [← splitOn_directoryPath_append hsegments hslash,
      Text.intercalate_splitOn (List.cons_ne_nil _ _)]
  unfold resolvePath
  simp only [if_neg hhead, Text.splitOn_eq_singleton hslash, hsqueeze, hdrop, hlast,
    hdot ['.'] (by simp), hdot ['.', '.'] (by simp), or_self, if_false, hjoin]
  rfl

end

/-- A text without the mark of parameters has none. -/
theorem cutParameters_eq_self {path : Text} (h : ';' ∉ path) : cutParameters path = (path, []) := by
  obtain ⟨d, hpath, -⟩ := exists_append_lastSegment path
  have hnone : Text.cut? (· == ';') (lastSegment path) = none := by
    refine Text.cut?_of_not_mem fun hc => h ?_
    rw [hpath]
    exact List.mem_append_right d hc
  rw [cutParameters, hnone]

/-- A name is a reference with a path only. -/
theorem parse_name (scheme : Text) {name : Text} (hname : IsName name) :
    parse scheme name = .ok ⟨scheme, [], name, [], []⟩ := by
  have hmarks : ∀ mark ∈ [':', '#', '?', '/'], mark ∉ name := by
    intro mark hmark hmem
    have hnot : ∀ d ∈ [':', '#', '?', '/'], unreserved d = false := by decide
    have := (hname.2 mark hmem).1
    rw [hnot mark hmark] at this
    cases this
  have hcut : ∀ mark ∈ [':', '#', '?', '/'], Text.cut? (· == mark) name = none :=
    fun mark hmark => Text.cut?_of_not_mem (hmarks mark hmark)
  have htidy : tidy name = name := by
    refine tidy_eq_self fun c hc => ?_
    have := Percent.unreserved_iff.mp (hname.2 c hc).1
    omega
  have hauthority : splitAuthority name = ([], name) := by
    unfold splitAuthority
    split
    · next rest =>
        exact absurd List.mem_cons_self (hmarks '/' (by decide))
    · rfl
  unfold parse splitScheme? splitMark
  simp only [htidy, hcut ':' (by decide), Option.getD_none, hauthority, hcut '#' (by decide),
    hcut '?' (by decide)]
  rfl

/-- A name is resolved against a directory of a web site by putting it behind. -/
theorem resolve_directory {site : Site}
    (hscheme : site.scheme = "http".toList ∨ site.scheme = "https".toList)
    (hcheck : site.check = .ok ()) {segments : List Text} (hsegments : ∀ s ∈ segments, IsEscapedSegment s)
    {name : Text} (hname : IsName name) :
    resolve (site.text ++ directoryPath segments) name =
      .ok (site.text ++ directoryPath segments ++ name) := by
  have hschemes := contains_of_web hscheme
  have hroot : (directoryPath segments).head? = some '/' := rfl
  obtain ⟨b, hb, hbscheme, hbauthority, hbpath⟩ := site.parse_append [] (.inr hroot)
  rw [hcheck] at hb
  rw [barePath_eq_self (kept_of_mem_directoryPath hsegments)] at hbpath
  rw [← hbscheme] at hschemes
  have hdirectory : cutParameters (directoryPath segments) = (directoryPath segments, []) := by
    refine cutParameters_eq_self fun h => ?_
    rcases mem_directoryPath hsegments h with h | h
    · exact absurd h (by decide)
    · exact (range_of_mem_escaped h).2.2.2 rfl
  have hreference : cutParameters name = (name, []) :=
    cutParameters_eq_self fun h => (range_of_mem_escaped (.inl (hname.2 ';' h).1)).2.2.2 rfl
  have hne : site.text ++ directoryPath segments ≠ [] := by simp [directoryPath]
  have hpath : (directoryPath segments ++ name).head? = some '/' := rfl
  rw [resolve_eq hne hname.1 hb (parse_name b.scheme hname) rfl hschemes.1 hschemes.2.1 hschemes.2.2 rfl
    (by rw [hreference]; exact hname.1), hbscheme, hbauthority, hbpath,
    render_eq site.scheme_ne_nil site.authority_ne_nil]
  rw [hdirectory, hreference]
  dsimp only
  rw [resolvePath_directoryPath hsegments hname, joinParameters, if_pos List.isEmpty_nil,
    atRoot_eq_self hpath]
  simp [renderPart, Site.text]

end Url

namespace MaskText

theorem isAbsolute_name {name : Text} (hname : IsName name) : isAbsolute name = false := by
  have hnot : ∀ mark ∈ ['/', ':'], mark ∉ name := by
    intro mark hmark hmem
    have hmarks : ∀ d ∈ ['/', ':'], unreserved d = false := by decide
    have := (hname.2 mark hmem).1
    rw [hmarks mark hmark] at this
    cases this
  unfold isAbsolute
  split
  · exact absurd List.mem_cons_self (hnot '/' (by decide))
  · next first rest _ =>
      have hcolon : ':' ∉ rest.dropWhile isSchemeChar := by
        intro h
        exact hnot ':' (by decide) (List.mem_cons_of_mem _ ((List.dropWhile_suffix _).subset h))
      split
      · next more heq =>
          rw [heq] at hcolon
          exact absurd List.mem_cons_self hcolon
      · exact Bool.and_false _
  · rfl

theorem isRelative_name {name : Text} (hname : IsName name) : IsRelative name :=
  ⟨isAbsolute_name hname, fun h => absurd (hname.2 '*' (List.mem_of_head? h)).1 (by decide)⟩

section Directory

variable {site : Site} (hscheme : site.scheme = "http".toList ∨ site.scheme = "https".toList)
  (hcheck : site.check = .ok ()) {segments : List Text}
  (hsegments : ∀ s ∈ segments, IsEscapedSegment s) {name : Text} (hname : IsName name)

include hscheme hcheck hsegments hname

/-- A name resolved against a directory: the directory is decoded, and the name follows. -/
theorem absolute_directory :
    absolute name (some (site.text ++ Url.directoryPath segments)) =
      .ok (decodeUnreserved (site.text ++ Url.directoryPath segments) ++ name) := by
  have hencode : encode resolvable name = name := Percent.encode_eq_self fun c hc => (hname.2 c hc).1
  have hresolve := Url.resolve_directory hscheme hcheck hsegments hname
  -- The slash at the end of the directory keeps what is decoded apart from the name.
  obtain ⟨front, hfront⟩ : ∃ front, site.text ++ Url.directoryPath segments = front ++ ['/'] :=
    ⟨site.text ++ segments.flatMap ('/' :: ·), by rw [Url.directoryPath_eq, List.append_assoc]⟩
  have hdecode : decodeUnreserved (front ++ ['/'] ++ name) =
      decodeUnreserved (front ++ ['/']) ++ name := by
    have hwhole := Percent.decodeUnreserved_append_encode front name
    have hdirectory : decodeUnreserved (front ++ ['/']) = decodeUnreserved front ++ ['/'] :=
      Percent.decodeUnreserved_append_encode front []
    rw [hencode] at hwhole
    rw [hdirectory, List.append_assoc, List.append_assoc]
    exact hwhole
  have hne : site.text ++ Url.directoryPath segments ≠ [] := by simp [hfront]
  rw [(isRelative_name hname).absolute_eq hne, hencode, hresolve, Except.map, hfront, hdecode]

end Directory

end MaskText

end RouteMask
