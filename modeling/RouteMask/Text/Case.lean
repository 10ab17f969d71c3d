import RouteMask.Text
import RouteMask.Unicode.CaseMap
import RouteMask.Unicode.Cased

/-! # Case of a text

Upper case, lower case and case folding of whole texts.  Lower case depends on the place in a word
for one letter: a capital sigma at the end of a word becomes the final small sigma. -/

namespace RouteMask.Text

open Unicode

/-- Upper case. -/
def upper (s : Text) : Text :=
  s.flatMap upperMap.apply

/-- The form in which texts are compared without regard to case. -/
def foldCase (s : Text) : Text :=
  s.flatMap foldMap.apply

/-- Whether a word goes on in what follows. -/
def wordContinues : Text → Bool
  | [] => false
  | c :: rest => if isCaseIgnorable c then wordContinues rest else isCased c

/-- Lower case; `inWord` says whether the text follows a letter of a word. -/
def lowerFrom (inWord : Bool) : Text → Text
  | [] => []
  | c :: rest =>
    let image :=
      if c = 'Σ' then [if inWord && !wordContinues rest then 'ς' else 'σ'] else lowerMap.apply c
    image ++ lowerFrom (if isCaseIgnorable c then inWord else isCased c) rest

/-- Lower case. -/
def lower (s : Text) : Text :=
  lowerFrom false s

end RouteMask.Text
