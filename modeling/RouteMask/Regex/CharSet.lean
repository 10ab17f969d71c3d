import RouteMask.Text
import RouteMask.Unicode.CaseOrbit
import RouteMask.Unicode.Category
import RouteMask.Unicode.Ranges
import RouteMask.Unicode.Script

/-! # Character sets

The sets that a regular expression tests a character against: ranges, unions, complements, and the
closure of a set under change of case.  Sets are kept as expressions; `CharSet.has` decides
membership of a code point.

* `CharSet.has_closure`: a code point is in the closure exactly when some member of its case orbit
  is in the set.
* `posixClass?`, `shorthand?` and `unicodeClass?` look up the named sets. -/

namespace RouteMask

open Unicode

/-- A set of code points. -/
inductive CharSet where
  | ranges (rs : Ranges)
  | union (a b : CharSet)
  | compl (a : CharSet)
  | closure (a : CharSet)

namespace CharSet

/-- Membership of a code point. -/
def has : CharSet → Nat → Bool
  | ranges rs, n => rs.has n
  | union a b, n => a.has n || b.has n
  | compl a, n => !a.has n
  | closure a, n => a.has n || (orbit n).any a.has

/-- The empty set. -/
def none : CharSet := ranges []

/-- Every code point. -/
def all : CharSet := compl none

/-- One code point, or its whole case orbit. -/
def single (ignoreCase : Bool) (n : Nat) : CharSet :=
  ranges ((if ignoreCase then orbit n else [n]).map fun m => (m, m))

/-- The set itself, or its closure under change of case. -/
def closed (ignoreCase : Bool) (a : CharSet) : CharSet :=
  if ignoreCase then closure a else a

/-- A set with a sign: the closed set when positive, its complement when negative. -/
def signed (ignoreCase positive : Bool) (a : CharSet) : CharSet :=
  if positive then closed ignoreCase a else compl (closed ignoreCase a)

@[simp] theorem has_ranges (rs : Ranges) (n : Nat) : (ranges rs).has n = rs.has n := rfl

@[simp] theorem has_union (a b : CharSet) (n : Nat) : (union a b).has n = (a.has n || b.has n) := rfl

@[simp] theorem has_compl (a : CharSet) (n : Nat) : (compl a).has n = !a.has n := rfl

@[simp] theorem has_none (n : Nat) : none.has n = false := rfl

@[simp] theorem has_all (n : Nat) : all.has n = true := rfl

@[simp] theorem has_closure (a : CharSet) (n : Nat) :
    (closure a).has n = (orbit n).any a.has := by
  simp only [has]
  cases h : a.has n with
  | false => simp
  | true => simpa using ⟨n, mem_orbit n, h⟩

theorem has_single_true (n m : Nat) : (single true n).has m = true ↔ m ∈ orbit n := by
  simp only [single, if_pos, has_ranges, Ranges.has_iff, List.mem_map]
  constructor
  · rintro ⟨_, ⟨a, ha, rfl⟩, h₁, h₂⟩
    obtain rfl : a = m := Nat.le_antisymm h₁ h₂
    exact ha
  · exact fun h => ⟨_, ⟨m, h, rfl⟩, Nat.le_refl m, Nat.le_refl m⟩

theorem has_single_false (n m : Nat) : (single false n).has m = true ↔ m = n := by
  simp [single, Ranges.has]
  omega

/-! ### Named sets -/

/-- The code points of word characters: ASCII letters, digits and the underscore. -/
def wordRanges : Ranges := [(0x30, 0x39), (0x41, 0x5A), (0x5F, 0x5F), (0x61, 0x7A)]

/-- The set that a backslash and one letter stand for, with its sign. -/
def shorthand? : Char → Option (Ranges × Bool)
  | 'd' => some ([(0x30, 0x39)], true)
  | 'D' => some ([(0x30, 0x39)], false)
  | 's' => some ([(0x9, 0xA), (0xC, 0xD), (0x20, 0x20)], true)
  | 'S' => some ([(0x9, 0xA), (0xC, 0xD), (0x20, 0x20)], false)
  | 'w' => some (wordRanges, true)
  | 'W' => some (wordRanges, false)
  | _ => .none

/-- The sets that a name between `[:` and `:]` stands for. -/
def posixClasses : List (String × Ranges) := [
  ("alnum", [(0x30, 0x39), (0x41, 0x5A), (0x61, 0x7A)]),
  ("alpha", [(0x41, 0x5A), (0x61, 0x7A)]),
  ("ascii", [(0x0, 0x7F)]),
  ("blank", [(0x9, 0x9), (0x20, 0x20)]),
  ("cntrl", [(0x0, 0x1F), (0x7F, 0x7F)]),
  ("digit", [(0x30, 0x39)]),
  ("graph", [(0x21, 0x7E)]),
  ("lower", [(0x61, 0x7A)]),
  ("print", [(0x20, 0x7E)]),
  ("punct", [(0x21, 0x2F), (0x3A, 0x40), (0x5B, 0x60), (0x7B, 0x7E)]),
  ("space", [(0x9, 0xD), (0x20, 0x20)]),
  ("upper", [(0x41, 0x5A)]),
  ("word", wordRanges),
  ("xdigit", [(0x30, 0x39), (0x41, 0x46), (0x61, 0x66)])]

/-- The set of a name, with its sign: a leading `^` negates. -/
def posixClass? (name : Text) : Option (Ranges × Bool) :=
  match name with
  | '^' :: plain => (find plain).map (·, false)
  | plain => (find plain).map (·, true)
where
  find (plain : Text) : Option Ranges :=
    (posixClasses.find? fun entry => entry.1.toList == plain).map (·.2)

/-- The set of a general category, a script, or `Any`. -/
def unicodeClass? (name : Text) : Option Ranges :=
  if name = "Any".toList then some [(0x0, 0x10FFFF)]
  else (category? name).or (script? name)

end CharSet

end RouteMask
