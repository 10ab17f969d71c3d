/-! # A bounded memo

A cache remembers the results of a computation that may fail, by key.  It holds at most `capacity`
results and makes room by dropping the one that was stored first; failures are not remembered.

Asking for a key (`Cache.get`) takes two atomic steps with the computation between them: a look-up
(`Cache.find?`), and a settlement (`Cache.settle`), which looks again before it stores.  In between
other clients may take steps of their own; `Cache.getAround` is the case that another request for the
same key runs from start to end there.

Every stored result has a ticket, the number of results stored before it, so that results that were
computed twice can be told apart. -/

namespace RouteMask

/-- A result and the number of results that were stored before it. -/
structure Stored (ν : Type) where
  value : ν
  ticket : Nat

/-- A cache from keys `κ` to results `ν`. -/
structure Cache (κ ν : Type) where
  capacity : Nat
  /-- The entries, oldest first. -/
  entries : List (κ × Stored ν)
  /-- The number of results stored since the beginning. -/
  stores : Nat

/-- A cache was asked for that could hold nothing. -/
structure CapacityError where
  capacity : Int
deriving DecidableEq

/-- The wording of an error. -/
def CapacityError.message (e : CapacityError) : String :=
  s!"maxsize must be positive, got {e.capacity}"

namespace Cache

variable {κ ν ε : Type} [DecidableEq κ]

/-- The empty cache. -/
def empty (capacity : Nat) : Cache κ ν := ⟨capacity, [], 0⟩

/-- The empty cache of a capacity that has to be positive. -/
def make (capacity : Int) : Except CapacityError (Cache κ ν) :=
  if capacity < 1 then .error ⟨capacity⟩ else .ok (empty capacity.toNat)

/-- The keys, oldest first. -/
def keys (c : Cache κ ν) : List κ :=
  c.entries.map (·.1)

/-- The number of entries. -/
def size (c : Cache κ ν) : Nat :=
  c.entries.length

/-- Whether a key has an entry. -/
def contains (c : Cache κ ν) (k : κ) : Bool :=
  c.keys.contains k

/-- The result that is stored for a key. -/
def find? (c : Cache κ ν) (k : κ) : Option (Stored ν) :=
  c.entries.lookup k

/-- Drop the oldest entries until the capacity is kept. -/
def trim (c : Cache κ ν) : Cache κ ν :=
  { c with entries := c.entries.drop (c.entries.length - c.capacity) }

/-- Store a result as the newest entry. -/
def store (c : Cache κ ν) (k : κ) (v : ν) : Cache κ ν :=
  trim { c with entries := c.entries ++ [(k, ⟨v, c.stores⟩)], stores := c.stores + 1 }

/-- Give the stored result, or else store the one that has been computed. -/
def settle (c : Cache κ ν) (k : κ) (v : ν) : Stored ν × Cache κ ν :=
  match c.find? k with
  | some stored => (stored, c)
  | none => (⟨v, c.stores⟩, c.store k v)

/-- Give the result for a key, computing it when it is not stored. -/
def get (compute : κ → Except ε ν) (c : Cache κ ν) (k : κ) :
    Except ε (Stored ν) × Cache κ ν :=
  match c.find? k with
  | some stored => (.ok stored, c)
  | none =>
    match compute k with
    | .ok v => (.ok (c.settle k v).1, (c.settle k v).2)
    | .error e => (.error e, c)

/-- Give the results of two requests for a key, the second of which runs while the first is
computing. -/
def getAround (compute : κ → Except ε ν) (c : Cache κ ν) (k : κ) :
    Except ε (Stored ν × Stored ν) × Cache κ ν :=
  match c.find? k with
  | some stored => (.ok (stored, stored), c)
  | none =>
    match compute k, c.get compute k with
    | .ok v, (.ok inner, c) => (.ok ((c.settle k v).1, inner), (c.settle k v).2)
    | .error e, (_, c) => (.error e, c)
    | .ok _, (.error e, c) => (.error e, c)

/-- Forget all entries. -/
def clear (c : Cache κ ν) : Cache κ ν :=
  { c with entries := [] }

/-- The keys that were dropped on the way from one state to a later one without `clear`. -/
def dropped (before after : Cache κ ν) : List κ :=
  before.keys.filter fun k => !after.contains k

end Cache

end RouteMask
