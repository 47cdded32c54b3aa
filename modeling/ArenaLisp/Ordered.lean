/-!
# Tables in order of arrival

A table is a list of keys with their values, in the order in which the keys first arrived.  Writing
to a key that is present changes its value and moves nothing; a new key goes to the end.

## Main definitions

- `Ordered`: the table; `Ordered.keys`, `Ordered.get?`: its keys and values.
- `Ordered.put`, `Ordered.erase`: a value written, a key removed.
-/

namespace ArenaLisp

/-- A table in order of arrival. -/
abbrev Ordered (κ α : Type) := List (κ × α)

namespace Ordered

/-- The keys, in order of arrival. -/
def keys (t : Ordered κ α) : List κ := t.map (·.1)

/-- The value of a key. -/
def get? [DecidableEq κ] (key : κ) : Ordered κ α → Option α
  | [] => none
  | (other, value) :: rest => if other = key then some value else get? key rest

/-- The table with a value written: a key that is present keeps its place. -/
def put [DecidableEq κ] (key : κ) (value : α) : Ordered κ α → Ordered κ α
  | [] => [(key, value)]
  | (other, old) :: rest =>
    if other = key then (key, value) :: rest else (other, old) :: put key value rest

/-- The table without a key. -/
def erase [DecidableEq κ] (key : κ) : Ordered κ α → Ordered κ α
  | [] => []
  | (other, value) :: rest => if other = key then rest else (other, value) :: erase key rest

end Ordered

end ArenaLisp
