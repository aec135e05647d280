/-!
# Lists of keys and values

A keyed list holds one value under each key, in the order in which the keys first came. Putting
a value under a key that is there replaces the old value where it stands.
-/

namespace DiagServer.Keyed

variable {α β : Type} [DecidableEq α]

/-- Put a value under a key: in the place of the old one, or at the end. -/
def put (key : α) (value : β) : List (α × β) → List (α × β)
  | [] => [(key, value)]
  | (k, v) :: rest => if k = key then (key, value) :: rest else (k, v) :: put key value rest

/-- The value under a key. -/
def find? (key : α) : List (α × β) → Option β
  | [] => none
  | (k, v) :: rest => if k = key then some v else find? key rest

/-- The list without a key. -/
def erase (key : α) (entries : List (α × β)) : List (α × β) :=
  entries.filter fun e => e.1 ≠ key

end DiagServer.Keyed
