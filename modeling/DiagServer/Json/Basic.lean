import DiagServer.Decimal.Binary64

/-!
# JSON values

A number is an integer or a double, told apart by how it was written. The members of an object
stand in the order of their names, each name once; `Json.object` brings any list of members
into that form, the last of several members of one name winning.
-/

namespace DiagServer

open Decimal

/-- A JSON value. -/
inductive Json where
  | null
  | bool (b : Bool)
  | int (i : Int)
  | double (x : Binary64)
  | str (s : String)
  | arr (items : List Json)
  | obj (members : List (String × Json))
deriving Repr, Inhabited

namespace Json

/-- Put a member in front of members that start with the next greater name or with the same
one; there the later member stays. -/
def keepLast {α : Type} (m : String × α) (rest : List (String × α)) : List (String × α) :=
  match rest with
  | [] => [m]
  | n :: _ => if m.1 = n.1 then rest else m :: rest

/-- Members in the order of their names, the last of each name. -/
def sortMembers {α : Type} (ms : List (String × α)) : List (String × α) :=
  (ms.mergeSort fun a b => decide (a.1 ≤ b.1)).foldr keepLast []

/-- The object with these members. -/
def object (ms : List (String × Json)) : Json := .obj (sortMembers ms)

/-- The member of this name, if the value is an object that has it. -/
def member? (name : String) : Json → Option Json
  | .obj ms => ms.lookup name
  | _ => none

/-- The text, if the value is one. -/
def text? : Json → Option String
  | .str s => some s
  | _ => none

end Json

end DiagServer
