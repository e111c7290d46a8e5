import KanjiPuzzle.Number.Binary64

set_option autoImplicit false

/- JSON values. Whole numbers are exact and kept apart from numbers with a point, and an object keeps its members in the
   order in which their keys first came. -/
namespace KanjiPuzzle

inductive Json where
  | null
  | bool (value : Bool)
  | integer (value : Int)
  | real (value : Number.Binary64)
  | text (value : String)
  | array (items : List Json)
  | object (members : List (String × Json))
deriving Inhabited, Repr

namespace Json

def isNull : Json → Bool
  | .null => true
  | _ => false

def putMember (key : String) (value : Json) : List (String × Json) → List (String × Json)
  | [] => [(key, value)]
  | (k, v) :: rest => if k = key then (k, value) :: rest else (k, v) :: putMember key value rest

def collect (members : List (String × Json)) : List (String × Json) :=
  members.foldl (fun acc m => putMember m.1 m.2 acc) []

def member? (key : String) : Json → Option Json
  | .object members => (members.find? fun m => m.1 == key).map Prod.snd
  | _ => none

def ofNat (n : Nat) : Json := .integer n

def ofOption {α : Type} (encode : α → Json) : Option α → Json
  | none => .null
  | some a => encode a

mutual
-- Equality of values. A whole number never equals one with a point.
def same : Json → Json → Bool
  | .null, .null => true
  | .bool a, .bool b => a == b
  | .integer a, .integer b => a == b
  | .real a, .real b => a.same b
  | .text a, .text b => a == b
  | .array a, .array b => sameItems a b
  | .object a, .object b => sameMembers a b
  | _, _ => false

def sameItems : List Json → List Json → Bool
  | [], [] => true
  | a :: as, b :: bs => same a b && sameItems as bs
  | _, _ => false

def sameMembers : List (String × Json) → List (String × Json) → Bool
  | [], [] => true
  | (k, a) :: as, (l, b) :: bs => k == l && same a b && sameMembers as bs
  | _, _ => false
end

end Json

end KanjiPuzzle
