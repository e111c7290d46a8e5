import KanjiPuzzle.Attempt
import KanjiPuzzle.Json.Shown

set_option autoImplicit false

/- The fields of a JSON object as numbers, texts and members of a vocabulary. Where a number is called for, one with a
   point loses what follows it, and a text is read as a numeral, whose length is looked at first. -/
namespace KanjiPuzzle.Json

def field (key : String) : Json → Attempt Json
  | .object members =>
      match member? key (.object members) with
      | some value => .ok value
      | none => .error (.noEntry key)
  | _ => .error .wrongShape

def asInteger : Json → Attempt Int
  | .bool b => .ok (if b then 1 else 0)
  | .integer n => .ok n
  | .real x =>
      match x with
      | .undefined => .error .undefinedNumber
      | .infinite _ => .error .infiniteNumber
      | .finite negative mantissa exponent =>
          match (Number.Binary64.finite negative mantissa exponent).whole? with
          | some n => .ok n
          | none => .error .undefinedNumber
  | .text s =>
      match Text.readNumeral? s.toList with
      | none => .error (.notANumeral s)
      | some (n, rest) =>
          if Text.digitLimit < n.digits.length then .error (.tooManyDigits n.digits.length)
          else if rest.all Text.isBlank then .ok n.value
          else .error (.notANumeral s)
  | _ => .error .wrongShape

def asMember {α : Type} (v : Vocabulary α) (j : Json) : Attempt α :=
  let unknown := Except.error (.notAMember (shown j) v.name)
  match j with
  | .text w =>
      match v.ofWord? w with
      | some a => .ok a
      | none => unknown
  | _ => unknown

end KanjiPuzzle.Json
