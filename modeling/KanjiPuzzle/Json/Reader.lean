import KanjiPuzzle.Attempt
import KanjiPuzzle.Json.Value
import KanjiPuzzle.Text.Points

set_option autoImplicit false

/- Reading of JSON text. A whole number with too many digits is a fault of its own, found before anything that follows
   it. A call of the reader has used a character more than the call that made it, so the characters of the text are
   calls enough; how deep the calls are nested is left aside. -/
namespace KanjiPuzzle.Json

def isBlank (c : Char) : Bool := c == ' ' || c == '\t' || c == '\n' || c == '\r'

def skipBlanks (cs : List Char) : List Char := cs.dropWhile isBlank

def ofDigits (ds : List Char) : Nat := Nat.ofDigitChars 10 ds 0

def hexValue? (c : Char) : Option Nat :=
  if '0' ≤ c && c ≤ '9' then some (c.toNat - 48)
  else if 'a' ≤ c && c ≤ 'f' then some (c.toNat - 87)
  else if 'A' ≤ c && c ≤ 'F' then some (c.toNat - 55)
  else none

def readUnit : List Char → Option (Nat × List Char)
  | a :: b :: c :: d :: rest => do
      let a ← hexValue? a
      let b ← hexValue? b
      let c ← hexValue? c
      let d ← hexValue? d
      some (((a * 16 + b) * 16 + c) * 16 + d, rest)
  | _ => none

def isHigh (n : Nat) : Bool := 0xD800 ≤ n && n < 0xDC00
def isLow (n : Nat) : Bool := 0xDC00 ≤ n && n < 0xE000

-- A code unit after its escape mark, joined with the next one when the two form a pair. A unit that is half of a
-- pair without its other half is a code point by itself.
def readCodePoint (cs : List Char) : Option (Nat × List Char) :=
  match readUnit cs with
  | none => none
  | some (high, rest) =>
      match rest with
      | '\\' :: 'u' :: more =>
          match readUnit more with
          | some (low, after) =>
              if isHigh high && isLow low then
                some (0x10000 + (high - 0xD800) * 0x400 + (low - 0xDC00), after)
              else some (high, rest)
          | none => some (high, rest)
      | _ => some (high, rest)

def readEscape : List Char → Option (List Char × List Char)
  | '"' :: rest => some (['"'], rest)
  | '\\' :: rest => some (['\\'], rest)
  | '/' :: rest => some (['/'], rest)
  | 'b' :: rest => some (['\x08'], rest)
  | 'f' :: rest => some (['\x0c'], rest)
  | 'n' :: rest => some (['\n'], rest)
  | 'r' :: rest => some (['\r'], rest)
  | 't' :: rest => some (['\t'], rest)
  | 'u' :: rest => (readCodePoint rest).map fun r => (Text.spelled r.1, r.2)
  | _ => none

def readText : Nat → List Char → Option (List Char × List Char)
  | 0, _ => none
  | _ + 1, [] => none
  | fuel + 1, c :: rest =>
      if c = '"' then some ([], rest)
      else if c = '\\' then
        match readEscape rest with
        | none => none
        | some (e, after) => (readText fuel after).map fun r => (e ++ r.1, r.2)
      else if c.toNat < 32 then none
      else (readText fuel rest).map fun r => (c :: r.1, r.2)

def readFraction (cs : List Char) : List Char × List Char :=
  match cs with
  | '.' :: rest =>
      let digits := rest.takeWhile Char.isDigit
      if digits.isEmpty then ([], cs) else (digits, rest.dropWhile Char.isDigit)
  | _ => ([], cs)

def readExponentDigits (negative : Bool) (cs : List Char) : Option (Int × List Char) :=
  let digits := cs.takeWhile Char.isDigit
  if digits.isEmpty then none
  else some (if negative then -(ofDigits digits : Int) else ofDigits digits, cs.dropWhile Char.isDigit)

def readExponent : List Char → Option (Int × List Char)
  | c :: rest =>
      if c = 'e' ∨ c = 'E' then
        match rest with
        | '-' :: after => readExponentDigits true after
        | '+' :: after => readExponentDigits false after
        | _ => readExponentDigits false rest
      else none
  | [] => none

def ofWhole (negative : Bool) (digits : List Char) : Attempt Json :=
  if Text.digitLimit < digits.length then .error (.tooManyDigits digits.length)
  else .ok (.integer (if negative then -(ofDigits digits : Int) else ofDigits digits))

def magnitude (negative : Bool) (whole rest : List Char) : Attempt (Json × List Char) :=
  let fraction := readFraction rest
  match readExponent fraction.2 with
  | some (exponent, after) =>
      .ok (.real (.ofDecimal negative (ofDigits (whole ++ fraction.1)) (exponent - fraction.1.length)), after)
  | none =>
      if fraction.1.isEmpty then do
        let n ← ofWhole negative whole
        .ok (n, fraction.2)
      else .ok (.real (.ofDecimal negative (ofDigits (whole ++ fraction.1)) (-fraction.1.length)), fraction.2)

def readMagnitude (negative : Bool) : List Char → Attempt (Json × List Char)
  | '0' :: rest => magnitude negative ['0'] rest
  | 'I' :: 'n' :: 'f' :: 'i' :: 'n' :: 'i' :: 't' :: 'y' :: rest => .ok (.real (.infinite negative), rest)
  | cs =>
      let whole := cs.takeWhile Char.isDigit
      if whole.isEmpty then .error .malformedText else magnitude negative whole (cs.dropWhile Char.isDigit)

def readNumber : List Char → Attempt (Json × List Char)
  | '-' :: rest => readMagnitude true rest
  | 'N' :: 'a' :: 'N' :: rest => .ok (.real .undefined, rest)
  | cs => readMagnitude false cs

def readWord : List Char → Attempt (Json × List Char)
  | 'n' :: 'u' :: 'l' :: 'l' :: rest => .ok (.null, rest)
  | 't' :: 'r' :: 'u' :: 'e' :: rest => .ok (.bool true, rest)
  | 'f' :: 'a' :: 'l' :: 's' :: 'e' :: rest => .ok (.bool false, rest)
  | cs => readNumber cs

def readString (fuel : Nat) (cs : List Char) : Attempt (String × List Char) :=
  match readText fuel cs with
  | some (w, after) => .ok (String.ofList w, after)
  | none => .error .malformedText

def readKey (fuel : Nat) : List Char → Attempt (String × List Char)
  | '"' :: rest => do
      let (key, after) ← readString fuel rest
      match skipBlanks after with
      | ':' :: value => .ok (key, skipBlanks value)
      | _ => .error .malformedText
  | _ => .error .malformedText

mutual
def readValue : Nat → List Char → Attempt (Json × List Char)
  | 0, _ => .error .malformedText
  | _ + 1, [] => .error .malformedText
  | fuel + 1, c :: rest =>
      if c = '"' then do
        let (w, after) ← readString fuel rest
        .ok (.text w, after)
      else if c = '[' then
        match skipBlanks rest with
        | ']' :: after => .ok (.array [], after)
        | inside => do
            let (v, after) ← readValue fuel inside
            let (vs, after) ← readItems fuel (skipBlanks after)
            .ok (.array (v :: vs), after)
      else if c = '\x7b' then
        match skipBlanks rest with
        | '\x7d' :: after => .ok (.object [], after)
        | inside => do
            let (k, after) ← readKey fuel inside
            let (v, after) ← readValue fuel after
            let (ms, after) ← readMembers fuel (skipBlanks after)
            .ok (.object (collect ((k, v) :: ms)), after)
      else readWord (c :: rest)

def readItems : Nat → List Char → Attempt (List Json × List Char)
  | 0, _ => .error .malformedText
  | _ + 1, ']' :: rest => .ok ([], rest)
  | fuel + 1, ',' :: rest => do
      let (v, after) ← readValue fuel (skipBlanks rest)
      let (vs, after) ← readItems fuel (skipBlanks after)
      .ok (v :: vs, after)
  | _ + 1, _ => .error .malformedText

def readMembers : Nat → List Char → Attempt (List (String × Json) × List Char)
  | 0, _ => .error .malformedText
  | _ + 1, '\x7d' :: rest => .ok ([], rest)
  | fuel + 1, ',' :: rest => do
      let (k, after) ← readKey fuel (skipBlanks rest)
      let (v, after) ← readValue fuel after
      let (ms, after) ← readMembers fuel (skipBlanks after)
      .ok ((k, v) :: ms, after)
  | _ + 1, _ => .error .malformedText
end

def parse (s : String) : Attempt Json := do
  let (v, rest) ← readValue (s.toList.length + 1) (skipBlanks s.toList)
  if (skipBlanks rest).isEmpty then .ok v else .error .malformedText

end KanjiPuzzle.Json
