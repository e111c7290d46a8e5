import KanjiPuzzle.Number.Binary64

set_option autoImplicit false

/- The shortest decimal that lies in the interval of values that round to a binary number, and of several the nearest
   one, with its written form. -/
namespace KanjiPuzzle.Number

-- A positive finite number as quarters of its last place, with the ends of the interval that rounds to it. The
-- ends belong to the interval when the mantissa is even.
structure Interval where
  low : Nat
  middle : Nat
  high : Nat
  exponent : Int
  closed : Bool
deriving DecidableEq, Repr

def Interval.around (mantissa : Nat) (exponent : Int) : Interval :=
  let below := if 2 * mantissa = Binary64.mantissaBound ∧ Binary64.leastExponent < exponent then 1 else 2
  ⟨4 * mantissa - below, 4 * mantissa, 4 * mantissa + 2, exponent - 2, mantissa % 2 == 0⟩

def Interval.cleared (i : Interval) (point digits : Nat) (power : Int) : Nat × Nat :=
  (point * Nat.pow 2 i.exponent.toNat * Nat.pow 10 (-power).toNat,
    digits * Nat.pow 10 power.toNat * Nat.pow 2 (-i.exponent).toNat)

def Interval.holds (i : Interval) (digits : Nat) (power : Int) : Bool :=
  let low := i.cleared i.low digits power
  let high := i.cleared i.high digits power
  if i.closed then low.1 ≤ low.2 && high.2 ≤ high.1 else low.1 < low.2 && high.2 < high.1

def Interval.floor (i : Interval) (power : Int) : Nat :=
  let sides := i.cleared i.middle 1 power
  sides.1 / sides.2

def Interval.prefersFloor (i : Interval) (digits : Nat) (power : Int) : Bool :=
  let sides := i.cleared (2 * i.middle) (2 * digits + 1) power
  sides.1 < sides.2 || (sides.1 == sides.2 && digits % 2 == 0)

def Interval.onGrid? (i : Interval) (power : Int) : Option Nat :=
  let digits := i.floor power
  match i.holds digits power, i.holds (digits + 1) power with
  | true, true => some (if i.prefersFloor digits power then digits else digits + 1)
  | true, false => some digits
  | false, true => some (digits + 1)
  | false, false => none

def Interval.search (i : Interval) : Nat → Int → Nat × Int
  | 0, power => (i.floor power, power)
  | count + 1, power =>
      match i.onGrid? power with
      | some digits => (digits, power)
      | none => i.search count (power - 1)

-- The power of ten of the leading digit. Scaling by ten to the 340 makes every positive number at least one.
def Interval.leadingPower (i : Interval) : Int :=
  ((Nat.toDigits 10 (i.floor (-340))).length : Int) - 341

def shortest (mantissa : Nat) (exponent : Int) : Nat × Int :=
  let interval := Interval.around mantissa exponent
  interval.search 17 interval.leadingPower

def dropTrailingZeros (digits : List Char) : List Char :=
  (digits.reverse.dropWhile (· = '0')).reverse

def exponentText (power : Int) : List Char :=
  let digits := Nat.toDigits 10 power.natAbs
  (if power < 0 then '-' else '+') :: (if digits.length < 2 then '0' :: digits else digits)

def layout (digits : List Char) (leading : Int) : List Char :=
  let shown := dropTrailingZeros digits
  if leading < -4 ∨ 16 ≤ leading then
    let fraction := shown.drop 1
    shown.take 1 ++ (if fraction.isEmpty then [] else '.' :: fraction) ++ 'e' :: exponentText leading
  else if leading < 0 then
    '0' :: '.' :: List.replicate (-leading - 1).toNat '0' ++ shown
  else
    let places := leading.toNat + 1
    let fraction := shown.drop places
    shown.take places ++ List.replicate (places - shown.length) '0' ++
      '.' :: (if fraction.isEmpty then ['0'] else fraction)

structure Spelling where
  undefined : String
  infinity : String

def Binary64.text (spelling : Spelling) : Binary64 → String
  | .undefined => spelling.undefined
  | .infinite negative => (if negative then "-" else "") ++ spelling.infinity
  | .finite negative mantissa exponent =>
      let body :=
        if mantissa = 0 then ['0', '.', '0']
        else
          let decimal := shortest mantissa exponent
          let digits := Nat.toDigits 10 decimal.1
          layout digits (decimal.2 + digits.length - 1)
      String.ofList (if negative then '-' :: body else body)

end KanjiPuzzle.Number
