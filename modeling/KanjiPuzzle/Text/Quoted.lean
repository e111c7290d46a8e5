import KanjiPuzzle.Text.Points
import KanjiPuzzle.Text.Printable

set_option autoImplicit false

/- Quoted text: how a message shows a piece of text so that its ends and its invisible characters can be seen. -/
namespace KanjiPuzzle.Text

def hexDigit (n : Nat) : Char :=
  if n < 10 then Char.ofNat (48 + n) else Char.ofNat (87 + n)

def hex : Nat → Nat → List Char
  | 0, _ => []
  | width + 1, n => hex width (n / 16) ++ [hexDigit (n % 16)]

theorem hex_length (width n : Nat) : (hex width n).length = width := by
  induction width generalizing n with
  | zero => rfl
  | succ width ih => simp [hex, ih]

def quoteMark (s : List Char) : Char :=
  if s.contains '\x27' && !s.contains '"' then '"' else '\x27'

def quotedChar (mark c : Char) : List Char :=
  if c = mark ∨ c = '\\' then ['\\', c]
  else if c = '\n' then ['\\', 'n']
  else if c = '\r' then ['\\', 'r']
  else if c = '\t' then ['\\', 't']
  else if isPrintable c then [c]
  else if c.toNat < 256 then '\\' :: 'x' :: hex 2 c.toNat
  else if c.toNat < 65536 then '\\' :: 'u' :: hex 4 c.toNat
  else '\\' :: 'U' :: hex 8 c.toNat

def quotedPoint (mark : Char) (n : Nat) : List Char :=
  if isHalf n then '\\' :: 'u' :: hex 4 n else quotedChar mark (Char.ofNat n)

def quoted (s : String) : String :=
  let mark := quoteMark s.toList
  String.ofList ([mark] ++ (points s.toList).flatMap (quotedPoint mark) ++ [mark])

end KanjiPuzzle.Text
