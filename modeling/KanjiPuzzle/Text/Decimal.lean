set_option autoImplicit false

/- Whole numbers written by a person: blanks around, one sign, decimal digits of any script, and single underscores
   between digits. -/
namespace KanjiPuzzle.Text

def zeros : List Nat :=
  [48, 1632, 1776, 1984, 2406, 2534, 2662, 2790, 2918, 3046, 3174, 3302, 3430, 3558, 3664, 3792, 3872, 4160, 4240,
   6112, 6160, 6470, 6608, 6784, 6800, 6992, 7088, 7232, 7248, 42528, 43216, 43264, 43472, 43504, 43600, 44016, 65296,
   66720, 68912, 69734, 69872, 69942, 70096, 70384, 70736, 70864, 71248, 71360, 71472, 71904, 72016, 72784, 73040,
   73120, 92768, 92864, 93008, 120782, 120792, 120802, 120812, 120822, 123200, 123632, 125264, 130032]

def digitValue? (c : Char) : Option Nat :=
  (zeros.find? fun start => start ≤ c.toNat && c.toNat < start + 10).map (c.toNat - ·)

def blanks : List Nat :=
  [9, 10, 11, 12, 13, 32, 133, 160, 5760, 8192, 8193, 8194, 8195, 8196, 8197, 8198, 8199, 8200, 8201, 8202, 8232, 8233,
   8239, 8287, 12288]

def isBlank (c : Char) : Bool := blanks.contains c.toNat

def digits? : List Char → Option (List Nat)
  | [] => none
  | [c] => (digitValue? c).map fun d => [d]
  | c :: '_' :: rest => do
      let d ← digitValue? c
      let ds ← digits? rest
      some (d :: ds)
  | c :: next :: rest => do
      let d ← digitValue? c
      let ds ← digits? (next :: rest)
      some (d :: ds)

def ofDigits (ds : List Nat) : Nat := ds.foldl (fun n d => 10 * n + d) 0

structure Numeral where
  negative : Bool
  digits : List Nat
deriving DecidableEq, Repr

def Numeral.value (n : Numeral) : Int :=
  if n.negative then -(ofDigits n.digits : Int) else (ofDigits n.digits : Int)

-- A number written with more digits is refused, leading zeros counted.
def digitLimit : Nat := 4300

def isWritable (n : Int) : Bool := (Nat.toDigits 10 n.natAbs).length ≤ digitLimit

theorem to_digits_length_le_iff (n k : Nat) (positive : 0 < k) :
    (Nat.toDigits 10 n).length ≤ k ↔ n < Nat.pow 10 k :=
  Nat.length_toDigits_le_iff (by decide) positive

theorem is_writable_iff (n : Int) : isWritable n = true ↔ n.natAbs < Nat.pow 10 digitLimit := by
  rw [isWritable, decide_eq_true_iff, to_digits_length_le_iff n.natAbs digitLimit (by decide)]

theorem power_not_writable : isWritable (Nat.pow 10 digitLimit : Nat) = false := by
  rw [Bool.eq_false_iff, ne_eq, is_writable_iff, Int.natAbs_natCast]
  exact Nat.lt_irrefl _

def isNumeralChar (c : Char) : Bool := c == '_' || (digitValue? c).isSome

def readDigits? (negative : Bool) (cs : List Char) : Option (Numeral × List Char) :=
  (digits? (cs.takeWhile isNumeralChar)).map fun ds => (⟨negative, ds⟩, cs.dropWhile isNumeralChar)

def readNumeral? (cs : List Char) : Option (Numeral × List Char) :=
  match cs.dropWhile isBlank with
  | '-' :: rest => readDigits? true rest
  | '+' :: rest => readDigits? false rest
  | rest => readDigits? false rest

end KanjiPuzzle.Text
