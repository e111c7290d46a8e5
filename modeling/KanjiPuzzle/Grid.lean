set_option autoImplicit false

/- The board's plane. A board is the rectangle of its width and height from the cell (0, 0), and has no cells where
   either is zero or negative. -/
namespace KanjiPuzzle

structure Offset where
  dx : Int
  dy : Int
deriving DecidableEq, Repr

structure Cell where
  x : Int
  y : Int
deriving DecidableEq, Repr, Inhabited

namespace Cell

def shift (c : Cell) (o : Offset) : Cell := ⟨c.x + o.dx, c.y + o.dy⟩

def back (c : Cell) (o : Offset) : Cell := ⟨c.x - o.dx, c.y - o.dy⟩

def distance (a b : Cell) : Nat := (a.x - b.x).natAbs + (a.y - b.y).natAbs

theorem back_shift (c : Cell) (o : Offset) : (c.shift o).back o = c := by
  rcases c with ⟨x, y⟩
  simp only [shift, back, Cell.mk.injEq]
  omega

theorem shift_back (c : Cell) (o : Offset) : (c.back o).shift o = c := by
  rcases c with ⟨x, y⟩
  simp only [shift, back, Cell.mk.injEq]
  omega

theorem distance_comm (a b : Cell) : a.distance b = b.distance a := by
  unfold distance
  omega

theorem distance_eq_zero_iff (a b : Cell) : a.distance b = 0 ↔ a = b := by
  rcases a with ⟨ax, ay⟩
  rcases b with ⟨bx, b_y⟩
  simp only [distance, Cell.mk.injEq]
  omega

end Cell

structure Extent where
  width : Int
  height : Int
deriving DecidableEq, Repr

namespace Extent

def contains (e : Extent) (c : Cell) : Bool :=
  decide (0 ≤ c.x) && decide (c.x < e.width) && decide (0 ≤ c.y) && decide (c.y < e.height)

theorem contains_iff (e : Extent) (c : Cell) :
    e.contains c = true ↔ (0 ≤ c.x ∧ c.x < e.width) ∧ 0 ≤ c.y ∧ c.y < e.height := by
  simp [contains, and_assoc]

def upTo (bound : Int) : List Int := (List.range bound.toNat).map Int.ofNat

theorem mem_up_to (bound n : Int) : n ∈ upTo bound ↔ 0 ≤ n ∧ n < bound := by
  simp only [upTo, List.mem_map, List.mem_range]
  constructor
  · rintro ⟨k, below, rfl⟩
    simp only [Int.ofNat_eq_natCast]
    omega
  · rintro ⟨nonnegative, below⟩
    exact ⟨n.toNat, by omega, by simp only [Int.ofNat_eq_natCast]; omega⟩

def rows (e : Extent) : List Int := upTo e.height

def columns (e : Extent) : List Int := upTo e.width

end Extent

inductive Direction where
  | up
  | down
  | left
  | right
deriving DecidableEq, Repr

def Direction.offset : Direction → Offset
  | .up => ⟨0, -1⟩
  | .down => ⟨0, 1⟩
  | .left => ⟨-1, 0⟩
  | .right => ⟨1, 0⟩

inductive Axis where
  | horizontal
  | vertical
deriving DecidableEq, Repr

def Axis.offset : Axis → Offset
  | .horizontal => ⟨1, 0⟩
  | .vertical => ⟨0, 1⟩

end KanjiPuzzle
