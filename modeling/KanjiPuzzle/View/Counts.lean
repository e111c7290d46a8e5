import KanjiPuzzle.Host
import KanjiPuzzle.State

set_option autoImplicit false

/- The board as numbers: for every cell and every definition of the catalog, how many entities of that definition stand
   there, modulo 256. Only counts that were ever raised are kept here; the host is asked for all of them. -/
namespace KanjiPuzzle

structure Counter where
  cell : Cell
  place : Nat
deriving DecidableEq, Repr

def Counter.before (a b : Counter) : Bool :=
  decide (a.cell.y < b.cell.y) || (decide (a.cell.y = b.cell.y) &&
    (decide (a.cell.x < b.cell.x) || (decide (a.cell.x = b.cell.x) && decide (a.place < b.place))))

abbrev Tally := List (Counter × UInt8)

namespace Tally

def bump (counter : Counter) : Tally → Tally
  | [] => [(counter, 1)]
  | (here, count) :: rest =>
      if here = counter then (here, count + 1) :: rest
      else if counter.before here then (counter, 1) :: (here, count) :: rest
      else (here, count) :: bump counter rest

def count (counter : Counter) : Tally → UInt8
  | [] => 0
  | (here, count) :: rest => (if here = counter then count else 0) + Tally.count counter rest

end Tally

structure Counts where
  extent : Extent
  depth : Nat
  tally : Tally
deriving DecidableEq, Repr

namespace Counts

def measures (extent : Extent) (depth : Nat) : List Int := [extent.height, extent.width, depth]

def zero (extent : Extent) (depth : Nat) : Counts := ⟨extent, depth, []⟩

def bump (c : Counts) (cell : Cell) (place : Nat) : Counts := { c with tally := c.tally.bump ⟨cell, place⟩ }

def get? (c : Counts) (cell : Cell) (place : Nat) : Option UInt8 :=
  if c.extent.contains cell && place < c.depth then some (Tally.count ⟨cell, place⟩ c.tally) else none

end Counts

def State.placeInCatalog (s : State) (id : EntityId) : Attempt Nat := do
  let definition ← s.definitionIdOf id
  match s.catalog.index? definition with
  | some k => .ok k
  | none => .error (.noEntry definition)

def State.counts (host : Host) (s : State) : Attempt Counts := do
  host.zeros (Counts.measures s.extent s.catalog.size)
  let seen := s.positions.entries.filter fun entry => s.onBoard entry.2
  let places ← Attempt.each (fun entry => do .ok (entry.2, ← s.placeInCatalog entry.1)) seen
  .ok (places.foldl (fun c place => c.bump place.1 place.2) (Counts.zero s.extent s.catalog.size))

end KanjiPuzzle
