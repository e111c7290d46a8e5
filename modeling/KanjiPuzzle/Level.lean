import KanjiPuzzle.Attempt
import KanjiPuzzle.Json.Writer
import KanjiPuzzle.State

set_option autoImplicit false

/- Levels as they are written: placements in the order in which they were made, the later ones on top of the others in
   their cell. A placement may name an unknown definition or lie off the board. -/
namespace KanjiPuzzle

structure Placement where
  definition : DefinitionId
  cell : Cell
deriving DecidableEq, Repr

structure Level where
  heading : Heading
  extent : Extent
  placements : List Placement
deriving Repr

namespace Level

def told (l : Level) (cell : Cell) : List Int := [cell.x, cell.y, l.extent.width, l.extent.height]

def inside (l : Level) (cell : Cell) : Attempt Unit :=
  if l.extent.contains cell then .ok ()
  else .error (Fault.written (l.told cell) (.outOfBounds cell l.extent))

def place (l : Level) (definition : DefinitionId) (cell : Cell) : Attempt Level := do
  l.inside cell
  .ok { l with placements := l.placements ++ [⟨definition, cell⟩] }

def erase (l : Level) (cell : Cell) : Attempt Level := do
  l.inside cell
  .ok { l with placements := (l.placements.reverse.eraseP fun p => decide (p.cell = cell)).reverse }

def placementsAt (l : Level) (cell : Cell) : Attempt (List Placement) := do
  l.inside cell
  .ok (l.placements.filter fun p => decide (p.cell = cell))

def same (a b : Level) : Bool :=
  a.heading.id == b.heading.id && a.heading.name == b.heading.name && a.heading.hint.same b.heading.hint &&
    a.extent == b.extent && a.placements == b.placements

end Level

end KanjiPuzzle
