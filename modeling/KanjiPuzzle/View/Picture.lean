import KanjiPuzzle.Host
import KanjiPuzzle.State

set_option autoImplicit false

/- The board as text, a line for each row and a glyph for each cell: that of the lowest id, or a full stop. -/
namespace KanjiPuzzle

namespace Picture

def blank (e : Extent) : List (List String) := e.rows.map fun _ => e.columns.map fun _ => "."

def canvas (host : Host) (e : Extent) : Attempt (List (List String)) :=
  if 0 < e.height && !Host.isLength e.width then .error .lengthOutOfRange
  else do
    host.rows e
    .ok (blank e)

def paint (rows : List (List String)) (cell : Cell) (glyph : String) : List (List String) :=
  rows.modify cell.y.toNat fun row => row.set cell.x.toNat glyph

def text (rows : List (List String)) : String := "\n".intercalate (rows.map String.join)

end Picture

def State.glyphAt (s : State) (entry : EntityId × Cell) : Attempt (Cell × String) := do
  .ok (entry.2, (← s.definitionOf entry.1).glyph)

-- Painted from the highest id down, so that lower ids cover higher ones.
def State.picture (host : Host) (s : State) : Attempt String := do
  let canvas ← Picture.canvas host s.extent
  let seen := s.positions.entries.reverse.filter fun entry => s.onBoard entry.2
  let glyphs ← Attempt.each s.glyphAt seen
  .ok (Picture.text (glyphs.foldl (fun rows glyph => Picture.paint rows glyph.1 glyph.2) canvas))

end KanjiPuzzle
