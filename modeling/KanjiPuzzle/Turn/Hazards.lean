import KanjiPuzzle.State.Traits

set_option autoImplicit false

/- Hazards. What sinks takes everything in its cell with it that neither floats nor sinks, and itself; what melts is
   gone when something else in its cell is hot. -/
namespace KanjiPuzzle.Hazards

def drowned (s : State) (ids : List EntityId) : Attempt (List EntityId) := do
  match ← Attempt.select (s.has .sink) ids with
  | [] => .ok []
  | sinks =>
      match ← Attempt.select (fun id => do .ok (!(← s.has .float id) && !(← s.has .sink id))) ids with
      | [] => .ok []
      | victims => .ok (sinks ++ victims)

def melted (s : State) (ids : List EntityId) : Attempt (List EntityId) := do
  match ← Attempt.select (s.has .hot) ids with
  | [] => .ok []
  | hot => Attempt.select (fun id => do .ok ((← s.has .melt id) && hot.any (· != id))) ids

-- Every cell is judged on the board as it stood before; one event tells of each cell that lost an entity.
def strike (losses : State → List EntityId → Attempt (List EntityId)) (p : Property) (s : State) : Attempt State := do
  let cells ← s.occupiedCells
  let struck ← Attempt.each (fun entry => do .ok (entry.1, ← losses s entry.2)) cells
  let affected := struck.filter fun entry => !entry.2.isEmpty
  let message := s.catalog.propertyGlyph p ++ " triggered"
  .ok ((s.remove (affected.flatMap Prod.snd)).reportAll (affected.map fun entry => ⟨.blocked, message, [entry.1]⟩))

def sink (s : State) : Attempt State := strike drowned .sink s

def melt (s : State) : Attempt State := strike melted .melt s

end KanjiPuzzle.Hazards
