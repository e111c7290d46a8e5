import KanjiPuzzle.Level

set_option autoImplicit false

/- From a level to a game and back. Entities are numbered from one in the order of the placements; what a game is turned
   back into leaves out what lies off the board. -/
namespace KanjiPuzzle

def Level.numbered (first : EntityId) : List Placement → List (EntityId × Placement)
  | [] => []
  | p :: rest => (first, p) :: numbered (first + 1) rest

def Level.toState (l : Level) (catalog : Catalog) : Attempt State := do
  let _ ← Attempt.each (fun p => catalog.get p.definition) l.placements
  let entities := Level.numbered 1 l.placements
  .ok {
    heading := l.heading
    extent := l.extent
    catalog
    definitions := .ofList (entities.map fun entry => (entry.1, entry.2.definition))
    positions := .ofList (entities.map fun entry => (entry.1, entry.2.cell))
    starts := .empty
    nextId := l.placements.length + 1
    rules := []
    effects := .none
    player := none
    goal := none
    moves := 0
    won := false
    events := [] }

def State.toLevel (s : State) : Attempt Level := do
  let shown := s.positions.entries.filter fun entry => s.onBoard entry.2
  let placements ← Attempt.each (fun entry => do .ok ⟨← s.definitionIdOf entry.1, entry.2⟩) shown
  .ok ⟨s.heading, s.extent, placements⟩

end KanjiPuzzle
