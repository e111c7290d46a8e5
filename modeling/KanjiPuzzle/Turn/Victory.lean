import KanjiPuzzle.State.Traits

set_option autoImplicit false

/- Victory. The level is cleared when the player shares a cell with something to be reached. While nobody is the player,
   anything with the player's property counts as one. -/
namespace KanjiPuzzle.Victory

def message : String := "You Win!"

def reaches (s : State) (ids : List EntityId) (id : EntityId) : Attempt Bool :=
  Attempt.exists? s.isWinContact (ids.filter (· != id))

def clears (s : State) (ids : List EntityId) (id : EntityId) : Attempt Bool := do
  if ← s.has .you id then reaches s ids id else .ok false

def winningCell? (s : State) : Attempt (Option Cell) :=
  match s.player.bind fun id => (s.positions.get? id).map fun cell => (id, cell) with
  | some (id, cell) => do .ok (if ← reaches s (s.entitiesAt cell) id then some cell else none)
  | none => do
      let cells ← s.occupiedCells
      let found ← Attempt.first? (fun entry => Attempt.exists? (clears s entry.2) entry.2) cells
      .ok (found.map Prod.fst)

def run (s : State) : Attempt State :=
  if s.won then .ok s
  else do
    match ← winningCell? s with
    | none => .ok s
    | some cell => .ok ({ s with won := true }.report ⟨.win, message, [cell]⟩)

end KanjiPuzzle.Victory
