import KanjiPuzzle.Catalog.Lookup
import KanjiPuzzle.Effects
import KanjiPuzzle.EntityMap
import KanjiPuzzle.Event
import KanjiPuzzle.Json.Value

set_option autoImplicit false

/- The whole of a game at one moment. An entity is an id with a definition and a cell; two roles are held by single
   entities: the player, who is moved, and the goal, who is to be reached. -/
namespace KanjiPuzzle

structure Heading where
  id : String
  name : String
  hint : Json
deriving Repr

inductive Role where
  | player
  | goal
deriving DecidableEq, Repr

def Role.property : Role → Property
  | .player => .you
  | .goal => .win

def Role.name : Role → String
  | .player => "Player"
  | .goal => "Goal"

structure State where
  heading : Heading
  extent : Extent
  catalog : Catalog
  definitions : EntityMap DefinitionId
  positions : EntityMap Cell
  starts : EntityMap Cell
  nextId : EntityId
  rules : List Rule
  effects : Effects
  player : Option EntityId
  goal : Option EntityId
  moves : Int
  won : Bool
  events : List Event
deriving Repr

namespace State

def holder (s : State) : Role → Option EntityId
  | .player => s.player
  | .goal => s.goal

def withHolder (s : State) (role : Role) (id : Option EntityId) : State :=
  match role with
  | .player => { s with player := id }
  | .goal => { s with goal := id }

def report (s : State) (e : Event) : State := { s with events := s.events ++ [e] }

def reportAll (s : State) (es : List Event) : State := es.foldl report s

def onBoard (s : State) (c : Cell) : Bool := s.extent.contains c

def cellOf (s : State) (id : EntityId) : Attempt Cell :=
  match s.positions.get? id with
  | some cell => .ok cell
  | none => .error (.noEntity id)

def definitionIdOf (s : State) (id : EntityId) : Attempt DefinitionId :=
  match s.definitions.get? id with
  | some definition => .ok definition
  | none => .error (.noEntity id)

def definitionOf (s : State) (id : EntityId) : Attempt Definition := do
  let definition ← s.definitionIdOf id
  s.catalog.get definition

def entitiesAt (s : State) (c : Cell) : List EntityId :=
  (s.positions.entries.filter fun entry => decide (entry.2 = c)).map Prod.fst

def addOccupant (cell : Cell) (id : EntityId) : List (Cell × List EntityId) → List (Cell × List EntityId)
  | [] => [(cell, [id])]
  | (here, ids) :: rest => if here = cell then (here, ids ++ [id]) :: rest else (here, ids) :: addOccupant cell id rest

def occupiedCells (s : State) : Attempt (List (Cell × List EntityId)) := do
  let placed ← Attempt.each (fun id => do .ok (id, ← s.cellOf id)) s.definitions.ids
  let inside := placed.filter fun entry => s.onBoard entry.2
  .ok (inside.foldl (fun cells entry => addOccupant entry.2 entry.1 cells) [])

-- An entity that had no place when the turn started has moved.
def moved (s : State) (id : EntityId) : Bool :=
  match s.starts.get? id with
  | none => true
  | some start => decide (s.positions.get? id ≠ some start)

def remove (s : State) (gone : List EntityId) : State :=
  { s with definitions := s.definitions.eraseAll gone, positions := s.positions.eraseAll gone }

def markStarts (s : State) : State := { s with starts := s.positions }

end State

end KanjiPuzzle
