import KanjiPuzzle.State.Traits

set_option autoImplicit false

/- Fusion. Two objects in neighbouring cells whose nouns make up a recipe become its output, in the second one's cell.
   All pairs are chosen on the board as it stood before, and no entity is in two of them. -/
namespace KanjiPuzzle.Fusion

structure Pairing where
  first : EntityId
  second : EntityId
  output : DefinitionId
  cell : Cell
  message : String
deriving DecidableEq, Repr

def used (pairings : List Pairing) : List EntityId := pairings.flatMap fun p => [p.first, p.second]

def fusible? (s : State) (id : EntityId) : Attempt (Option (Definition × Noun)) := do
  let d ← s.definitionOf id
  .ok (if d.isObject then d.noun?.map fun noun => (d, noun) else none)

def isPartner (s : State) (taken : List EntityId) (id other : EntityId) : Attempt Bool :=
  if other = id ∨ other ∈ taken then .ok false
  else do .ok (← fusible? s other).isSome

-- Only the lowest partner in a cell is considered.
def pairingIn? (s : State) (taken : List EntityId) (id : EntityId) (first : Definition × Noun) (cell : Cell) :
    Attempt (Option Pairing) :=
  if s.onBoard cell then do
    match ← Attempt.first? (isPartner s taken id) (s.entitiesAt cell) with
    | none => .ok none
    | some other =>
        match ← fusible? s other with
        | none => .ok none
        | some second =>
            match s.catalog.recipeFor? first.2 second.2 with
            | none => .ok none
            | some recipe =>
                let output ← s.catalog.get recipe.output
                .ok (some ⟨id, other, output.id, cell,
                  first.1.glyph ++ " + " ++ second.1.glyph ++ " → " ++ output.glyph⟩)
  else .ok none

def neighbours (c : Cell) : List Cell := [c.shift Axis.horizontal.offset, c.shift Axis.vertical.offset]

def firstPairing? (s : State) (taken : List EntityId) (id : EntityId) (first : Definition × Noun) :
    List Cell → Attempt (Option Pairing)
  | [] => .ok none
  | cell :: rest => do
      match ← pairingIn? s taken id first cell with
      | some pairing => .ok (some pairing)
      | none => firstPairing? s taken id first rest

def addPairing (s : State) (found : List Pairing) (id : EntityId) : Attempt (List Pairing) :=
  if id ∈ used found then .ok found
  else do
    match ← fusible? s id with
    | none => .ok found
    | some first =>
        let cell ← s.cellOf id
        match ← firstPairing? s (used found) id first (neighbours cell) with
        | none => .ok found
        | some pairing => .ok (found ++ [pairing])

def pairings (s : State) : Attempt (List Pairing) := Attempt.through (addPairing s) [] s.definitions.ids

def spawn (s : State) (p : Pairing) : State :=
  { s with
    definitions := s.definitions.insert s.nextId p.output
    positions := s.positions.insert s.nextId p.cell
    nextId := s.nextId + 1
    events := s.events ++ [⟨.fusion, p.message, [p.cell]⟩] }

def run (s : State) : Attempt State := do
  let found ← pairings s
  .ok (found.foldl spawn (s.remove (used found)))

end KanjiPuzzle.Fusion
