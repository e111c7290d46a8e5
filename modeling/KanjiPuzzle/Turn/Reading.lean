import KanjiPuzzle.Board.Sentences
import KanjiPuzzle.State.Traits

set_option autoImplicit false

/- Reading the board anew. The rules are always those that the tiles now spell; every object whose noun is said to
   become another one then turns into that noun's object, all of them at once. -/
namespace KanjiPuzzle

namespace State

def tileOf (s : State) (id : EntityId) : Attempt Tile := do
  .ok ⟨id, ← s.definitionIdOf id, ← s.cellOf id⟩

def tokens (s : State) : Attempt TokenBoard :=
  Attempt.through (fun b id => do b.place s.catalog (← s.tileOf id)) (TokenBoard.empty s.extent) s.definitions.ids

def withRules (s : State) (rules : List Rule) : State := { s with rules, effects := Effects.ofRules rules }

end State

namespace Transform

structure Change where
  id : EntityId
  source : Noun
  target : Noun
  definition : DefinitionId
  message : String
  cell : Cell
deriving DecidableEq, Repr

-- Nothing changes into itself, or into a noun that has no object.
def change? (s : State) (id : EntityId) : Attempt (Option Change) := do
  let d ← s.definitionOf id
  match d.isObject, d.noun? with
  | true, some source =>
      match s.effects.targetOf? source with
      | none => .ok none
      | some target =>
          if target = source then .ok none
          else
            match s.catalog.objectFor? target with
            | none => .ok none
            | some object => do
                let cell ← s.cellOf id
                .ok (some ⟨id, source, target, object.id, d.glyph ++ " → " ++ object.glyph, cell⟩)
  | _, _ => .ok none

structure Summary where
  source : Noun
  target : Noun
  message : String
  cells : List Cell
deriving DecidableEq, Repr

def addChange (c : Change) : List Summary → List Summary
  | [] => [⟨c.source, c.target, c.message, [c.cell]⟩]
  | summary :: rest =>
      if summary.source = c.source ∧ summary.target = c.target then
        { summary with cells := summary.cells ++ [c.cell] } :: rest
      else summary :: addChange c rest

def Summary.event (s : Summary) : Event :=
  ⟨.transform, s.message ++ (if 1 < s.cells.length then " x" ++ toString s.cells.length else ""), s.cells⟩

def apply (s : State) (changes : List Change) : State :=
  { s with definitions := changes.foldl (fun definitions c => definitions.insert c.id c.definition) s.definitions }

def run (s : State) (announce : Bool) : Attempt State :=
  if s.effects.transforms.isEmpty then .ok s
  else do
    let changes ← Attempt.each (change? s) s.definitions.ids
    let changes := changes.filterMap id
    let events := (changes.foldl (fun summaries c => addChange c summaries) []).map Summary.event
    .ok ((apply s changes).reportAll (if announce then events else []))

end Transform

def Reading.run (s : State) (announce : Bool) : Attempt State := do
  let tokens ← s.tokens
  Transform.run (s.withRules tokens.rules) announce

end KanjiPuzzle
