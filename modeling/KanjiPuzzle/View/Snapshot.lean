import KanjiPuzzle.State

set_option autoImplicit false

/- What a front end is shown of a game, and the JSON in which it is sent. -/
namespace KanjiPuzzle

def Rule.shown (r : Rule) (catalog : Catalog) : String :=
  catalog.nounGlyph r.subject ++ " は " ++
    (match r.term with
    | .property p => catalog.propertyGlyph p
    | .noun target => catalog.nounGlyph target)

structure EntityView where
  id : EntityId
  definition : DefinitionId
  cell : Cell
deriving DecidableEq, Repr

structure Snapshot where
  heading : Heading
  extent : Extent
  moves : Int
  won : Bool
  entities : List EntityView
  rules : List Rule
  player : Option EntityId
  goal : Option EntityId
  events : List Event
deriving Repr

def State.view (s : State) (id : EntityId) : Attempt EntityView := do
  .ok ⟨id, ← s.definitionIdOf id, ← s.cellOf id⟩

def State.snapshot (s : State) : Attempt Snapshot := do
  let entities ← Attempt.each s.view s.definitions.ids
  .ok ⟨s.heading, s.extent, s.moves, s.won, entities, s.rules, s.player, s.goal, s.events⟩

def Cell.toJson (c : Cell) : Json := .array [.integer c.x, .integer c.y]

def EntityView.toJson (e : EntityView) : Json :=
  .object [("id", .integer e.id), ("defId", .text e.definition), ("x", .integer e.cell.x), ("y", .integer e.cell.y)]

def Term.toMember : Term → String × Json
  | .property p => ("property", .text p.word)
  | .noun target => ("targetNoun", .text target)

def Rule.toJson (r : Rule) : Json :=
  .object [("kind", .text r.term.kindWord), ("noun", .text r.subject), r.term.toMember,
    ("cells", .array (r.cells.map Cell.toJson)), ("axis", .text r.axis.word)]

def Event.toJson (e : Event) : Json :=
  .object ([("type", .text e.kind.word), ("message", .text e.message)] ++
    (match e.focus? with
    | none => []
    | some cell =>
        [("x", .integer cell.x), ("y", .integer cell.y), ("cells", .array (e.cells.map Cell.toJson))]))

def Snapshot.toJson (s : Snapshot) : Json :=
  .object [("levelId", .text s.heading.id), ("levelName", .text s.heading.name), ("width", .integer s.extent.width),
    ("height", .integer s.extent.height), ("hint", s.heading.hint), ("moveCount", .integer s.moves),
    ("won", .bool s.won), ("entities", .array (s.entities.map EntityView.toJson)),
    ("activeRules", .array (s.rules.map Rule.toJson)),
    ("focusRoles", .object [("playerEntityId", Json.ofOption .integer s.player),
      ("winEntityId", Json.ofOption .integer s.goal)]),
    ("lastEvents", .array (s.events.map Event.toJson))]

end KanjiPuzzle
