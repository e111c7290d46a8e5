import KanjiPuzzle.Catalog.Lookup

set_option autoImplicit false

/- What a reader of sentences sees: the nouns and properties in every cell of the board that holds a tile, and whether a
   connector or a conjunction stands there. -/
namespace KanjiPuzzle

structure Tile where
  id : EntityId
  definition : DefinitionId
  cell : Cell
deriving DecidableEq, Repr

structure CellTokens where
  nouns : List (EntityId × Noun)
  properties : List (EntityId × Property)
  topic : Bool
  conjunction : Bool
deriving DecidableEq, Repr

namespace CellTokens

def empty : CellTokens := ⟨[], [], false, false⟩

def add (t : CellTokens) (id : EntityId) (d : Definition) : CellTokens where
  nouns := t.nouns ++ (d.noun?.map fun noun => (id, noun)).toList
  properties := t.properties ++ (d.property?.map fun p => (id, p)).toList
  topic := t.topic || d.isTopic
  conjunction := t.conjunction || d.isConjunction

end CellTokens

structure TokenBoard where
  extent : Extent
  cells : List (Cell × CellTokens)
deriving DecidableEq, Repr

namespace TokenBoard

def record (id : EntityId) (d : Definition) (cell : Cell) : List (Cell × CellTokens) → List (Cell × CellTokens)
  | [] => [(cell, CellTokens.empty.add id d)]
  | (here, tokens) :: rest =>
      if here = cell then (here, tokens.add id d) :: rest else (here, tokens) :: record id d cell rest

def cellTokens? (cell : Cell) : List (Cell × CellTokens) → Option CellTokens
  | [] => none
  | (here, tokens) :: rest => if here = cell then some tokens else cellTokens? cell rest

def tokensAt (b : TokenBoard) (cell : Cell) : Option CellTokens :=
  if b.extent.contains cell then cellTokens? cell b.cells else none

def empty (extent : Extent) : TokenBoard := ⟨extent, []⟩

-- Only the definition of a tile on the board has to be known.
def place (catalog : Catalog) (b : TokenBoard) (tile : Tile) : Attempt TokenBoard :=
  if b.extent.contains tile.cell then do
    let d ← catalog.get tile.definition
    .ok ⟨b.extent, record tile.id d tile.cell b.cells⟩
  else .ok b

def ofTiles (extent : Extent) (catalog : Catalog) (tiles : List Tile) : Attempt TokenBoard :=
  Attempt.through (place catalog) (empty extent) tiles

end TokenBoard

end KanjiPuzzle
