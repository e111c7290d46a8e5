import KanjiPuzzle.Board.Tokens
import KanjiPuzzle.Rule

set_option autoImplicit false

/- Sentences: a noun, the connector in the next cell, then terms with conjunctions between them, to the right or
   downwards. A term gives a rule for each property and each noun in its cell, and only the first spelling of a rule is
   kept. -/
namespace KanjiPuzzle.TokenBoard

def along (origin : Cell) (axis : Axis) (steps : Nat) : Cell :=
  ⟨origin.x + axis.offset.dx * steps, origin.y + axis.offset.dy * steps⟩

def termRules (subject : Noun) (axis : Axis) (cells : List Cell) (tokens : CellTokens) : List Rule :=
  tokens.properties.map (fun token => ⟨subject, .property token.2, axis, cells⟩) ++
    tokens.nouns.map (fun token => ⟨subject, .noun token.2, axis, cells⟩)

def keepFirst (found : List Rule) (r : Rule) : List Rule :=
  if found.any fun known => known.signature == r.signature then found else found ++ [r]

-- The terms from a place in the sentence on. Two terms are two cells apart and all of them are on the board, so the
-- chain cannot have more links than the board has columns or rows.
def readTerms (b : TokenBoard) (subject : Noun) (origin : Cell) (axis : Axis) :
    Nat → Nat → List Rule → List Rule
  | 0, _, found => found
  | links + 1, place, found =>
      match b.tokensAt (along origin axis place) with
      | none => found
      | some tokens =>
          let cells := [origin, along origin axis 1, along origin axis place]
          match termRules subject axis cells tokens with
          | [] => found
          | rules =>
              let found := rules.foldl keepFirst found
              match b.tokensAt (along origin axis (place + 1)) with
              | some link => if link.conjunction then readTerms b subject origin axis links (place + 2) found else found
              | none => found

def longest (b : TokenBoard) : Nat := b.extent.width.toNat + b.extent.height.toNat

def readSentences (b : TokenBoard) (origin : Cell) (axis : Axis) (found : List Rule) : List Rule :=
  match b.tokensAt origin, b.tokensAt (along origin axis 1) with
  | some start, some link =>
      if link.topic then
        start.nouns.foldl (fun found token => readTerms b token.2 origin axis b.longest 2 found) found
      else found
  | _, _ => found

def rules (b : TokenBoard) : List Rule :=
  b.extent.rows.foldl (fun found y =>
    b.extent.columns.foldl (fun found x =>
      [Axis.horizontal, Axis.vertical].foldl (fun found axis => readSentences b ⟨x, y⟩ axis found) found) found) []

end KanjiPuzzle.TokenBoard
