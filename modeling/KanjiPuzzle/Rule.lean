import KanjiPuzzle.Text.Sorted
import KanjiPuzzle.Vocabulary

set_option autoImplicit false

/- What a sentence on the board says, and where it says it. A key writes its cells in full: that no number of more than
   4300 digits can be written is left aside, since no level that was read has a cell so far out. -/
namespace KanjiPuzzle

inductive Term where
  | property (property : Property)
  | noun (noun : Noun)
deriving DecidableEq, Repr

def Term.word : Term → String
  | .property p => p.word
  | .noun target => target

def Term.mark : Term → String
  | .property _ => "p"
  | .noun _ => "n"

def Term.kindWord : Term → String
  | .property _ => "property"
  | .noun _ => "transform"

structure Rule where
  subject : Noun
  term : Term
  axis : Axis
  cells : List Cell
deriving DecidableEq, Repr

namespace Rule

def grants (r : Rule) (p : Property) : Bool := r.term == .property p

def isGrant (r : Rule) : Bool :=
  match r.term with
  | .property _ => true
  | .noun _ => false

def signature (r : Rule) : String := r.term.mark ++ ":" ++ r.subject ++ ":" ++ r.term.word

def cellText (c : Cell) : String := toString c.x ++ "," ++ toString c.y

def key (r : Rule) : String := r.signature ++ ":" ++ ";".intercalate (r.cells.map cellText)

def setSignature (rules : List Rule) : String :=
  "|".intercalate (Text.sorted (rules.map signature))

end Rule

end KanjiPuzzle
