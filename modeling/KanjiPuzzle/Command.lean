import KanjiPuzzle.Vocabulary

set_option autoImplicit false

/- What a player can ask for: a turn in one of the four directions, taking a turn back, or a fresh start. -/
namespace KanjiPuzzle

inductive Command where
  | move (direction : Direction)
  | undo
  | restart
deriving DecidableEq, Repr

namespace Command

def word : Command → String
  | .move .up => "up"
  | .move .down => "down"
  | .move .left => "left"
  | .move .right => "right"
  | .undo => "undo"
  | .restart => "restart"

-- The position of a command in this list is also its number.
def all : List Command := [.move .up, .move .down, .move .left, .move .right, .undo, .restart]

def vocabulary : Vocabulary Command := ⟨"Action", all, word⟩

def ofWord? (w : String) : Option Command := vocabulary.ofWord? w

def ofNumber? (n : Int) : Option Command := if n < 0 then none else all[n.toNat]?

theorem of_word_word (c : Command) : ofWord? c.word = some c := by
  cases c with
  | move d => cases d <;> decide
  | undo => decide
  | restart => decide

end Command

def Direction.word (d : Direction) : String := (Command.move d).word

def Direction.ofWord? (w : String) : Option Direction :=
  match Command.ofWord? w with
  | some (.move d) => some d
  | _ => none

end KanjiPuzzle
