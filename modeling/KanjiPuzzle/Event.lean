import KanjiPuzzle.Vocabulary

set_option autoImplicit false

/- Events: what the latest operation reports to a reader of the board. Nothing in the game reads them back. -/
namespace KanjiPuzzle

inductive EventKind where
  | move
  | blocked
  | fusion
  | transform
  | roleShift
  | ruleChange
  | win
  | undo
  | restart
  | levelLoad
deriving DecidableEq, Repr

def EventKind.word : EventKind → String
  | .move => "move"
  | .blocked => "blocked"
  | .fusion => "fusion"
  | .transform => "transform"
  | .roleShift => "role-shift"
  | .ruleChange => "rule-change"
  | .win => "win"
  | .undo => "undo"
  | .restart => "restart"
  | .levelLoad => "level-load"

structure Event where
  kind : EventKind
  message : String
  cells : List Cell
deriving DecidableEq, Repr

def Event.focus? (e : Event) : Option Cell := e.cells.head?

end KanjiPuzzle
