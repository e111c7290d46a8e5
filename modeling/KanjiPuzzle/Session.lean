import KanjiPuzzle.Level.Loading
import KanjiPuzzle.Turn.Play

set_option autoImplicit false

/- A session of play: the present state, the level it started from, and the states that committed turns have left
   behind, the latest first. An operation that fails leaves no session, so the old one stands. -/
namespace KanjiPuzzle

structure Session where
  catalog : Catalog
  level : Level
  state : State
  history : List State
deriving Repr

namespace Session

def opened (catalog : Catalog) (level : Level) (kind : EventKind) (message : String) : Attempt Session := do
  let built ← level.toState catalog
  let state ← Turn.settle built
  .ok ⟨catalog, level, { state with events := [⟨kind, message, []⟩] }, []⟩

def start (catalog : Catalog) (level : Level) : Attempt Session :=
  opened catalog level .levelLoad ("Loaded " ++ level.heading.name)

def load (s : Session) (level : Level) : Attempt Session := start s.catalog level

def restart (s : Session) : Attempt Session :=
  opened s.catalog s.level .restart ("Restarted " ++ s.level.heading.name)

def undo (s : Session) : Session :=
  match s.history with
  | [] => { s with state := { s.state with events := [⟨.undo, "Nothing to undo", []⟩] } }
  | previous :: earlier =>
      { s with state := { previous with events := [⟨.undo, "Undo", []⟩] }, history := earlier }

-- A turn that was committed has counted one move more.
def record (s : Session) (after : State) : Session :=
  { s with state := after, history := if s.state.moves < after.moves then s.state :: s.history else s.history }

def move (s : Session) (d : Direction) : Attempt Session := do
  .ok (s.record (← Turn.play s.state d))

def run (s : Session) : Command → Attempt Session
  | .move d => s.move d
  | .undo => .ok s.undo
  | .restart => s.restart

def moveWord (s : Session) (word : String) : Attempt Session :=
  match Direction.ofWord? word with
  | some d => s.move d
  | none => .error .notACommand

def runWord (s : Session) (word : String) : Attempt Session :=
  match Command.ofWord? word with
  | some c => s.run c
  | none => .error .notACommand

end Session

end KanjiPuzzle
