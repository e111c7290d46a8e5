import KanjiPuzzle.Session

set_option autoImplicit false

/- A session that is worked on in place. Its parts are assigned one after the other, and a fault leaves behind whatever
   was assigned before it; a request that raises one is passed over. -/
namespace KanjiPuzzle

-- What a front end can ask for. Words come from outside and may say anything.
inductive Request where
  | load (level : Level)
  | apply (word : String)
  | move (word : String)
  | undo
  | restart

abbrev Console (α : Type) := ExceptT Fault (StateM Session) α

namespace Console

variable {α β : Type}

def runOn (work : Console α) (s : Session) : Except Fault α × Session := (ExceptT.run work).run s

def ask (x : Attempt α) : Console α := ExceptT.mk (pure x)

theorem run_pure (a : α) (s : Session) : (pure a : Console α).runOn s = (.ok a, s) := rfl

theorem run_throw (f : Fault) (s : Session) : (throw f : Console α).runOn s = (.error f, s) := rfl

theorem run_get (s : Session) : (get : Console Session).runOn s = (.ok s, s) := rfl

theorem run_modify (change : Session → Session) (s : Session) :
    (modify change : Console Unit).runOn s = (.ok (), change s) := rfl

theorem run_ask (x : Attempt α) (s : Session) : (ask x).runOn s = (x, s) := rfl

theorem run_bind (work : Console α) (next : α → Console β) (s : Session) :
    (work >>= next).runOn s =
      match work.runOn s with
      | (.ok a, t) => (next a).runOn t
      | (.error f, t) => (.error f, t) := by
  rw [runOn, ExceptT.run_bind, StateT.run_bind]
  cases ran : work.runOn s with
  | mk outcome t =>
      rw [runOn] at ran
      simp only [bind]
      rw [ran]
      cases outcome <;> rfl

def announce (state : State) (kind : EventKind) (message : String) : Console Unit :=
  modify fun s => { s with state := { state with events := [⟨kind, message, []⟩] } }

-- The level is built before anything is assigned.
def reload (level : Level) : Console State := do
  let s ← get
  let built ← ask (level.toState s.catalog)
  let state ← ask (Turn.settle built)
  modify fun s => { s with level := level }
  modify fun s => { s with history := [] }
  return state

def load (level : Level) : Console Unit := do
  let state ← reload level
  announce state .levelLoad ("Loaded " ++ level.heading.name)

def restart : Console Unit := do
  let s ← get
  let state ← reload s.level
  let s ← get
  announce state .restart ("Restarted " ++ s.level.heading.name)

def undo : Console Unit := do
  let s ← get
  match s.history with
  | [] => announce s.state .undo "Nothing to undo"
  | previous :: earlier => do
      modify fun s => { s with history := earlier }
      announce previous .undo "Undo"

def move (word : String) : Console Unit := do
  let before := (← get).state
  let after ← ask (Turn.playWord before word)
  if before.moves < after.moves then modify fun s => { s with history := before :: s.history }
  modify fun s => { s with state := after }

def apply (word : String) : Console Unit :=
  match Command.ofWord? word with
  | some (.move _) => move word
  | some .undo => undo
  | some .restart => restart
  | none => throw .notACommand

def serve : Request → Console Unit
  | .load level => load level
  | .apply word => apply word
  | .move word => move word
  | .undo => undo
  | .restart => restart

def serveAll (s : Session) (requests : List Request) : Session :=
  requests.foldl (fun s request => ((serve request).runOn s).2) s

end Console

def Session.answer (s : Session) : Request → Attempt Session
  | .load level => s.load level
  | .apply word => s.runWord word
  | .move word => s.moveWord word
  | .undo => .ok s.undo
  | .restart => s.restart

end KanjiPuzzle
