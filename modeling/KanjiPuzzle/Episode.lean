import KanjiPuzzle.Session
import KanjiPuzzle.View.Counts
import KanjiPuzzle.View.Picture
import KanjiPuzzle.View.Snapshot

set_option autoImplicit false

/- Play for a learner: commands are numbers, the board is counted, and the turn that clears the level is rewarded. -/
namespace KanjiPuzzle

structure Episode where
  level : Level
  catalog : Catalog
  mode : String
  session : Session
deriving Repr

structure Observation where
  board : Counts
  moves : Int
  won : Bool
  rules : List String
  player : Option EntityId
  goal : Option EntityId
  messages : List String
deriving Repr

structure Outcome where
  observation : Observation
  reward : Nat
  terminated : Bool
  truncated : Bool
deriving Repr

namespace Episode

def choices : Nat := Command.all.length

section Play

variable (host : Host)

def observe (e : Episode) : Attempt Observation := do
  let s := e.session.state
  .ok ⟨← s.counts host, s.moves, s.won, s.rules.map fun r => r.shown e.catalog, s.player, s.goal,
    s.events.map Event.message⟩

def reset (e : Episode) : Attempt (Episode × Observation) := do
  let e := { e with session := ← Session.start e.catalog e.level }
  .ok (e, ← e.observe host)

-- The space of the observations comes first, and a new episode is reset at once.
def start (level : Level) (catalog : Catalog) (mode : String) : Attempt Episode := do
  host.space (Counts.measures level.extent catalog.size)
  let e : Episode := ⟨level, catalog, mode, ← Session.start catalog level⟩
  let _ ← e.observe host
  .ok e

def step (e : Episode) (choice : Int) : Attempt (Episode × Outcome) :=
  match Command.ofNumber? choice with
  | none => .error (Fault.written [choice] (.notAChoice choice))
  | some command => do
      let before := e.session.state.won
      let e := { e with session := ← e.session.run command }
      let after := e.session.state.won
      .ok (e, ⟨← e.observe host, if after && !before then 1 else 0, after, false⟩)

def render (e : Episode) : Attempt String :=
  if e.mode = "ansi" then e.session.state.picture host else .error (.unsupportedRendering e.mode)

end Play

def shape (e : Episode) : List Int := Counts.measures e.level.extent e.catalog.size

end Episode

end KanjiPuzzle
