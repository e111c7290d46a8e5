import KanjiPuzzle.State.Traits

set_option autoImplicit false

/- Movement. An entity that enters a cell pushes what can be pushed out of it, is stopped by what blocks, and passes
   over the rest; then it drags along what pulls from behind. One refusal anywhere refuses the whole chain. How deep a
   machine can nest the calls of a chain is left aside: the budget is enough for every chain. -/
namespace KanjiPuzzle.Movement

inductive Halt where
  | refused
  | fault (cause : Fault)
  | exhausted
deriving DecidableEq, Repr

abbrev Course (α : Type) := Except Halt α

def ask {α : Type} (a : Attempt α) : Course α := a.mapError .fault

structure Scene where
  positions : EntityMap Cell
  moved : List EntityId
deriving DecidableEq, Repr

def Scene.others (scene : Scene) (cell : Cell) (id : EntityId) : List EntityId :=
  (scene.positions.entries.filter fun entry => decide (entry.2 = cell) && decide (entry.1 ≠ id)).map Prod.fst

def Scene.settle (scene : Scene) (id : EntityId) (cell : Cell) : Scene :=
  ⟨scene.positions.insert id cell, id :: scene.moved⟩

def clear (s : State) (push : EntityId → Scene → Course Scene) (id : EntityId) (scene : Scene) (occupant : EntityId) :
    Course Scene := do
  let passed ← if s.player = some id then ask (s.isWinContact occupant) else .ok false
  if passed then .ok scene
  else if ← ask (s.isPushable occupant) then push occupant scene
  else if ← ask (s.isBlocking occupant) then .error .refused
  else .ok scene

-- What becomes of an entity that stands behind. What has moved already, or is still being pushed, is not dragged.
def follow (s : State) (drag : EntityId → Scene → Course Scene) (pushing : List EntityId) (scene : Scene)
    (follower : EntityId) : Course Scene := do
  if follower ∈ scene.moved ∨ follower ∈ pushing then .ok scene
  else if ← ask (s.has .pull follower) then drag follower scene
  else .ok scene

-- The entities in `pushing` wait for this one to make room. A chain that comes back to one of them is refused.
def advance (s : State) (o : Offset) : Nat → List EntityId → EntityId → Scene → Course Scene
  | 0, _, _, _ => .error .exhausted
  | budget + 1, pushing, id, scene =>
      if id ∈ pushing then .error .refused
      else
        match scene.positions.get? id with
        | none => .error (.fault (.noEntity id))
        | some origin =>
            let target := origin.shift o
            if s.onBoard target then do
              let cleared ← (scene.others target id).foldlM
                (clear s (advance s o budget (id :: pushing)) id) scene
              let settled := cleared.settle id target
              let behind := origin.back o
              if s.onBoard behind then
                (settled.others behind id).foldlM (follow s (advance s o budget pushing) pushing) settled
              else .ok settled
            else .error .refused

-- A chain of calls holds every entity at most once while it waits and once for every cell it can still advance.
def budget (s : State) : Nat :=
  (s.positions.size + 1) * (s.extent.width.toNat + s.extent.height.toNat + 2)

-- The state after the entity has gone one cell in the direction; none if the chain is refused. The budget of calls
-- is never used up.
def run (s : State) (id : EntityId) (d : Direction) : Attempt (Option State) :=
  match s.positions.get? id with
  | none => .ok none
  | some _ =>
      match advance s d.offset (budget s) [] id ⟨s.positions, []⟩ with
      | .ok scene => .ok (some { s with positions := scene.positions })
      | .error (.fault cause) => .error cause
      | .error .refused => .ok none
      | .error .exhausted => .ok none

def runWord (s : State) (id : EntityId) (word : String) : Attempt (Option State) :=
  match s.positions.get? id with
  | none => .ok none
  | some _ =>
      match Direction.ofWord? word with
      | none => .error (.notADirection word)
      | some d => run s id d

end KanjiPuzzle.Movement
