import KanjiPuzzle.State

set_option autoImplicit false

/- What an entity does at the moment. A rule acts on objects of the world only, and what a definition says of itself
   holds for every entity; a noun tile can still stand in for its noun where a role is filled or the goal is reached. -/
namespace KanjiPuzzle.State

def granted (s : State) (d : Definition) (p : Property) : Bool :=
  match d.noun? with
  | none => false
  | some noun => s.effects.grants noun p

def behaves (s : State) (d : Definition) (p : Property) : Bool := d.hasDefault p || (d.isObject && s.granted d p)

def pushable (s : State) (id : EntityId) (d : Definition) : Bool :=
  d.pushable || s.player == some id || s.behaves d .you || s.behaves d .push

def blocking (s : State) (id : EntityId) (d : Definition) : Bool :=
  s.pushable id d || d.stop || s.behaves d .stop

def winContact (s : State) (id : EntityId) (d : Definition) : Bool :=
  s.behaves d .win || s.goal == some id || s.granted d .win

def has (s : State) (p : Property) (id : EntityId) : Attempt Bool := do
  .ok (s.behaves (← s.definitionOf id) p)

def hasGrant (s : State) (p : Property) (id : EntityId) : Attempt Bool := do
  .ok (s.granted (← s.definitionOf id) p)

def isCarrier (s : State) (id : EntityId) : Attempt Bool := do
  .ok (← s.definitionOf id).isCarrier

def isPushable (s : State) (id : EntityId) : Attempt Bool := do
  .ok (s.pushable id (← s.definitionOf id))

def isBlocking (s : State) (id : EntityId) : Attempt Bool := do
  .ok (s.blocking id (← s.definitionOf id))

def isWinContact (s : State) (id : EntityId) : Attempt Bool := do
  .ok (s.winContact id (← s.definitionOf id))

theorem pushable_blocking (s : State) (id : EntityId) (d : Definition) (pushed : s.pushable id d = true) :
    s.blocking id d = true := by
  simp [blocking, pushed]

theorem granted_carrier (s : State) (d : Definition) (p : Property) (grant : s.granted d p = true) :
    d.isCarrier = true := by
  unfold granted at grant
  unfold Definition.isCarrier
  cases named : d.noun? with
  | none => simp [named] at grant
  | some noun => rfl

end KanjiPuzzle.State
