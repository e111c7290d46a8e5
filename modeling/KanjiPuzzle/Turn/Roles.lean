import KanjiPuzzle.Least
import KanjiPuzzle.State.Traits

set_option autoImplicit false

/- Who is the player and who is the goal. A role stays with its holder; it is dropped when the holder or every rule that
   grants the role is gone, filled when nobody holds it, taken by whoever completes a new sentence, and passed on at a
   noun's cell. -/
namespace KanjiPuzzle

namespace Role

def ofProperty? : Property → Option Role
  | .you => some .player
  | .win => some .goal
  | _ => none

def other : Role → Role
  | .player => .goal
  | .goal => .player

end Role

namespace Roles

def grantRules (s : State) (p : Property) : List Rule := s.rules.filter (·.grants p)

def hasGrantRule (s : State) (p : Property) : Bool := s.rules.any (·.grants p)

def carriersOf (s : State) (noun : Noun) : Attempt (List EntityId) :=
  Attempt.select (fun id => do .ok ((← s.definitionOf id).noun? == some noun)) s.definitions.ids

-- The price of an entity as the first holder of a role: dearest for a text tile, dear on a cell of a rule that
-- grants the role, a little dear on a cell of any rule.
def price (s : State) (p : Property) (id : EntityId) : Attempt Nat := do
  let cell ← s.cellOf id
  let d ← s.definitionOf id
  .ok ((if d.isObject then 0 else 100) + (if (grantRules s p).any (·.cells.contains cell) then 20 else 0) +
    (if s.rules.any (·.cells.contains cell) then 5 else 0))

def firstCarrier (s : State) (p : Property) : Attempt (Option EntityId) := do
  let candidates ← Attempt.select (s.hasGrant p) s.definitions.ids
  let priced ← Attempt.each (fun id => do .ok (← price s p id, id)) candidates
  .ok ((least? keyedLess priced).map Prod.snd)

def kept? (s : State) (role : Role) : Option EntityId :=
  if hasGrantRule s role.property then (s.holder role).filter s.definitions.contains else none

def refreshRole (s : State) (role : Role) : Attempt State :=
  match kept? s role with
  | some id => .ok (s.withHolder role (some id))
  | none =>
      if hasGrantRule s role.property then do .ok (s.withHolder role (← firstCarrier s role.property))
      else .ok (s.withHolder role none)

def refresh (s : State) : Attempt State := do
  let s ← refreshRole s .player
  refreshRole s .goal

-- The ways in which an entity can stand to a sentence, best first: by its cell and by whether it has moved.
def ladder (noun connector term : Cell) (cells : List Cell) : List (Cell → Bool → Bool) :=
  [fun cell moved => cell == term && moved,
   fun cell _ => cell == term,
   fun cell moved => cell == noun && moved,
   fun cell _ => cell == noun,
   fun cell moved => cell == connector && moved,
   fun cell moved => cells.contains cell && moved,
   fun _ moved => moved]

def onRung (s : State) (rung : Cell → Bool → Bool) (id : EntityId) : Attempt Bool := do
  .ok (rung (← s.cellOf id) (s.moved id))

def climb (s : State) (candidates : List EntityId) : List (Cell → Bool → Bool) → Attempt (Option EntityId)
  | [] => .ok candidates.head?
  | rung :: rest => do
      match ← Attempt.first? (onRung s rung) candidates with
      | some id => .ok (some id)
      | none => climb s candidates rest

def captor (s : State) (r : Rule) (excluded : Option EntityId) : Attempt (Option EntityId) := do
  let carriers ← carriersOf s r.subject
  match carriers.filter fun id => some id != excluded with
  | [] => .ok none
  | candidates =>
      match r.cells with
      | noun :: connector :: rest =>
          climb s candidates (ladder noun connector ((connector :: rest).getLast (by simp)) r.cells)
      | _ => .error .tooFewRuleCells

def hand (s : State) (role : Role) (id : EntityId) (message : String → String) (r : Rule) : Attempt State := do
  let d ← s.definitionOf id
  let cell ← s.cellOf id
  .ok ((s.withHolder role (some id)).report ⟨.roleShift, message d.glyph, cell :: r.cells⟩)

def captureFor (s : State) (role : Role) (r : Rule) : Attempt State := do
  match ← captor s r (s.holder role.other) with
  | none => .ok s
  | some id =>
      if s.holder role = some id then .ok s
      else
        hand s role id
          (fun glyph => role.name ++ " captured by " ++ glyph ++ " (" ++ s.catalog.propertyGlyph role.property ++ ")") r

def capture (s : State) (r : Rule) : Attempt State :=
  match r.term with
  | .noun _ => .ok s
  | .property p =>
      match Role.ofProperty? p with
      | none => .ok s
      | some role => captureFor s role r

-- A rule is new unless the same was said on the same cells before.
def newRules (before now : List Rule) : List Rule :=
  let known := (before.filter Rule.isGrant).map Rule.key
  now.filter fun r => r.isGrant && !known.contains r.key

def captureNew (s : State) (before : List Rule) : Attempt State :=
  Attempt.through capture s (newRules before s.rules)

structure SlotChoice where
  rule : Rule
  holder : EntityId
  alone : Bool
  distance : Nat
deriving DecidableEq, Repr

def SlotChoice.less (a b : SlotChoice) : Bool :=
  (!a.alone && b.alone) || (a.alone == b.alone && keyedLess (a.distance, a.holder) (b.distance, b.holder))

-- Distances are taken from the player, or else from the holder of the role; without either all are alike.
def anchor? (s : State) (role : Role) : Option Cell :=
  (s.player.bind s.positions.get?).or ((s.holder role).bind s.positions.get?)

def distanceTo (s : State) (anchor : Option Cell) (id : EntityId) : Attempt Nat :=
  match anchor with
  | none => .ok 0
  | some cell => do .ok ((← s.cellOf id).distance cell)

def isWalker (s : State) (noun : Noun) (id : EntityId) : Attempt Bool := do
  .ok ((← s.definitionOf id).noun? == some noun && s.moved id)

def barred (s : State) (role : Role) (id : EntityId) : Bool := role == .goal && s.player == some id

def slotChoice? (s : State) (role : Role) (r : Rule) (walker : EntityId) : Attempt (Option SlotChoice) := do
  let anchor := anchor? s role
  let carriers ← carriersOf s r.subject
  let others := carriers.filter fun id => id != walker && !barred s role id
  let far ← Attempt.each (fun id => do .ok (← distanceTo s anchor id, id)) others
  match least? keyedLess far with
  | some (distance, id) => .ok (some ⟨r, id, false, distance⟩)
  | none =>
      if barred s role walker then .ok none
      else do .ok (some ⟨r, walker, true, ← distanceTo s anchor walker⟩)

def slotChoicesFor (s : State) (role : Role) (r : Rule) : Attempt (List SlotChoice) :=
  match r.cells with
  | [] => .error .tooFewRuleCells
  | noun :: _ => do
      let walkers ← Attempt.select (isWalker s r.subject) (s.entitiesAt noun)
      let choices ← Attempt.each (slotChoice? s role r) walkers
      .ok (choices.filterMap id)

def slotChoice (s : State) (role : Role) : Attempt (Option SlotChoice) := do
  let choices ← Attempt.each (slotChoicesFor s role) (grantRules s role.property)
  .ok (least? SlotChoice.less choices.flatten)

def triggerRole (s : State) (role : Role) : Attempt State := do
  match ← slotChoice s role with
  | none => .ok s
  | some choice =>
      if s.holder role = some choice.holder then .ok s
      else
        hand s role choice.holder (fun glyph => role.name ++ " shifts to " ++ glyph ++ " (noun slot trigger)")
          choice.rule

def triggerSlots (s : State) : Attempt State := do
  let s ← triggerRole s .player
  triggerRole s .goal

end Roles

end KanjiPuzzle
