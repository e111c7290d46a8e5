import KanjiPuzzle.Turn.Fusion
import KanjiPuzzle.Turn.Hazards
import KanjiPuzzle.Turn.Movement
import KanjiPuzzle.Turn.Reading
import KanjiPuzzle.Turn.Roles
import KanjiPuzzle.Turn.Victory

set_option autoImplicit false

/- A turn. It is refused once the level is cleared, while nobody is the player and when the player cannot go. Otherwise
   the board is moved, fused and read anew, roles are handed on, hazards strike, and the level may be cleared. -/
namespace KanjiPuzzle

namespace Turn

def clearedMessage : String := "Level already cleared. Press N for next level."
def nobodyMessage : String := "No controllable object (need 人 は 遊)"
def blockedMessage : String := "Blocked"

def settle (s : State) : Attempt State := do
  let s ← Reading.run s false
  let s ← Roles.refresh s
  .ok s.markStarts

def refuse (s : State) (message : String) : State := { s with events := [⟨.blocked, message, []⟩] }

def movedMessage (d : Direction) : String := "Moved " ++ d.word

def reportChange (before : List Rule) (s : State) : State :=
  if Rule.setSignature s.rules = Rule.setSignature before then s
  else s.report ⟨.ruleChange, "Rules changed (" ++ toString s.rules.length ++ ")", []⟩

def reportSilence (d : Direction) (s : State) : State :=
  if s.events.isEmpty then s.report ⟨.move, movedMessage d, []⟩ else s

def aftermath (before : List Rule) (s : State) : Attempt State := do
  let s ← Fusion.run s
  let s ← Reading.run s true
  let s ← Roles.captureNew s before
  let s ← Roles.triggerSlots s
  let s ← Roles.refresh s
  let s := reportChange before s
  let s ← Hazards.sink s
  let s ← Hazards.melt s
  let s ← Roles.refresh s
  Victory.run s

def commit (before : List Rule) (player : EntityId) (d : Direction) (s : State) : Attempt State := do
  let cell ← s.cellOf player
  let s := { s with moves := s.moves + 1 }.report ⟨.move, movedMessage d, [cell]⟩
  let s ← aftermath before s
  .ok (reportSilence d s)

def play (s : State) (d : Direction) : Attempt State :=
  if s.won then .ok (refuse s clearedMessage)
  else do
    let ready ← Roles.refresh { s with events := [] }
    let ready := ready.markStarts
    match ready.player with
    | none => .ok (refuse s nobodyMessage)
    | some player =>
        match ← Movement.run ready player d with
        | none => .ok (refuse s blockedMessage)
        | some next => commit s.rules player d next

def playWord (s : State) (word : String) : Attempt State :=
  match Direction.ofWord? word with
  | none => .error .notACommand
  | some d => play s d

end Turn

end KanjiPuzzle
