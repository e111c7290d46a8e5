import KanjiPuzzle.Proofs.History

set_option autoImplicit false

/- The stages of a turn. A turn that is not refused passes through a fixed row of states, each of them what one phase
   makes of the one before. -/
namespace KanjiPuzzle.Turn

structure Stages where
  player : EntityId
  cell : Cell
  ready : State
  gone : State
  counted : State
  fused : State
  read : State
  captured : State
  triggered : State
  ranked : State
  sunk : State
  melted : State
  cast : State
  cleared : State

namespace Stages

structure Follow (g : Stages) (before : List Rule) (d : Direction) (t : State) : Prop where
  stands : g.gone.cellOf g.player = .ok g.cell
  counts : g.counted = { g.gone with moves := g.gone.moves + 1 }.report ⟨.move, movedMessage d, [g.cell]⟩
  fuses : Fusion.run g.counted = .ok g.fused
  reads : Reading.run g.fused true = .ok g.read
  captures : Roles.captureNew g.read before = .ok g.captured
  triggers : Roles.triggerSlots g.captured = .ok g.triggered
  ranks : Roles.refresh g.triggered = .ok g.ranked
  sinks : Hazards.sink (reportChange before g.ranked) = .ok g.sunk
  melts : Hazards.melt g.sunk = .ok g.melted
  casts : Roles.refresh g.melted = .ok g.cast
  clears : Victory.run g.cast = .ok g.cleared
  ends : t = reportSilence d g.cleared

structure Lead (g : Stages) (s : State) (d : Direction) (t : State) : Prop where
  unwon : s.won = false
  refreshes : Roles.refresh s.quiet = .ok g.ready
  plays : g.ready.player = some g.player
  moves : Movement.run g.ready.markStarts g.player d = .ok (some g.gone)
  follow : g.Follow s.rules d t

end Stages

theorem commit_stages (before : List Rule) (player : EntityId) (d : Direction) (ready gone t : State)
    (done : commit before player d gone = .ok t) :
    ∃ g : Stages, g.player = player ∧ g.ready = ready ∧ g.gone = gone ∧ g.Follow before d t := by
  obtain ⟨cell, stands, done⟩ := Attempt.bind_ok _ _ _ done
  obtain ⟨cleared, followed, done⟩ := Attempt.bind_ok _ _ _ done
  obtain ⟨fused, fuses, followed⟩ := Attempt.bind_ok _ _ _ followed
  obtain ⟨read, reads, followed⟩ := Attempt.bind_ok _ _ _ followed
  obtain ⟨captured, captures, followed⟩ := Attempt.bind_ok _ _ _ followed
  obtain ⟨triggered, triggers, followed⟩ := Attempt.bind_ok _ _ _ followed
  obtain ⟨ranked, ranks, followed⟩ := Attempt.bind_ok _ _ _ followed
  obtain ⟨sunk, sinks, followed⟩ := Attempt.bind_ok _ _ _ followed
  obtain ⟨melted, melts, followed⟩ := Attempt.bind_ok _ _ _ followed
  obtain ⟨cast, casts, clears⟩ := Attempt.bind_ok _ _ _ followed
  cases done
  exact ⟨⟨player, cell, ready, gone, _, fused, read, captured, triggered, ranked, sunk, melted, cast, cleared⟩, rfl, rfl,
    rfl, ⟨stands, rfl, fuses, reads, captures, triggers, ranks, sinks, melts, casts, clears, rfl⟩⟩

-- Why a turn is refused.
inductive Stalls (s : State) (d : Direction) : Prop where
  | cleared (won : s.won = true)
  | nobody (ready : State) (refreshed : Roles.refresh s.quiet = .ok ready) (vacant : ready.player = none)
  | blocked (ready : State) (player : EntityId) (refreshed : Roles.refresh s.quiet = .ok ready)
      (plays : ready.player = some player) (halts : Movement.run ready.markStarts player d = .ok none)

theorem lead_goes (s t : State) (d : Direction) (g : Stages) (lead : g.Lead s d t) : ¬ Stalls s d := by
  intro stalls
  cases stalls with
  | cleared won => cases lead.unwon.symm.trans won
  | nobody ready refreshed vacant =>
      cases lead.refreshes.symm.trans refreshed
      cases lead.plays.symm.trans vacant
  | blocked ready mover refreshed playing halts =>
      cases lead.refreshes.symm.trans refreshed
      cases lead.plays.symm.trans playing
      cases lead.moves.symm.trans halts

theorem counted_not_refused (s t : State) (counted : t.moves = s.moves + 1) : ¬ ∃ message, t = refuse s message := by
  intro ⟨message, refused⟩
  have still : t.moves = s.moves := by
    rw [refused]
    rfl
  omega

theorem play_stages (s t : State) (d : Direction) (played : play s d = .ok t) :
    (Stalls s d ∧ ∃ message, t = refuse s message) ∨ ∃ g : Stages, g.Lead s d t := by
  rw [play] at played
  by_cases won : s.won = true
  · rw [if_pos won] at played
    exact .inl ⟨.cleared won, clearedMessage, (Except.ok.inj played).symm⟩
  · rw [if_neg won] at played
    obtain ⟨ready, refreshed, played⟩ := Attempt.bind_ok _ _ _ played
    dsimp only at played
    cases plays : ready.player with
    | none =>
        rw [show ready.markStarts.player = none from plays] at played
        exact .inl ⟨.nobody ready refreshed plays, nobodyMessage, (Except.ok.inj played).symm⟩
    | some player =>
        rw [show ready.markStarts.player = some player from plays] at played
        obtain ⟨after, moves, played⟩ := Attempt.bind_ok _ _ _ played
        cases after with
        | none => exact .inl ⟨.blocked ready player refreshed plays moves, blockedMessage, (Except.ok.inj played).symm⟩
        | some gone =>
            obtain ⟨g, rfl, rfl, rfl, follow⟩ := commit_stages s.rules player d ready gone t played
            exact .inr ⟨g, Bool.eq_false_iff.mpr won, refreshed, plays, moves, follow⟩

theorem counted_lead (s t : State) (d : Direction) (played : play s d = .ok t) (counted : t.moves = s.moves + 1) :
    ∃ g : Stages, g.Lead s d t :=
  (play_stages s t d played).resolve_left fun ⟨_, refused⟩ => counted_not_refused s t counted refused

end KanjiPuzzle.Turn
