import KanjiPuzzle.Proofs.WellFormed

set_option autoImplicit false

/- The states of play on a level: the loaded one, and all that turns lead to from there. What is reported does not
   count, so that every state a session shows is one of them. -/
namespace KanjiPuzzle

theorem State.told_alike (s t : State) (same : s.quiet = t.quiet) : s = { t with events := s.events } := by
  have silent : s = { s.quiet with events := s.events } := rfl
  rw [same] at silent
  exact silent

namespace Turn

inductive Reached (catalog : Catalog) (level : Level) : State → Prop where
  | loaded (built first : State) (accepted : level.toState catalog = .ok built) (settled : settle built = .ok first) :
      Reached catalog level first
  | played (s t : State) (d : Direction) (reached : Reached catalog level s) (turned : play s d = .ok t) :
      Reached catalog level t
  | retold (s : State) (events : List Event) (reached : Reached catalog level s) :
      Reached catalog level { s with events := events }

theorem loaded_reached (catalog : Catalog) (level : Level) (first : State)
    (load : Session.loaded catalog level = .ok first) : Reached catalog level first := by
  obtain ⟨built, accepted, settled⟩ := Attempt.bind_ok _ _ _ load
  exact .loaded built first accepted settled

section Reached

variable (catalog : Catalog) (level : Level) (s : State) (reached : Reached catalog level s)
include reached

theorem reached_between : s.Between catalog level := by
  induction reached with
  | loaded built first accepted settled =>
      obtain ⟨again, answered, between⟩ := settle_between catalog level built accepted
      cases settled.symm.trans answered
      exact between
  | played s t d _ turned ih =>
      obtain ⟨again, answered, between⟩ := play_between catalog level s ih d
      cases turned.symm.trans answered
      exact between
  | retold s events _ ih =>
      have recast : s.Recast { s with events := events } := ⟨s.player, s.goal, s.won, events, rfl⟩
      exact s.recast_between catalog level _ ih recast fun role => by cases role <;> rfl

theorem reached_plays (d : Direction) : ∃ t, play s d = .ok t ∧ Reached catalog level t := by
  obtain ⟨t, turned, _⟩ := play_between catalog level s (reached_between catalog level s reached) d
  exact ⟨t, turned, .played s t d reached turned⟩

theorem reached_replays (moves : List Direction) : ∃ t, replay s moves = .ok t ∧ Reached catalog level t :=
  Attempt.through_answers (Reached catalog level) play moves s reached fun s d _ reached =>
    reached_plays catalog level s reached d

end Reached

theorem recalls_reached (catalog : Catalog) (level : Level) (first : State) (reached : Reached catalog level first)
    (net : List Direction) (s : State) (history : List State) (recalls : Recalls first net s history) :
    Reached catalog level s := by
  induction recalls with
  | opened s same =>
      rw [s.told_alike first same]
      exact .retold first s.events reached
  | moved net d previous next s earlier _ _ played same ih =>
      rw [s.told_alike next same]
      exact .retold next s.events (.played previous next d ih played)

end Turn

theorem Session.faithful_reached (s : Session) (net : List Direction) (faithful : s.Faithful net) :
    Turn.Reached s.catalog s.level s.state := by
  obtain ⟨first, load, recalls⟩ := faithful
  exact Turn.recalls_reached s.catalog s.level first (Turn.loaded_reached s.catalog s.level first load) net s.state
    s.history recalls

end KanjiPuzzle
