import KanjiPuzzle.Proofs.Commitment
import KanjiPuzzle.Proofs.RenamedRoles

set_option autoImplicit false

/- Only the order of the numbers matters. A turn makes of the renamed game what it makes of the game, renamed, as long
   as the numbers of new entities keep in step; and so does every row of turns. -/
namespace KanjiPuzzle

namespace State

variable (s : State) (grounded : s.Grounded)
include grounded

omit grounded in
theorem advance_unruled (rules : List Rule) (o : Offset) (budget : Nat) :
    Movement.advance { s with rules := rules } o budget = Movement.advance s o budget := by
  induction budget with
  | zero => rfl
  | succ less ih =>
      funext pushing id scene
      rw [Movement.advance, Movement.advance, ih]
      rfl

omit grounded in
theorem movement_unruled (rules : List Rule) (id : EntityId) (d : Direction) :
    Movement.run { s with rules := rules } id d =
      (Movement.run s id d).map (Option.map fun t => { t with rules := rules }) := by
  have effort : Movement.budget { s with rules := rules } = Movement.budget s := rfl
  rw [Movement.run, Movement.run, advance_unruled, effort]
  cases s.positions.get? id with
  | none => rfl
  | some cell =>
      dsimp only
      cases Movement.advance s d.offset (Movement.budget s) [] id ⟨s.positions, []⟩ with
      | ok scene => rfl
      | error halt =>
          cases halt with
          | refused => rfl
          | fault cause => rfl
          | exhausted => rfl

theorem movement_grounded (id : EntityId) (d : Direction) :
    ∃ after, Movement.run s id d = .ok after ∧ ∀ t, after = some t → t.Grounded ∧ t.Alive id := by
  obtain ⟨after, moved, carried⟩ := Movement.movement_answers { s with rules := [] } grounded id d
  rw [movement_unruled] at moved
  cases went : Movement.run s id d with
  | error cause =>
      rw [went] at moved
      cases moved
  | ok gone =>
      rw [went] at moved
      apply Exists.intro gone
      constructor
      · rfl
      · intro t same
        subst same
        obtain ⟨continues, alive⟩ := carried { t with rules := [] } (Except.ok.inj moved).symm
        exact ⟨continues.sound, alive⟩

end State

namespace Turn

-- The reading after a movement replaces whatever rules there were.
theorem aftermath_unruled (before rules : List Rule) (s : State) :
    aftermath before { s with rules := rules } = aftermath before s := by
  have spawned (found : List Fusion.Pairing) (s : State) :
      found.foldl Fusion.spawn { s with rules := rules } = { found.foldl Fusion.spawn s with rules := rules } := by
    induction found generalizing s with
    | nil => rfl
    | cons p rest ih => exact ih (Fusion.spawn s p)
  have same : Fusion.pairings { s with rules := rules } = Fusion.pairings s := rfl
  rw [aftermath, aftermath, Fusion.run, Fusion.run, same]
  cases Fusion.pairings s with
  | error cause => rfl
  | ok found =>
      have fused := spawned found (s.remove (Fusion.used found))
      rw [Attempt.ok_bind, Attempt.ok_bind]
      exact (congrArg (fun t : State => Reading.run t true >>= _) fused).trans rfl

theorem commit_unruled (before rules : List Rule) (player : EntityId) (d : Direction) (s : State) :
    commit before player d { s with rules := rules } = commit before player d s := by
  have stands : State.cellOf { s with rules := rules } player = s.cellOf player := rfl
  rw [commit, commit, stands]
  apply congrArg
  funext cell
  have after := aftermath_unruled before rules ({ s with moves := s.moves + 1 }.report ⟨.move, movedMessage d, [cell]⟩)
  exact congrArg (· >>= fun t => .ok (reportSilence d t)) after

theorem play_grounded (s : State) (grounded : s.Grounded) (d : Direction) : ∃ t, play s d = .ok t ∧ t.Grounded := by
  have refused (message : String) : (refuse s message).Grounded := s.grounded_board _ grounded rfl rfl rfl
  rw [play]
  by_cases won : s.won = true
  · rw [if_pos won]
    exact ⟨_, rfl, refused clearedMessage⟩
  · have quiet : State.Grounded { s with events := [] } := s.grounded_board _ grounded rfl rfl rfl
    obtain ⟨ready, refreshed, kept⟩ := Roles.refresh_grounded _ quiet
    have marked : ready.markStarts.Grounded := ready.grounded_board _ kept rfl rfl rfl
    rw [if_neg won, refreshed, Attempt.ok_bind]
    dsimp only
    cases ready.markStarts.player with
    | none => exact ⟨_, rfl, refused nobodyMessage⟩
    | some player =>
        obtain ⟨after, moved, carried⟩ := State.movement_grounded _ marked player d
        dsimp only
        rw [moved, Attempt.ok_bind]
        cases after with
        | none => exact ⟨_, rfl, refused blockedMessage⟩
        | some gone =>
            obtain ⟨ground, alive⟩ := carried gone rfl
            obtain ⟨t, committed, sound, _, _⟩ := commit_answers s.rules player d { gone with rules := [] } ground alive
            rw [commit_unruled] at committed
            exact ⟨t, committed, t.sound_grounded sound⟩

theorem play_numbers (s t : State) (d : Direction) (played : play s d = .ok t) :
    ∃ given : Nat, t.nextId = s.nextId + given := by
  have fresh : s.nextId ≤ t.nextId := by
    rcases play_stages s t d played with ⟨_, message, rfl⟩ | ⟨g, lead⟩
    · exact Int.le_refl _
    · have ready := (s.quiet.recast_upkeep g.ready (Roles.refresh_ok s.quiet g.ready lead.refreshes).2.1).fresh
      have gone := (Movement.run_upkeep _ g.gone g.player d lead.moves).fresh
      have after := (counted_upkeep g s.rules d t lead.follow).fresh
      rw [lead.follow.counts] at after
      exact Int.le_trans ready (Int.le_trans gone after)
  obtain ⟨given, number⟩ := Int.le.dest fresh
  exact ⟨given, number.symm⟩

section Renamed

variable (f : Renaming)

theorem report_change_renamed (before : List Rule) (s : State) :
    reportChange before (s.renamed f) = (reportChange before s).renamed f := by
  rw [reportChange, reportChange, s.renamed_rules]
  by_cases same : Rule.setSignature s.rules = Rule.setSignature before
  · rw [if_pos same, if_pos same]
  · rw [if_neg same, if_neg same]
    rfl

theorem report_silence_renamed (d : Direction) (s : State) :
    reportSilence d (s.renamed f) = (reportSilence d s).renamed f := by
  have events : (s.renamed f).events = s.events := rfl
  rw [reportSilence, reportSilence, events]
  cases s.events.isEmpty with
  | true => rfl
  | false => rfl

theorem aftermath_renamed (before : List Rule) (s : State) (steps : f.StepsFrom s.nextId) :
    aftermath before (s.renamed f) = Attempt.both f.fault (State.renamed · f) (aftermath before s) := by
  have reported : f.Commutes fun s => .ok (reportChange before s) := fun s =>
    congrArg Except.ok (report_change_renamed f before s)
  have struck := f.commutes_then _ _ (Hazards.sink_renamed f) (f.commutes_then _ _ (Hazards.melt_renamed f)
    (f.commutes_then _ _ (Roles.refresh_renamed f) (Victory.run_renamed f)))
  have ranked := f.commutes_then _ _ (Roles.refresh_renamed f) (f.commutes_then _ _ reported struck)
  have handed := f.commutes_then _ _ (Roles.capture_new_renamed f before)
    (f.commutes_then _ _ (Roles.trigger_slots_renamed f) ranked)
  have read := f.commutes_then _ _ (Reading.run_renamed f true) handed
  rw [aftermath, aftermath, Fusion.run_renamed s f steps]
  exact Attempt.bind_both _ _ _ _ _ _ read

theorem commit_renamed (before : List Rule) (player : EntityId) (d : Direction) (s : State)
    (steps : f.StepsFrom s.nextId) :
    commit before (f.image player) d (s.renamed f) =
      Attempt.both f.fault (State.renamed · f) (commit before player d s) := by
  rw [commit, commit, s.cell_of_renamed]
  apply Attempt.bind_both
  intro cell
  have after := aftermath_renamed f before ({ s with moves := s.moves + 1 }.report ⟨.move, movedMessage d, [cell]⟩) steps
  refine (congrArg (· >>= fun t => .ok (reportSilence d t)) after).trans ?_
  apply Attempt.bind_both
  intro t
  exact congrArg Except.ok (report_silence_renamed f d t)

theorem play_renamed (s : State) (d : Direction) (steps : f.StepsFrom s.nextId) :
    play (s.renamed f) d = Attempt.both f.fault (State.renamed · f) (play s d) := by
  have ready : Roles.refresh { s.renamed f with events := [] } =
      Attempt.both f.fault (State.renamed · f) (Roles.refresh { s with events := [] }) :=
    Roles.refresh_renamed f { s with events := [] }
  by_cases cleared : s.won = true
  · have won : (s.renamed f).won = true := cleared
    rw [play, play, if_pos won, if_pos cleared]
    rfl
  · have open_level : ¬ (s.renamed f).won = true := cleared
    rw [play, play, if_neg open_level, if_neg cleared, ready]
    cases refreshed : Roles.refresh { s with events := [] } with
    | error cause => rfl
    | ok ready =>
        have recast := (Roles.refresh_ok _ ready refreshed).2.1
        have number : ready.nextId = s.nextId := by
          obtain ⟨_, _, _, _, rfl⟩ := recast
          rfl
        have marked : (ready.renamed f).markStarts = ready.markStarts.renamed f := rfl
        rw [Attempt.both, Attempt.ok_bind, Attempt.ok_bind]
        dsimp only
        rw [marked, State.renamed_player]
        cases ready.markStarts.player with
        | none => rfl
        | some player =>
            dsimp only [Option.map]
            rw [Movement.run_renamed]
            cases moves : Movement.run ready.markStarts player d with
            | error cause => rfl
            | ok after =>
                cases after with
                | none => rfl
                | some gone =>
                    have kept : gone.nextId = s.nextId := by
                      obtain ⟨_, _, _, rfl⟩ := Movement.run_ok _ gone player d moves
                      exact number
                    exact commit_renamed f s.rules player d gone (kept ▸ steps)

end Renamed

theorem order_alone_matters (s : State) (placed : ∀ id, s.positions.contains id = s.definitions.contains id)
    (known : ∀ id definition, s.definitions.get? id = some definition → s.catalog.contains definition = true)
    (f : Renaming) (steps : f.StepsFrom s.nextId) :
    (∀ d, ∃ t, play s d = .ok t ∧ play (s.renamed f) d = .ok (t.renamed f)) ∧
      ∀ moves, ∃ t, replay s moves = .ok t ∧ replay (s.renamed f) moves = .ok (t.renamed f) := by
  have grounded : s.Grounded := ⟨placed, known, fun _ member => nomatch member⟩
  have turn (s : State) (grounded : s.Grounded) (steps : f.StepsFrom s.nextId) (d : Direction) :
      ∃ t, play s d = .ok t ∧ play (s.renamed f) d = .ok (t.renamed f) ∧ t.Grounded ∧ f.StepsFrom t.nextId := by
    obtain ⟨t, played, kept⟩ := play_grounded s grounded d
    obtain ⟨given, number⟩ := play_numbers s t d played
    have renamed := play_renamed f s d steps
    rw [played] at renamed
    exact ⟨t, played, renamed, kept, number ▸ f.steps_later s.nextId given steps⟩
  constructor
  · intro d
    obtain ⟨t, played, renamed, _⟩ := turn s grounded steps d
    exact ⟨t, played, renamed⟩
  · clear placed known
    intro moves
    induction moves generalizing s with
    | nil => exact ⟨s, rfl, rfl⟩
    | cons d rest ih =>
        obtain ⟨t, played, renamed, kept, later⟩ := turn s grounded steps d
        obtain ⟨final, first, second⟩ := ih t later kept
        apply Exists.intro final
        rw [replay, replay, Attempt.through, Attempt.through, played, renamed]
        exact ⟨first, second⟩

def spread : Renaming where
  image := fun id : Int => if id < 7 then 10 * id else id + 63
  increasing := by
    intro (a : Int) (b : Int) (less : a < b)
    show (if a < 7 then 10 * a else a + 63) < (if b < 7 then 10 * b else b + 63)
    by_cases low : a < 7
    · by_cases high : b < 7
      · rw [if_pos low, if_pos high]
        omega
      · rw [if_pos low, if_neg high]
        omega
    · rw [if_neg low, if_neg (by omega)]
      omega

theorem spread_steps : spread.StepsFrom 7 := by
  intro count
  have new (id : Int) (late : ¬ id < 7) : spread.image id = id + 63 := if_neg late
  rw [new 7 (by omega), new (7 + count) (by omega)]
  exact Int.add_right_comm 7 count 63

def hearth : Level where
  heading := ⟨"hearth", "Hearth", .null⟩
  extent := ⟨5, 2⟩
  placements := [⟨"obj-human", ⟨0, 0⟩⟩, ⟨"obj-tree", ⟨3, 0⟩⟩, ⟨"obj-fire", ⟨4, 0⟩⟩, ⟨"txt-human", ⟨0, 1⟩⟩,
    ⟨"txt-topic", ⟨1, 1⟩⟩, ⟨"txt-you", ⟨2, 1⟩⟩]

theorem hearth_burns_alike :
    ∃ s t, Session.loaded .standard hearth = .ok s ∧ replay s [.right, .down] = .ok t ∧ t.nextId = 8 ∧
      replay (s.renamed spread) [.right, .down] = .ok (t.renamed spread) ∧ (t.renamed spread).nextId = 71 := by
  have burnt : (do
      let s ← Session.loaded .standard hearth
      let t ← replay s [.right, .down]
      .ok (s.nextId, t.nextId)) = Except.ok ((7 : EntityId), (8 : EntityId)) := by rfl
  obtain ⟨s, loads, burnt⟩ := Attempt.bind_ok _ _ _ burnt
  obtain ⟨t, moves, burnt⟩ := Attempt.bind_ok _ _ _ burnt
  obtain ⟨first, last⟩ := Prod.mk.inj (Except.ok.inj burnt)
  have sound := (Session.loaded_sound .standard hearth s loads).1
  have steps : spread.StepsFrom s.nextId := first ▸ spread_steps
  obtain ⟨final, replayed, alike⟩ :=
    (order_alone_matters s sound.placed sound.known spread steps).2 [.right, .down]
  cases moves.symm.trans replayed
  have number : (t.renamed spread).nextId = spread.image t.nextId := rfl
  exact ⟨s, t, loads, moves, last, alike, by rw [number, last]; rfl⟩

end Turn

end KanjiPuzzle
