import Mathlib.Data.List.Induction
import KanjiPuzzle.Proofs.Readings
import KanjiPuzzle.Proofs.Tenure

set_option autoImplicit false

/- What removal leaves behind. An entity that fusion or a hazard takes loses its definition and its place, but where it
   stood when the turn started stays written down until another turn is played. -/
namespace KanjiPuzzle.Turn

inductive Taken (g : Stages) (id : EntityId) : Prop where
  | fused (before : g.counted.Alive id) (after : ¬ g.fused.Alive id)
  | sunk (before : g.ranked.Alive id) (after : ¬ g.sunk.Alive id)
  | melted (before : g.sunk.Alive id) (after : ¬ g.melted.Alive id)

-- The last turn of a run that was not refused, and the board that it began on.
inductive LastTurn (first : State) (moves : List Direction) (s board : State) (g : Stages) : Prop where
  | committed (t : State) (d : Direction) (done rest : List Direction) (split : moves = done ++ d :: rest)
      (begun : replay first done = .ok board) (played : play board d = .ok t) (lead : g.Lead board d t)
      (still : s.quiet = t.quiet)

theorem last_turn_refused (first s : State) (moves : List Direction) (d : Direction) (message : String) (board : State)
    (g : Stages) (last : LastTurn first moves s board g) :
    LastTurn first (moves ++ [d]) (refuse s message) board g := by
  obtain ⟨t, e, done, rest, rfl, begun, played, lead, still⟩ := last
  exact ⟨t, e, done, rest ++ [d], by simp, begun, played, lead, still⟩

-- By induction on the run from its end: a turn that is refused leaves the last one where it was.
theorem last_turn_found (first s : State) (moves : List Direction) (replayed : replay first moves = .ok s) :
    s.quiet = first.quiet ∨ ∃ board g, LastTurn first moves s board g := by
  induction moves using List.reverseRecOn generalizing s with
  | nil =>
      cases replayed
      exact .inl rfl
  | append_singleton moves d ih =>
      rw [replay, Attempt.through_append] at replayed
      obtain ⟨before, reached, later⟩ := Attempt.bind_ok _ _ _ replayed
      obtain ⟨t, played, ends⟩ := Attempt.bind_ok _ _ _ later
      cases ends
      rcases play_stages before s d played with ⟨_, message, rfl⟩ | ⟨g, lead⟩
      · refine (ih before reached).imp_right ?_
        rintro ⟨board, g, last⟩
        exact ⟨board, g, last_turn_refused first before moves d message board g last⟩
      · exact .inr ⟨before, g, s, d, moves, [], rfl, reached, played, lead, rfl⟩

theorem settled_starts (built first : State) (settled : settle built = .ok first) : first.starts = first.positions := by
  obtain ⟨_, _, settled⟩ := Attempt.bind_ok _ _ _ settled
  obtain ⟨_, _, settled⟩ := Attempt.bind_ok _ _ _ settled
  cases settled
  rfl

section Lead

variable (g : Stages) (s t : State) (d : Direction) (lead : g.Lead s d t)
include lead

theorem lead_starts : t.starts = s.positions := by
  obtain ⟨_, recast, _⟩ := Roles.refresh_ok s.quiet g.ready lead.refreshes
  have moved := Movement.run_upkeep g.ready.markStarts g.gone g.player d lead.moves
  have counted : g.counted.starts = g.gone.starts := by
    rw [lead.follow.counts]
    rfl
  calc
    t.starts = g.counted.starts := (counted_upkeep g s.rules d t lead.follow).starts
    _ = g.ready.markStarts.starts := counted.trans moved.starts
    _ = s.positions := by
        obtain ⟨_, _, _, _, same⟩ := recast
        rw [same]
        rfl

theorem lead_counted_alive (id : EntityId) : g.counted.Alive id ↔ s.Alive id := by
  obtain ⟨_, recast, _⟩ := Roles.refresh_ok s.quiet g.ready lead.refreshes
  obtain ⟨_, _, _, moved⟩ := Movement.run_ok g.ready.markStarts g.gone g.player d lead.moves
  have counted : g.counted.Alive id ↔ g.ready.Alive id := by
    rw [lead.follow.counts, moved]
    exact Iff.rfl
  exact counted.trans (s.quiet.recast_alive g.ready recast id)

theorem lead_lost_iff (id : EntityId) (stood : s.Alive id) : ¬ t.Alive id ↔ Taken g id := by
  have ranked := ranked_alive_iff g s.rules d t lead.follow id
  have ends := melted_alive_iff g s.rules d t lead.follow id
  have changing := report_change_retold s.rules g.ranked
  have told := g.ranked.recast_alive _ (g.ranked.retold_recast _ changing) id
  have sinking := (State.onward_thinned _ _ (Hazards.strike_thinned _ _ _ g.sunk lead.follow.sinks)).alive id
  have melting := (State.onward_thinned _ _ (Hazards.strike_thinned _ _ _ g.melted lead.follow.melts)).alive id
  constructor
  · intro lost
    by_cases fused : g.fused.Alive id
    · by_cases sunk : g.sunk.Alive id
      · exact .melted sunk (mt ends.mpr lost)
      · exact .sunk (ranked.mpr fused) sunk
    · exact .fused ((lead_counted_alive g s t d lead id).mpr stood) fused
  · rintro taken alive
    have afloat := melting (ends.mp alive)
    cases taken with
    | fused _ after => exact after (ranked.mp (told.mp (sinking afloat)))
    | sunk _ after => exact after afloat
    | melted _ after => exact after (ends.mp alive)

end Lead

section LastTurn

variable (first s board : State) (moves : List Direction) (g : Stages) (last : LastTurn first moves s board g)
include last

theorem last_turn_starts : s.starts = board.positions := by
  obtain ⟨t, d, _, _, _, _, _, lead, still⟩ := last
  exact (congrArg State.starts still).trans (lead_starts g board t d lead)

theorem last_turn_lost_iff (id : EntityId) (stood : board.Alive id) : ¬ s.Alive id ↔ Taken g id := by
  obtain ⟨t, d, _, _, _, _, _, lead, still⟩ := last
  have alike : s.Alive id ↔ t.Alive id := by
    rw [s.told_alike t still]
    exact Iff.rfl
  exact (not_congr alike).trans (lead_lost_iff g board t d lead id stood)

theorem last_turn_sound (catalog : Catalog) (level : Level) (opening : first.Between catalog level) : board.Sound := by
  obtain ⟨_, _, done, _, _, begun, _⟩ := last
  obtain ⟨again, same, between⟩ := replay_between catalog level first opening done
  cases begun.symm.trans same
  exact between.sound

end LastTurn

theorem only_starts_outlast (catalog : Catalog) (level : Level) (built : State)
    (accepted : level.toState catalog = .ok built) (moves : List Direction) :
    ∃ first s, settle built = .ok first ∧ replay first moves = .ok s ∧
      (∀ id, s.positions.contains id = true ↔ s.Alive id) ∧
      (∀ board g, LastTurn first moves s board g → s.starts = board.positions) ∧
      ∀ id, (s.starts.contains id = true ∧ ¬ s.Alive id) ↔
        ∃ board g, LastTurn first moves s board g ∧ board.Alive id ∧ Taken g id := by
  obtain ⟨first, settled, opening⟩ := settle_between catalog level built accepted
  obtain ⟨s, replayed, between⟩ := replay_between catalog level first opening moves
  have standing (t : State) (sound : t.Sound) (id : EntityId) : t.positions.contains id = true ↔ t.Alive id := by
    rw [sound.placed, State.Alive]
  have written (board : State) (g : Stages) (last : LastTurn first moves s board g) (id : EntityId) :
      s.starts.contains id = true ↔ board.Alive id := by
    rw [last_turn_starts first s board moves g last]
    exact standing board (last_turn_sound first s board moves g last catalog level opening) id
  refine ⟨first, s, settled, replayed, standing s between.sound, fun board g => last_turn_starts first s board moves g,
    fun id => ⟨?_, ?_⟩⟩
  · rintro ⟨listed, gone⟩
    rcases last_turn_found first s moves replayed with still | ⟨board, g, last⟩
    · -- While every turn was refused, the starts are where the loaded level puts everything.
      have marked := settled_starts built first settled
      rw [s.told_alike first still] at listed gone
      exact absurd ((standing first opening.sound id).mp (marked ▸ listed)) gone
    · have stood := (written board g last id).mp listed
      exact ⟨board, g, last, stood, (last_turn_lost_iff first s board moves g last id stood).mp gone⟩
  · rintro ⟨board, g, last, stood, taken⟩
    exact ⟨(written board g last id).mpr stood, (last_turn_lost_iff first s board moves g last id stood).mpr taken⟩

def pond : Level where
  heading := ⟨"pond", "Pond", .null⟩
  extent := ⟨3, 2⟩
  placements := [⟨"obj-human", ⟨0, 0⟩⟩, ⟨"obj-water", ⟨1, 0⟩⟩, ⟨"txt-human", ⟨0, 1⟩⟩, ⟨"txt-topic", ⟨1, 1⟩⟩,
    ⟨"txt-you", ⟨2, 1⟩⟩]

theorem pond_run :
    ∃ built first s, pond.toState .standard = .ok built ∧ settle built = .ok first ∧
      replay first [.right, .left] = .ok s ∧ s.definitions.ids = [3, 4, 5] ∧ s.positions.ids = [3, 4, 5] ∧
      s.starts.entries = [(1, ⟨0, 0⟩), (2, ⟨1, 0⟩), (3, ⟨0, 1⟩), (4, ⟨1, 1⟩), (5, ⟨2, 1⟩)] := by
  have walked : (do
      let built ← pond.toState .standard
      let first ← settle built
      let s ← replay first [.right, .left]
      .ok (s.definitions.ids, s.positions.ids, s.starts.entries)) = Except.ok
      ([3, 4, 5], [3, 4, 5], [(1, ⟨0, 0⟩), (2, ⟨1, 0⟩), (3, ⟨0, 1⟩), (4, ⟨1, 1⟩), (5, ⟨2, 1⟩)]) := by rfl
  obtain ⟨built, accepted, walked⟩ := Attempt.bind_ok _ _ _ walked
  obtain ⟨first, settled, walked⟩ := Attempt.bind_ok _ _ _ walked
  obtain ⟨s, replayed, walked⟩ := Attempt.bind_ok _ _ _ walked
  simp only [Except.ok.injEq, Prod.mk.injEq] at walked
  exact ⟨built, first, s, accepted, settled, replayed, walked⟩

theorem pond_keeps_its_starts :
    ∃ built first s, pond.toState .standard = .ok built ∧ settle built = .ok first ∧
      replay first [.right, .left] = .ok s ∧ s.starts.contains 2 = true ∧ ¬ s.Alive 2 ∧
      ∃ board g, LastTurn first [.right, .left] s board g ∧ board.Alive 2 ∧ Taken g 2 ∧
        s.starts = board.positions := by
  obtain ⟨built, first, s, accepted, settled, replayed, left, _, written⟩ := pond_run
  obtain ⟨again, final, same, reached, _, starts, outlasting⟩ :=
    only_starts_outlast .standard pond built accepted [.right, .left]
  cases settled.symm.trans same
  cases replayed.symm.trans reached
  have listed : s.starts.contains 2 = true := by
    rw [EntityMap.contains_iff, EntityMap.ids, written]
    decide
  have gone : ¬ s.Alive 2 := by
    rw [s.alive_iff, left]
    decide
  obtain ⟨board, g, last, stood, taken⟩ := (outlasting 2).mp ⟨listed, gone⟩
  exact ⟨built, first, s, accepted, settled, replayed, listed, gone, board, g, last, stood, taken, starts board g last⟩

theorem drowned_human_written_down :
    ∃ built first s, pond.toState .standard = .ok built ∧ settle built = .ok first ∧
      replay first [.right, .left] = .ok s ∧ s.starts.contains 1 = true ∧ s.positions.contains 1 = false ∧
      ¬ s.Alive 1 := by
  obtain ⟨built, first, s, accepted, settled, replayed, left, stands, written⟩ := pond_run
  refine ⟨built, first, s, accepted, settled, replayed, ?_, ?_, ?_⟩
  · rw [EntityMap.contains_iff, EntityMap.ids, written]
    decide
  · rw [Bool.eq_false_iff, Ne, EntityMap.contains_iff, stands]
    decide
  · rw [s.alive_iff, left]
    decide

end KanjiPuzzle.Turn
