import KanjiPuzzle.Proofs.Settling

set_option autoImplicit false

/- A game that is taken up again where it began. What a settled board is kept as is built to the same board, if nothing
   of it is off the board; so what becomes of it is a matter of settling it once more. -/
namespace KanjiPuzzle

namespace State

theorem numbered_again (s : State) (first : EntityId) (older placements : List Placement)
    (entries : List (EntityId × Cell)) (ids : entries.map Prod.fst = (Level.numbered first older).map Prod.fst)
    (made : Attempt.each (fun entry : EntityId × Cell => do .ok ⟨← s.definitionIdOf entry.1, entry.2⟩) entries =
      Except.ok placements) :
    (Level.numbered first placements).map (fun entry => (entry.1, entry.2.cell)) = entries ∧
      ∀ entry ∈ Level.numbered first placements, s.definitions.get? entry.1 = some entry.2.definition := by
  induction older generalizing first entries placements with
  | nil =>
      cases List.map_eq_nil_iff.mp ids
      cases made
      exact ⟨rfl, nofun⟩
  | cons p rest ih =>
      cases entries with
      | nil => cases ids
      | cons entry later =>
          obtain ⟨here, there⟩ := List.cons.inj ids
          obtain ⟨made_here, answer, made⟩ := Attempt.bind_ok _ _ _ made
          obtain ⟨made_there, answers, made⟩ := Attempt.bind_ok _ _ _ made
          obtain ⟨definition, stored, answer⟩ := Attempt.bind_ok _ _ _ answer
          cases answer
          cases made
          obtain ⟨cells, definitions⟩ := ih (first + 1) made_there later there answers
          have number : first = entry.1 := here.symm
          refine ⟨?_, fun other member => ?_⟩
          · rw [Level.numbered, List.map_cons, cells, number]
          · rcases List.mem_cons.mp member with rfl | after
            · exact number ▸ s.stored_of_id entry.1 definition stored
            · exact definitions other after

theorem tables_again (s : State) (placed : ∀ id, s.positions.contains id = s.definitions.contains id)
    (older placements : List Placement) (ids : s.positions.ids = (Level.numbered 1 older).map Prod.fst)
    (made : Attempt.each (fun entry : EntityId × Cell => do .ok ⟨← s.definitionIdOf entry.1, entry.2⟩)
      s.positions.entries = Except.ok placements) :
    EntityMap.ofList ((Level.numbered 1 placements).map fun entry => (entry.1, entry.2.cell)) = s.positions ∧
      EntityMap.ofList ((Level.numbered 1 placements).map fun entry => (entry.1, entry.2.definition)) =
        s.definitions := by
  obtain ⟨cells, defined⟩ := s.numbered_again 1 older placements s.positions.entries ids made
  apply And.intro
  · refine EntityMap.eq_of_get _ _ fun id => ?_
    rw [EntityMap.get?, Level.numbered_entries placements Placement.cell, cells]
    rfl
  · refine EntityMap.eq_of_get _ _ fun id => ?_
    have listed : id ∈ (Level.numbered 1 placements).map Prod.fst ↔ s.Alive id := by
      rw [Alive, ← placed, EntityMap.contains_iff, EntityMap.ids, ← cells, List.map_map]
      rfl
    by_cases alive : s.Alive id
    · obtain ⟨entry, member, rfl⟩ := List.mem_map.mp (listed.mpr alive)
      rw [defined entry member, ← EntityMap.mem_entries_iff, Level.numbered_entries placements Placement.definition]
      exact List.mem_map.mpr ⟨entry, member, rfl⟩
    · rw [s.gone_get id alive]
      refine Option.not_isSome_iff_eq_none.mp fun stored => alive (listed.mp ?_)
      have within := (EntityMap.contains_of_list_iff _ id).mp stored
      rw [List.map_map] at within
      exact within

theorem kept_unread (s : State) (catalog : Catalog) (level l : Level) (built : State)
    (accepted : level.toState catalog = .ok built) (inside : s.Inside) (sound : s.Sound)
    (same : s.unread = { built.unread with definitions := s.definitions }) (kept : s.toLevel = .ok l) :
    l.toState s.catalog = .ok s.unread := by
  obtain ⟨_, _, made⟩ := Attempt.bind_ok _ _ _ accepted
  cases made
  have board : s.positions = EntityMap.ofList ((Level.numbered 1 level.placements).map fun entry =>
      (entry.1, entry.2.cell)) := congrArg State.positions same
  have entries : s.positions.entries = (Level.numbered 1 level.placements).map fun entry => (entry.1, entry.2.cell) := by
    rw [board, Level.numbered_entries level.placements Placement.cell]
  have heading : s.heading = level.heading := congrArg State.heading same
  have extent : s.extent = level.extent := congrArg State.extent same
  have sameCatalog : s.catalog = catalog := congrArg State.catalog same
  have placements := s.kept_placements l kept
  rw [s.inside_shown inside] at placements
  have ids : s.positions.ids = (Level.numbered 1 level.placements).map Prod.fst := by
    rw [EntityMap.ids, entries, List.map_map]
    rfl
  obtain ⟨positions, definitions⟩ := s.tables_again sound.placed level.placements l.placements ids placements
  have count : l.placements.length = level.placements.length := by
    have sizes := congrArg EntityMap.size positions
    rw [EntityMap.size, EntityMap.size, Level.numbered_entries l.placements Placement.cell, entries, List.length_map,
      List.length_map, Level.numbered_length, Level.numbered_length] at sizes
    exact sizes
  obtain ⟨t, answered, _⟩ := l.to_state_answers s.catalog fun p member => by
    obtain ⟨_, id, stored⟩ := s.kept_placement l kept p member
    exact sound.known id p.definition stored
  obtain ⟨_, _, made⟩ := Attempt.bind_ok _ _ _ answered
  cases made
  rw [answered, same, positions, definitions, count, (s.kept_frame l kept).1, (s.kept_frame l kept).2, heading, extent,
    sameCatalog, board]
  rfl

end State

namespace Level

theorem built_unread (l : Level) (catalog : Catalog) (t : State) (built : l.toState catalog = .ok t) : t.unread = t := by
  obtain ⟨_, _, made⟩ := Attempt.bind_ok _ _ _ built
  cases made
  rfl

theorem built_stands (l : Level) (catalog : Catalog) (t : State) (built : l.toState catalog = .ok t) (p : Placement)
    (member : p ∈ l.placements) : ∃ id, t.positions.get? id = some p.cell := by
  obtain ⟨_, _, made⟩ := Attempt.bind_ok _ _ _ built
  cases made
  rw [← numbered_placements 1 l.placements] at member
  obtain ⟨entry, listed, rfl⟩ := List.mem_map.mp member
  refine ⟨entry.1, (EntityMap.mem_entries_iff _ _ _).mp ?_⟩
  rw [numbered_entries l.placements Placement.cell]
  exact List.mem_map.mpr ⟨entry, listed, rfl⟩

end Level

-- A game kept as a level and taken up again from it.
def Session.reloaded (s : State) : Attempt State := do
  let level ← s.toLevel
  loaded s.catalog level

namespace Turn

theorem reloaded_inside (s t : State) (reloaded : Session.reloaded s = .ok t) : t.Inside := by
  obtain ⟨l, kept, loads⟩ := Attempt.bind_ok _ _ _ reloaded
  obtain ⟨rebuilt, answered, settled⟩ := Attempt.bind_ok _ _ _ loads
  have shown : l.AllInside := fun p member => by
    rw [(s.kept_frame l kept).2]
    exact (s.kept_placement l kept p member).1
  exact (settle_ok rebuilt t settled).inside ((l.to_state_fresh s.catalog rebuilt answered).2.2.2.1 shown)

section Reload

variable (catalog : Catalog) (level : Level) (built s : State) (accepted : level.toState catalog = .ok built)
  (between : s.Between catalog level) (settled : settle built.unread = .ok s)
include accepted between settled

theorem all_inside_iff : level.AllInside ↔ s.Inside := by
  have same := settled_unread built s settled
  have positions : s.positions = built.positions := (congrArg State.positions same : s.unread.positions = _)
  apply Iff.intro
  · exact between.inside
  · intro inside p member
    obtain ⟨id, stands⟩ := level.built_stands catalog built accepted p member
    rw [← positions] at stands
    exact between.sameExtent ▸ inside id p.cell stands

theorem reloaded_iff : Session.reloaded s = .ok s ↔ level.AllInside ∧ s.Quiescent := by
  obtain ⟨l, kept⟩ := s.kept_answers between.sound.placed
  have rebuilt (inside : s.Inside) : Session.reloaded s = settle s.unread := by
    rw [Session.reloaded, kept, Attempt.ok_bind, Session.loaded, s.kept_unread catalog level l built accepted inside
      between.sound (settled_unread built s settled) kept, Attempt.ok_bind]
  have again := settle_unread_iff catalog level built s between settled
  rw [all_inside_iff catalog level built s accepted between settled]
  apply Iff.intro
  · intro reloaded
    have inside := reloaded_inside s s reloaded
    exact ⟨inside, again.mp ((rebuilt inside).symm.trans reloaded)⟩
  · intro stays
    exact (rebuilt stays.1).trans (again.mpr stays.2)

end Reload

-- To settle a board again can change what its objects are, and with that the rules and the roles, but nothing else; and
-- it changes nothing just when the board is quiescent.
theorem settled_board_fixed_iff (catalog : Catalog) (level : Level) (built : State)
    (accepted : level.toState catalog = .ok built) :
    ∃ s, settle built = .ok s ∧
      (∃ t, settle s = .ok t ∧ t = { s with definitions := t.definitions, rules := t.rules, effects := t.effects,
                                            player := t.player, goal := t.goal }) ∧
      (settle s = .ok s ↔ s.Quiescent) ∧ (s.definitions = built.definitions → s.Quiescent) ∧
      (∀ id, s.Due id → s.definitions.get? id ≠ built.definitions.get? id) ∧
      (Session.reloaded s = .ok s ↔ level.AllInside ∧ s.Quiescent) := by
  obtain ⟨s, done, between⟩ := settle_between catalog level built accepted
  obtain ⟨_, answered, sound, _⟩ := level.to_state_answers catalog (level.loadable_of_to_state catalog built accepted)
  cases accepted.symm.trans answered
  have unread := level.built_unread catalog built accepted
  have settled : settle built.unread = .ok s := unread.symm ▸ done
  obtain ⟨t, again, _⟩ := settle_answers s between.sound
  have marked : s.starts = s.positions := by
    rw [settle_writes built s done]
  refine ⟨s, done, ⟨t, again, ?_⟩, settle_settled_iff catalog level built s between settled, fun same => ?_,
    settle_due built s (built.sound_grounded sound) done, reloaded_iff catalog level built s accepted between settled⟩
  · have writes := settle_writes s t again
    refine writes.trans ?_
    rw [marked]
  · refine (settle_unread_iff catalog level built s between settled).mp ?_
    rw [settled_unread built s settled, same]
    exact settled

def quarry : Level where
  heading := ⟨"quarry", "Quarry", .null⟩
  extent := ⟨3, 3⟩
  placements := [⟨"txt-tree", ⟨0, 0⟩⟩, ⟨"txt-topic", ⟨1, 0⟩⟩, ⟨"txt-rock", ⟨2, 0⟩⟩, ⟨"txt-rock", ⟨0, 1⟩⟩,
    ⟨"txt-topic", ⟨1, 1⟩⟩, ⟨"txt-you", ⟨2, 1⟩⟩, ⟨"obj-tree", ⟨0, 2⟩⟩]

theorem quarry_stays :
    ∃ built s, quarry.toState .standard = .ok built ∧ settle built = .ok s ∧ settle s = .ok s ∧
      Session.reloaded s = .ok s ∧ built.definitions.get? 7 = some "obj-tree" ∧
      s.definitions.get? 7 = some "obj-rock" ∧ s.player = some 7 := by
  have walked : (do
      let built ← quarry.toState .standard
      let s ← settle built
      let t ← settle s
      .ok (built.definitions.get? 7, s.definitions.get? 7, s.player, decide (t.definitions = s.definitions ∧
        t.rules = s.rules ∧ t.effects = s.effects ∧ t.player = s.player ∧ t.goal = s.goal))) =
      Except.ok (ε := Fault) (some "obj-tree", some "obj-rock", some 7, true) := by rfl
  obtain ⟨built, accepted, walked⟩ := Attempt.bind_ok _ _ _ walked
  obtain ⟨s, settled, walked⟩ := Attempt.bind_ok _ _ _ walked
  obtain ⟨t, again, walked⟩ := Attempt.bind_ok _ _ _ walked
  simp only [Except.ok.injEq, Prod.mk.injEq, decide_eq_true_eq] at walked
  obtain ⟨tree, rock, player, definitions, rules, effects, holder, goal⟩ := walked
  obtain ⟨_, same, ⟨_, once_more, writes⟩, fixed, _, _, reloaded⟩ :=
    settled_board_fixed_iff .standard quarry built accepted
  cases settled.symm.trans same
  cases again.symm.trans once_more
  have still : settle s = .ok s := by
    rw [definitions, rules, effects, holder, goal] at writes
    exact again.trans (congrArg Except.ok writes)
  have inside : quarry.AllInside := by
    unfold Level.AllInside
    decide
  exact ⟨built, s, accepted, settled, still, reloaded.mpr ⟨inside, fixed.mp still⟩, tree, rock, player⟩

def relay : Level where
  heading := ⟨"relay", "Relay", .null⟩
  extent := ⟨3, 3⟩
  placements := [⟨"txt-tree", ⟨0, 0⟩⟩, ⟨"txt-topic", ⟨1, 0⟩⟩, ⟨"txt-rock", ⟨2, 0⟩⟩, ⟨"txt-rock", ⟨0, 1⟩⟩,
    ⟨"txt-topic", ⟨1, 1⟩⟩, ⟨"txt-fire", ⟨2, 1⟩⟩, ⟨"obj-tree", ⟨0, 2⟩⟩]

theorem relay_goes_on :
    ∃ built s t again, relay.toState .standard = .ok built ∧ settle built = .ok s ∧ settle s = .ok t ∧
      Session.reloaded s = .ok again ∧ s.definitions.get? 7 = some "obj-rock" ∧
      t.definitions.get? 7 = some "obj-fire" ∧ again.definitions.get? 7 = some "obj-fire" ∧
      settle s ≠ .ok s ∧ Session.reloaded s ≠ .ok s := by
  have walked : (do
      let built ← relay.toState .standard
      let s ← settle built
      let t ← settle s
      let again ← Session.reloaded s
      .ok (s.definitions.get? 7, t.definitions.get? 7, again.definitions.get? 7)) =
      Except.ok (ε := Fault) (some "obj-rock", some "obj-fire", some "obj-fire") := by rfl
  obtain ⟨built, accepted, walked⟩ := Attempt.bind_ok _ _ _ walked
  obtain ⟨s, settled, walked⟩ := Attempt.bind_ok _ _ _ walked
  obtain ⟨t, settled_again, walked⟩ := Attempt.bind_ok _ _ _ walked
  obtain ⟨again, reloaded, walked⟩ := Attempt.bind_ok _ _ _ walked
  simp only [Except.ok.injEq, Prod.mk.injEq] at walked
  obtain ⟨rock, fire, burning⟩ := walked
  have turned (u : State) (burns : u.definitions.get? 7 = some "obj-fire") : u ≠ s := fun same => by
    rw [same, rock] at burns
    exact absurd burns (by decide)
  refine ⟨built, s, t, again, accepted, settled, settled_again, reloaded, rock, fire, burning, ?_, ?_⟩
  · exact fun still => turned t fire (Except.ok.inj (settled_again.symm.trans still))
  · exact fun still => turned again burning (Except.ok.inj (reloaded.symm.trans still))

end Turn

end KanjiPuzzle
