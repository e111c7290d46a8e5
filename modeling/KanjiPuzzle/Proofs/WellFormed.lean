import KanjiPuzzle.Proofs.Commitment

set_option autoImplicit false

/- What every state of play has in common. Within a turn the stores, the rules and the roles fall out of step with each
   other; at its end the roles are at rest again, and that is what makes the whole hold from one turn to the next. -/
namespace KanjiPuzzle

namespace Level

def AllInside (l : Level) : Prop := ∀ p ∈ l.placements, l.extent.contains p.cell = true

theorem numbered_bounds (first : EntityId) (placements : List Placement) (entry : EntityId × Placement)
    (member : entry ∈ numbered first placements) : first ≤ entry.1 ∧ entry.1 < first + placements.length := by
  induction placements generalizing first with
  | nil => cases member
  | cons p rest ih =>
      rw [List.length_cons, Int.natCast_succ]
      rcases List.mem_cons.mp member with rfl | later
      · exact ⟨Int.le_refl first, Int.lt_add_of_pos_right first (Int.lt_add_one_of_le (Int.natCast_nonneg _))⟩
      · obtain ⟨above, below⟩ := ih (first + 1) later
        refine ⟨Int.le_trans (Int.le_of_lt (Int.lt_succ first)) above, ?_⟩
        rwa [Int.add_right_comm, Int.add_assoc] at below

theorem to_state_fresh (catalog : Catalog) (l : Level) (s : State) (built : l.toState catalog = .ok s) :
    s.catalog = catalog ∧ s.extent = l.extent ∧ s.Numbered ∧ (l.AllInside → s.Inside) ∧
      ∀ role, s.holder role = none := by
  obtain ⟨_, _, built⟩ := Attempt.bind_ok _ _ _ built
  cases built
  refine ⟨rfl, rfl, ⟨Int.le_add_of_nonneg_left (Int.natCast_nonneg _), fun id alive => ?_⟩, ?_, fun role => ?_⟩
  · rw [State.Alive, EntityMap.contains_of_list_iff, List.map_map] at alive
    obtain ⟨entry, member, rfl⟩ := List.mem_map.mp alive
    obtain ⟨above, below⟩ := numbered_bounds 1 l.placements entry member
    exact ⟨above, Int.add_comm 1 _ ▸ below⟩
  · intro inside id cell stands
    obtain ⟨entry, member, same⟩ := List.mem_map.mp (EntityMap.get_of_list _ id cell stands)
    cases same
    exact inside entry.2 (mem_numbered 1 l.placements entry member)
  · cases role <;> rfl

end Level

namespace State

structure WellFormed (catalog : Catalog) (level : Level) (s : State) : Prop where
  sameCatalog : s.catalog = catalog
  sameExtent : s.extent = level.extent
  placed : ∀ id, s.positions.contains id = s.definitions.contains id
  known : ∀ id definition, s.definitions.get? id = some definition → catalog.contains definition = true
  numbered : ∀ id, s.Alive id → 1 ≤ id ∧ id < s.nextId
  derived : s.effects = Effects.ofRules s.rules
  living : ∀ role id, s.holder role = some id → s.Alive id
  vacant : ∀ role, (∀ r ∈ s.rules, r.term ≠ .property role.property) → s.holder role = none
  filled : ∀ role, ∀ r ∈ s.rules, r.term = .property role.property → ∀ id, s.StandsFor r.subject id →
    s.holder role ≠ none
  inside : level.AllInside → ∀ id cell, s.positions.get? id = some cell → level.extent.contains cell = true

-- What one turn hands to the next.
structure Between (catalog : Catalog) (level : Level) (s : State) : Prop where
  sound : s.Sound
  sameCatalog : s.catalog = catalog
  sameExtent : s.extent = level.extent
  numbered : s.Numbered
  inside : level.AllInside → s.Inside
  derived : s.effects = Effects.ofRules s.rules
  rest : ∀ role, Roles.AtRest s role

section Between

variable (catalog : Catalog) (level : Level) (s t : State)

theorem between_well_formed (between : s.Between catalog level) : s.WellFormed catalog level := by
  have heir (role : Role) (id : EntityId) (held : s.holder role = some id) :=
    Roles.heir_living s role id (held ▸ between.rest role)
  refine ⟨between.sameCatalog, between.sameExtent, between.sound.placed, ?_, between.numbered.living, between.derived,
    fun role id held => (heir role id held).2.1, fun role none => ?_, fun role r listed grants id stands vacant => ?_, ?_⟩
  · exact fun id definition found => between.sameCatalog ▸ between.sound.known id definition found
  · cases held : s.holder role with
    | none => rfl
    | some id =>
        obtain ⟨r, listed, grants⟩ := (Roles.grant_rule_iff s role.property).mp (heir role id held).1
        exact absurd grants (none r listed)
  · have granted := (Roles.grant_rule_iff s role.property).mpr ⟨r, listed, grants⟩
    have backed := s.backed_of_rule (s.granting_of_derived between.derived) role id r listed grants stands
    exact Roles.heir_vacant s role (vacant ▸ between.rest role) granted id backed
  · exact fun inside id cell stands => between.sameExtent ▸ between.inside inside id cell stands

theorem settles_between (settles : Turn.Settles s t) (sound : t.Sound) (sameCatalog : s.catalog = catalog)
    (sameExtent : s.extent = level.extent) (numbered : s.Numbered) (inside : level.AllInside → s.Inside) :
    t.Between catalog level :=
  ⟨sound, settles.catalog.trans sameCatalog, settles.extent.trans sameExtent, settles.numbered numbered,
    fun all => settles.inside (inside all), settles.derived, settles.rest⟩

theorem recast_between (between : s.Between catalog level) (recast : s.Recast t)
    (holder : ∀ role, t.holder role = s.holder role) : t.Between catalog level := by
  have rest (role : Role) := Roles.at_rest_recast s t role recast (holder role) (between.rest role)
  have upkeep := s.recast_upkeep t recast
  refine ⟨?_, upkeep.catalog.trans between.sameCatalog, upkeep.extent.trans between.sameExtent,
    upkeep.numbered between.numbered, fun all => upkeep.inside (between.inside all), ?_, rest⟩
  · obtain ⟨_, _, _, _, rfl⟩ := recast
    exact ⟨between.sound.placed, between.sound.known, between.sound.celled⟩
  · obtain ⟨_, _, _, _, rfl⟩ := recast
    exact between.derived

end Between

end State

namespace Turn

theorem settle_between (catalog : Catalog) (level : Level) (built : State) (accepted : level.toState catalog = .ok built) :
    ∃ first, settle built = .ok first ∧ first.Between catalog level := by
  obtain ⟨again, answered, sound, _⟩ :=
    level.to_state_answers catalog (level.loadable_of_to_state catalog built accepted)
  cases accepted.symm.trans answered
  obtain ⟨sameCatalog, sameExtent, numbered, inside, _⟩ := level.to_state_fresh catalog built accepted
  obtain ⟨first, settled, continues⟩ := settle_answers built sound
  exact ⟨first, settled, State.settles_between catalog level built first (settle_ok built first settled) continues.sound
    sameCatalog sameExtent numbered inside⟩

theorem play_between (catalog : Catalog) (level : Level) (s : State) (between : s.Between catalog level) (d : Direction) :
    ∃ t, play s d = .ok t ∧ t.Between catalog level := by
  have refuse_between (message : String) : (refuse s message).Between catalog level := by
    refine s.recast_between catalog level _ between ⟨s.player, s.goal, s.won, _, rfl⟩ fun role => ?_
    cases role <;> rfl
  rcases play_cases s between.sound d with ⟨_, message, played⟩ | ⟨_, t, played, sound, _, _⟩
  · exact ⟨refuse s message, played, refuse_between message⟩
  · refine ⟨t, played, ?_⟩
    rcases play_ok s t d played with ⟨_, message, rfl⟩ | ⟨_, ready, refreshed, _, settles⟩
    · exact refuse_between message
    · have upkeep := s.quiet.recast_upkeep ready (Roles.refresh_ok s.quiet ready refreshed).2.1
      exact State.settles_between catalog level ready t settles sound (upkeep.catalog.trans between.sameCatalog)
        (upkeep.extent.trans between.sameExtent)
        (upkeep.numbered ⟨between.numbered.first, between.numbered.living⟩)
        fun all => upkeep.inside (between.inside all)

theorem replay_between (catalog : Catalog) (level : Level) (s : State) (between : s.Between catalog level)
    (moves : List Direction) : ∃ final, replay s moves = .ok final ∧ final.Between catalog level :=
  Attempt.through_answers (State.Between catalog level) play moves s between fun s d _ between =>
    play_between catalog level s between d

theorem every_run_well_formed (catalog : Catalog) (level : Level) (built : State)
    (accepted : level.toState catalog = .ok built) (moves : List Direction) :
    ∃ first final, settle built = .ok first ∧ replay first moves = .ok final ∧ final.WellFormed catalog level := by
  obtain ⟨first, settled, start⟩ := settle_between catalog level built accepted
  obtain ⟨final, replayed, reached⟩ := replay_between catalog level first start moves
  exact ⟨first, final, settled, replayed, final.between_well_formed catalog level reached⟩

def grove : Level where
  heading := ⟨"grove", "Grove", .null⟩
  extent := ⟨5, 3⟩
  placements := [⟨"obj-tree", ⟨0, 0⟩⟩, ⟨"obj-fire", ⟨2, 0⟩⟩, ⟨"obj-tree", ⟨4, 0⟩⟩, ⟨"txt-tree", ⟨0, 1⟩⟩,
    ⟨"txt-topic", ⟨1, 1⟩⟩, ⟨"txt-you", ⟨2, 1⟩⟩]

theorem grove_run :
    ∃ built first final, grove.toState .standard = .ok built ∧ settle built = .ok first ∧
      replay first [.right, .left, .left] = .ok final ∧ first.player = some 1 ∧ final.player = some 3 ∧
      final.nextId = 8 := by
  have walked : (do
      let built ← grove.toState .standard
      let first ← settle built
      let final ← replay first [.right, .left, .left]
      .ok (first.player, final.player, final.nextId)) = Except.ok (some 1, some 3, 8) := by rfl
  obtain ⟨built, accepted, walked⟩ := Attempt.bind_ok _ _ _ walked
  obtain ⟨first, settled, walked⟩ := Attempt.bind_ok _ _ _ walked
  obtain ⟨final, replayed, walked⟩ := Attempt.bind_ok _ _ _ walked
  simp only [Except.ok.injEq, Prod.mk.injEq] at walked
  exact ⟨built, first, final, accepted, settled, replayed, walked⟩

theorem grove_stays_well_formed :
    ∃ built first final, grove.toState .standard = .ok built ∧ settle built = .ok first ∧
      replay first [.right, .left, .left] = .ok final ∧ final.WellFormed .standard grove ∧ grove.AllInside ∧
      first.player = some 1 ∧ final.player = some 3 ∧ final.nextId = 8 := by
  obtain ⟨built, first, final, accepted, settled, replayed, players⟩ := grove_run
  obtain ⟨again, last, same, reached, well_formed⟩ :=
    every_run_well_formed .standard grove built accepted [.right, .left, .left]
  cases settled.symm.trans same
  cases replayed.symm.trans reached
  have inside : grove.AllInside := by
    unfold Level.AllInside
    decide
  exact ⟨built, first, final, accepted, settled, replayed, well_formed, inside, players⟩

end Turn

end KanjiPuzzle
