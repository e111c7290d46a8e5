import KanjiPuzzle.Proofs.Reached

set_option autoImplicit false

/- When a level is cleared. Only the last phase of a turn looks at the goal, so the board at the end of the turn tells
   whether the player has reached it. -/
namespace KanjiPuzzle

section Open

theorem Fusion.run_won (s t : State) (done : Fusion.run s = .ok t) : t.won = s.won := by
  obtain ⟨found, _, done⟩ := Attempt.bind_ok _ _ _ done
  cases done
  rw [spawn_all_eq]
  rfl

theorem Reading.run_won (s t : State) (announce : Bool) (done : Reading.run s announce = .ok t) : t.won = s.won := by
  obtain ⟨_, _, _, _, rfl⟩ := Reading.run_reread s t announce done
  rfl

theorem State.holder_won (s : State) (role : Role) (id : Option EntityId) : (s.withHolder role id).won = s.won := by
  cases role <;> rfl

theorem State.handed_won (s t : State) (role : Role) (r : Rule) (handed : s.Handed role r t) : t.won = s.won := by
  obtain ⟨id, _, _, _, _, _, _, rfl⟩ := handed
  exact s.holder_won role (some id)

theorem Roles.capture_new_won (s t : State) (before : List Rule) (done : captureNew s before = .ok t) :
    t.won = s.won :=
  (capture_new_keeps (fun t => t.won = s.won) s
    (fun t u role r _ same _ handed => (t.handed_won u role r handed).trans same) rfl before t done).1

theorem Roles.trigger_slots_won (s t : State) (done : triggerSlots s = .ok t) : t.won = s.won :=
  (trigger_slots_keeps (fun t => t.won = s.won) s
    (fun t u role r _ same _ handed => (t.handed_won u role r handed).trans same) rfl t done).1

theorem Roles.refresh_role_won (s t : State) (role : Role) (done : refreshRole s role = .ok t) : t.won = s.won := by
  rw [refresh_role_eq] at done
  obtain ⟨id, _, done⟩ := Attempt.bind_ok _ _ _ done
  cases done
  exact s.holder_won role id

theorem Roles.refresh_won (s t : State) (done : refresh s = .ok t) : t.won = s.won := by
  obtain ⟨middle, first, second⟩ := Attempt.bind_ok _ _ _ done
  exact (refresh_role_won middle t .goal second).trans (refresh_role_won s middle .player first)

theorem Hazards.strike_won (losses : State → List EntityId → Attempt (List EntityId)) (p : Property) (s t : State)
    (done : Hazards.strike losses p s = .ok t) : t.won = s.won := by
  obtain ⟨_, _, rfl⟩ := Hazards.strike_thinned losses p s t done
  rfl

theorem Turn.report_change_won (before : List Rule) (s : State) : (reportChange before s).won = s.won := by
  rw [reportChange]
  by_cases same : Rule.setSignature s.rules = Rule.setSignature before
  · rw [if_pos same]
  · rw [if_neg same]
    rfl

theorem Turn.lead_open (g : Stages) (s t : State) (d : Direction) (lead : g.Lead s d t) : g.cast.won = false := by
  have follow := lead.follow
  have ready := Roles.refresh_won s.quiet g.ready lead.refreshes
  obtain ⟨_, _, _, gone⟩ := Movement.run_ok _ g.gone g.player d lead.moves
  have counted : g.counted.won = g.ready.won := by
    rw [follow.counts, gone]
    rfl
  have fused := Fusion.run_won g.counted g.fused follow.fuses
  have read := Reading.run_won g.fused g.read true follow.reads
  have captured := Roles.capture_new_won g.read g.captured s.rules follow.captures
  have triggered := Roles.trigger_slots_won g.captured g.triggered follow.triggers
  have ranked := Roles.refresh_won g.triggered g.ranked follow.ranks
  have changed := Turn.report_change_won s.rules g.ranked
  have sunk := Hazards.strike_won _ _ _ g.sunk follow.sinks
  have melted := Hazards.strike_won _ _ _ g.melted follow.melts
  have cast := Roles.refresh_won g.melted g.cast follow.casts
  rw [cast, melted, sunk, changed, ranked, triggered, captured, read, fused, counted, ready]
  exact lead.unwon

end Open

namespace State

-- The player shares its cell with somebody else that is to be reached: by its own property, as the goal, or because a
-- rule grants that to its noun.
def OnGoal (s : State) : Prop :=
  ∃ id cell other, s.player = some id ∧ s.Alive id ∧ s.positions.get? id = some cell ∧ other ≠ id ∧ s.Alive other ∧
    s.positions.get? other = some cell ∧
      (s.has .win other = .ok true ∨ s.goal = some other ∨ s.hasGrant .win other = .ok true)

theorem recast_symm (s t : State) (recast : s.Recast t) : t.Recast s := by
  obtain ⟨_, _, _, _, rfl⟩ := recast
  exact ⟨s.player, s.goal, s.won, s.events, rfl⟩

theorem on_goal_retold (s t : State) (retold : s.Retold t) : t.OnGoal ↔ s.OnGoal := by
  obtain ⟨_, _, rfl⟩ := retold
  exact Iff.rfl

theorem placed_alive (s : State) (sound : s.Sound) (id : EntityId) (cell : Cell)
    (stands : s.positions.get? id = some cell) : s.Alive id :=
  s.here_alive sound cell id ((s.mem_entities_at_iff cell id).mpr stands)

theorem win_contact_iff (s : State) (sound : s.Sound) (id : EntityId) (alive : s.Alive id) :
    s.isWinContact id = .ok true ↔
      s.has .win id = .ok true ∨ s.goal = some id ∨ s.hasGrant .win id = .ok true := by
  obtain ⟨d, defined⟩ := s.definition_answers sound id alive
  simp [isWinContact, has, hasGrant, defined, bind, Except.bind, winContact, or_assoc]

theorem granted_rule (s : State) (derived : s.effects = Effects.ofRules s.rules) (d : Definition) (p : Property)
    (granted : s.granted d p = true) : ∃ r ∈ s.rules, r.term = .property p := by
  rw [State.granted] at granted
  split at granted
  case h_1 => cases granted
  case h_2 noun _ =>
    rw [derived, Effects.grants_of_rules_iff] at granted
    obtain ⟨r, listed, _, grants⟩ := granted
    exact ⟨r, listed, grants⟩

theorem vacant_inert (s : State) (sound : s.Sound) (derived : s.effects = Effects.ofRules s.rules)
    (rest : Roles.AtRest s .player) (plain : ∀ d ∈ s.catalog.definitions, d.hasDefault .you = false)
    (vacant : s.player = none) (id : EntityId) (alive : s.Alive id) : s.has .you id = .ok false := by
  obtain ⟨d, defined⟩ := s.definition_answers sound id alive
  obtain ⟨definition, _, known⟩ := Attempt.bind_ok _ _ _ defined
  have listed := s.catalog.find_mem definition d (s.catalog.find_of_get definition d known)
  have ungranted : s.granted d .you = false := by
    refine Bool.eq_false_iff.mpr fun granted => ?_
    have rule := (Roles.grant_rule_iff s .you).mpr (s.granted_rule derived d .you granted)
    have grant : s.hasGrant .you id = .ok true := by
      rw [hasGrant, defined]
      exact congrArg Except.ok granted
    have heir : Roles.heir s .player = .ok none := vacant ▸ rest
    exact Roles.heir_vacant s .player heir rule id (s.backed_of_grant .player id grant)
  rw [has, defined]
  simp [bind, Except.bind, behaves, plain d listed, ungranted]

end State

namespace Victory

theorem winning_cell_player (s : State) (sound : s.Sound) (id : EntityId) (cell : Cell) (plays : s.player = some id)
    (stands : s.positions.get? id = some cell) :
    ∃ found, winningCell? s = .ok found ∧ (found.isSome = true ↔ s.OnGoal) := by
  obtain ⟨verdict, answered, met⟩ := reaches_answers s sound (s.entitiesAt cell) (s.here_alive sound cell) id
  refine ⟨if verdict then some cell else none, ?_, ?_⟩
  · rw [winningCell?]
    simp only [plays, Option.bind_some, stands, Option.map_some, answered, bind, Except.bind]
  · rw [show (if verdict then some cell else none).isSome = verdict by cases verdict <;> rfl, met]
    constructor
    · rintro ⟨other, member, different, contact⟩
      have here := (s.mem_entities_at_iff cell other).mp member
      have alive := s.placed_alive sound other cell here
      exact ⟨id, cell, other, plays, s.placed_alive sound id cell stands, stands, different, alive, here,
        (s.win_contact_iff sound other alive).mp contact⟩
    · rintro ⟨player, place, other, playing, _, standing, different, alive, here, contact⟩
      cases plays.symm.trans playing
      cases stands.symm.trans standing
      exact ⟨other, (s.mem_entities_at_iff cell other).mpr here, different,
        (s.win_contact_iff sound other alive).mpr contact⟩

theorem winning_cell_vacant (s : State) (sound : s.Sound) (vacant : s.player = none)
    (inert : ∀ id, s.Alive id → s.has .you id = .ok false) : winningCell? s = .ok none := by
  obtain ⟨cells, occupied, living⟩ := s.occupied_answers sound
  have nothing (entry : Cell × List EntityId) (member : entry ∈ cells) :
      Attempt.exists? (clears s entry.2) entry.2 = .ok false := by
    rw [Attempt.exists_of_total (clears s entry.2) (fun _ => false) entry.2]
    · simp
    · intro id inside
      rw [clears, inert id (living entry member id inside)]
      rfl
  rw [winningCell?]
  simp only [vacant, Option.bind_none, occupied, bind, Except.bind]
  rw [Attempt.first_of_total _ (fun _ => false) cells nothing]
  simp

section Rest

variable (s : State) (sound : s.Sound) (derived : s.effects = Effects.ofRules s.rules) (rest : Roles.AtRest s .player)
  (plain : ∀ d ∈ s.catalog.definitions, d.hasDefault .you = false)
include sound derived rest plain

theorem search_idle (vacant : s.player = none) : winningCell? s = .ok none :=
  winning_cell_vacant s sound vacant (s.vacant_inert sound derived rest plain vacant)

theorem winning_cell_iff : ∃ found, winningCell? s = .ok found ∧ (found.isSome = true ↔ s.OnGoal) := by
  cases plays : s.player with
  | some id =>
      have heir : Roles.heir s .player = .ok (some id) := plays ▸ rest
      obtain ⟨_, alive, _⟩ := Roles.heir_living s .player id heir
      obtain ⟨cell, stands⟩ := Option.isSome_iff_exists.mp ((sound.placed id).trans alive)
      exact winning_cell_player s sound id cell plays stands
  | none =>
      refine ⟨none, search_idle s sound derived rest plain plays, iff_of_false nofun ?_⟩
      rintro ⟨id, _, _, player, _⟩
      cases plays.symm.trans player

end Rest

theorem run_ok (s t : State) (unwon : s.won = false) (done : run s = .ok t) :
    ∃ found, winningCell? s = .ok found ∧ t.won = found.isSome ∧
      t.events = s.events ++ found.toList.map fun cell => ⟨.win, message, [cell]⟩ := by
  rw [run, if_neg (Bool.eq_false_iff.mp unwon)] at done
  obtain ⟨found, answered, done⟩ := Attempt.bind_ok _ _ _ done
  refine ⟨found, answered, ?_⟩
  cases found with
  | none =>
      cases done
      exact ⟨unwon, (List.append_nil _).symm⟩
  | some cell =>
      cases done
      exact ⟨rfl, rfl⟩

end Victory

namespace Turn

section Lead

variable (g : Stages) (s t : State) (d : Direction) (lead : g.Lead s d t) (catalog : Catalog) (level : Level)
  (between : t.Between catalog level)
include lead between

theorem cast_between : g.cast.Between catalog level := by
  obtain ⟨recast, holder⟩ := cast_retold g s.rules d t lead.follow
  exact t.recast_between catalog level g.cast between (g.cast.recast_symm t recast) fun role => (holder role).symm

variable (plain : ∀ d ∈ catalog.definitions, d.hasDefault .you = false)
include plain

theorem lead_cleared_iff : t.won = true ↔ t.OnGoal := by
  have cast := cast_between g s t d lead catalog level between
  obtain ⟨found, answered, met⟩ :=
    Victory.winning_cell_iff g.cast cast.sound cast.derived (cast.rest .player) (cast.sameCatalog ▸ plain)
  obtain ⟨again, looked, won, _⟩ := Victory.run_ok g.cast g.cleared (lead_open g s t d lead) lead.follow.clears
  cases answered.symm.trans looked
  have ends : t.won = g.cleared.won := by
    rw [lead.follow.ends, reportSilence]
    split <;> rfl
  have clearing := g.cast.on_goal_retold g.cleared (Victory.run_retold g.cast g.cleared lead.follow.clears)
  have ending := g.cleared.on_goal_retold t (lead.follow.ends ▸ report_silence_retold d g.cleared)
  rw [ends, won, met, ending, clearing]

theorem lead_search_idle (vacant : g.cast.player = none) :
    (∀ id, g.cast.Alive id → g.cast.has .you id = .ok false) ∧ Victory.winningCell? g.cast = .ok none := by
  have cast := cast_between g s t d lead catalog level between
  have known : ∀ d ∈ g.cast.catalog.definitions, d.hasDefault .you = false := cast.sameCatalog ▸ plain
  exact ⟨g.cast.vacant_inert cast.sound cast.derived (cast.rest .player) known vacant,
    Victory.search_idle g.cast cast.sound cast.derived (cast.rest .player) known vacant⟩

end Lead

theorem cleared_iff_on_goal (catalog : Catalog) (level : Level)
    (plain : ∀ d ∈ catalog.definitions, d.hasDefault .you = false) (s : State) (reached : Reached catalog level s)
    (d : Direction) :
    ∃ t, play s d = .ok t ∧ (t.moves = s.moves + 1 → (t.won = true ↔ t.OnGoal) ∧
      ∃ g : Stages, g.Lead s d t ∧ (g.cast.player = none →
        (∀ id, g.cast.Alive id → g.cast.has .you id = .ok false) ∧ Victory.winningCell? g.cast = .ok none)) := by
  obtain ⟨t, played, later⟩ := reached_plays catalog level s reached d
  have between := reached_between catalog level t later
  refine ⟨t, played, fun counted => ?_⟩
  obtain ⟨g, lead⟩ := counted_lead s t d played counted
  exact ⟨lead_cleared_iff g s t d lead catalog level between plain, g, lead,
    lead_search_idle g s t d lead catalog level between plain⟩

def finale : Level where
  heading := ⟨"finale", "Finale", .null⟩
  extent := ⟨5, 6⟩
  placements := [⟨"obj-tree", ⟨0, 0⟩⟩, ⟨"obj-fire", ⟨1, 0⟩⟩, ⟨"obj-water", ⟨4, 0⟩⟩, ⟨"obj-rock", ⟨4, 0⟩⟩,
    ⟨"txt-charcoal", ⟨0, 2⟩⟩, ⟨"txt-topic", ⟨1, 2⟩⟩, ⟨"txt-rock", ⟨2, 2⟩⟩, ⟨"txt-gate", ⟨0, 3⟩⟩, ⟨"txt-topic", ⟨1, 3⟩⟩,
    ⟨"txt-win", ⟨2, 3⟩⟩, ⟨"txt-human", ⟨0, 4⟩⟩, ⟨"txt-topic", ⟨1, 4⟩⟩, ⟨"txt-you", ⟨2, 4⟩⟩, ⟨"txt-tree", ⟨0, 5⟩⟩,
    ⟨"txt-topic", ⟨1, 5⟩⟩, ⟨"obj-tree", ⟨2, 5⟩⟩, ⟨"obj-gate", ⟨2, 5⟩⟩, ⟨"txt-you", ⟨3, 5⟩⟩, ⟨"obj-human", ⟨4, 5⟩⟩]

theorem finale_run :
    ∃ first t, Session.loaded .standard finale = .ok first ∧ play first .left = .ok t ∧ t.moves = first.moves + 1 ∧
      t.won = true ∧ t.events.map Event.kind =
        [.move, .fusion, .transform, .roleShift, .ruleChange, .blocked, .win] := by
  have walked : (do
      let first ← Session.loaded .standard finale
      let t ← play first .left
      .ok (first.moves, t.moves, t.won, t.events.map Event.kind)) =
      Except.ok (0, 1, true, [.move, .fusion, .transform, .roleShift, .ruleChange, .blocked, .win]) := by rfl
  obtain ⟨first, load, walked⟩ := Attempt.bind_ok _ _ _ walked
  obtain ⟨t, played, walked⟩ := Attempt.bind_ok _ _ _ walked
  simp only [Except.ok.injEq, Prod.mk.injEq] at walked
  obtain ⟨none, one, won, kinds⟩ := walked
  exact ⟨first, t, load, played, by omega, won, kinds⟩

def farewell : Level where
  heading := ⟨"farewell", "Farewell", .null⟩
  extent := ⟨3, 3⟩
  placements := [⟨"txt-human", ⟨0, 1⟩⟩, ⟨"txt-topic", ⟨1, 1⟩⟩, ⟨"txt-you", ⟨2, 1⟩⟩, ⟨"obj-human", ⟨2, 2⟩⟩]

theorem farewell_run :
    ∃ first t, Session.loaded .standard farewell = .ok first ∧ play first .up = .ok t ∧ t.moves = first.moves + 1 ∧
      t.player = none := by
  have walked : (do
      let first ← Session.loaded .standard farewell
      let t ← play first .up
      .ok (first.moves, t.moves, t.player)) = Except.ok (0, 1, none) := by rfl
  obtain ⟨first, load, walked⟩ := Attempt.bind_ok _ _ _ walked
  obtain ⟨t, played, walked⟩ := Attempt.bind_ok _ _ _ walked
  simp only [Except.ok.injEq, Prod.mk.injEq] at walked
  obtain ⟨none, one, vacant⟩ := walked
  exact ⟨first, t, load, played, by omega, vacant⟩

theorem finale_cleared_farewell_idle :
    (∃ first t, Session.loaded .standard finale = .ok first ∧ play first .left = .ok t ∧ t.won = true ∧ t.OnGoal) ∧
      ∃ first t g, Session.loaded .standard farewell = .ok first ∧ play first .up = .ok t ∧ Stages.Lead g first .up t ∧
        g.cast.player = none ∧ (∀ id, g.cast.Alive id → g.cast.has .you id = .ok false) ∧
        Victory.winningCell? g.cast = .ok none := by
  have plain : ∀ d ∈ Catalog.standard.definitions, d.hasDefault .you = false := by decide
  constructor
  · obtain ⟨first, t, load, played, counted, won, _⟩ := finale_run
    obtain ⟨again, replayed, outcome⟩ :=
      cleared_iff_on_goal .standard finale plain first (loaded_reached .standard finale first load) .left
    cases played.symm.trans replayed
    exact ⟨first, t, load, played, won, (outcome counted).1.mp won⟩
  · obtain ⟨first, t, load, played, counted, vacant⟩ := farewell_run
    obtain ⟨again, replayed, outcome⟩ :=
      cleared_iff_on_goal .standard farewell plain first (loaded_reached .standard farewell first load) .up
    cases played.symm.trans replayed
    obtain ⟨_, g, lead, idle⟩ := outcome counted
    have nobody : g.cast.player = none := ((cast_retold g first.rules .up t lead.follow).2 .player).symm.trans vacant
    exact ⟨first, t, g, load, played, lead, nobody, idle nobody⟩

end Turn

end KanjiPuzzle
