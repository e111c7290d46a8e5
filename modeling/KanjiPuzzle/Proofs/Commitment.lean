import KanjiPuzzle.Proofs.Appointments
import KanjiPuzzle.Proofs.Stages

set_option autoImplicit false

/- A turn is committed or refused. Whatever the state, a turn that has an outcome either counts one move more, or leaves
   everything but the report as it was. -/
namespace KanjiPuzzle

namespace State

-- What the phases after the reading do: the rules stay, what is alive keeps its definition and its place, and a role
-- that passes on passes to an entity that is backed.
structure Onward (s t : State) : Prop where
  upkeep : s.Upkeep t
  rules : t.rules = s.rules
  effects : t.effects = s.effects
  nextId : t.nextId = s.nextId
  alive : ∀ id, t.Alive id → s.Alive id
  defined : ∀ id, t.Alive id → t.definitions.get? id = s.definitions.get? id
  stands : ∀ id, t.Alive id → t.positions.get? id = s.positions.get? id
  backed : ∀ role id, s.Backed role id → t.Alive id → t.Backed role id
  holder : ∀ role id, t.holder role = some id → t.Alive id → s.holder role = some id ∨ t.Backed role id

theorem onward_trans (s t u : State) (first : s.Onward t) (second : t.Onward u) : s.Onward u := by
  refine ⟨s.upkeep_trans t u first.upkeep second.upkeep, second.rules.trans first.rules,
    second.effects.trans first.effects, second.nextId.trans first.nextId,
    fun id alive => first.alive id (second.alive id alive), fun id alive => ?_, fun id alive => ?_, ?_, ?_⟩
  · exact (second.defined id alive).trans (first.defined id (second.alive id alive))
  · exact (second.stands id alive).trans (first.stands id (second.alive id alive))
  · exact fun role id backed alive => second.backed role id (first.backed role id backed (second.alive id alive)) alive
  · intro role id held alive
    rcases second.holder role id held alive with before | backed
    · exact (first.holder role id before (second.alive id alive)).imp_right fun backed =>
        second.backed role id backed alive
    · exact .inr backed

theorem onward_recast (s t : State) (justified : s.Justified t) (recast : s.Recast t) : s.Onward t := by
  have same := s.backed_recast t recast
  have upkeep := s.recast_upkeep t recast
  obtain ⟨_, _, _, _, rfl⟩ := recast
  refine ⟨upkeep, rfl, rfl, rfl, fun _ alive => alive, fun _ _ => rfl, fun _ _ => rfl,
    fun role id backed _ => (same role id).mpr backed, ?_⟩
  exact fun role id held _ => (justified role id held).imp_right (same role id).mpr

theorem onward_retold (s t : State) (retold : s.Retold t) : s.Onward t :=
  s.onward_recast t (fun role _ held => .inl ((s.retold_holder t retold role).symm.trans held)) (s.retold_recast t retold)

theorem thinned_holder (s t : State) (thinned : s.Thinned t) (role : Role) : t.holder role = s.holder role := by
  obtain ⟨_, _, rfl⟩ := thinned
  cases role <;> rfl

theorem onward_thinned (s t : State) (thinned : s.Thinned t) : s.Onward t := by
  have upkeep := s.thinned_upkeep t thinned
  obtain ⟨gone, events, rfl⟩ := thinned
  have removed (id : EntityId) (living : Alive { s.remove gone with events := events } id) :
      s.Alive id ∧ definitionOf { s.remove gone with events := events } id = s.definitionOf id :=
    s.remove_alive gone id living
  have stays (id : EntityId) (living : Alive { s.remove gone with events := events } id) : id ∉ gone :=
    ((s.remove_alive_iff gone id).mp living).1
  refine ⟨upkeep, rfl, rfl, rfl, fun id living => (removed id living).1, fun id living => ?_, fun id living => ?_,
    fun role id backed living => ?_, fun role id held _ => ?_⟩
  · exact (EntityMap.get_erase_all gone s.definitions id).trans (if_neg (stays id living))
  · exact (EntityMap.get_erase_all gone s.positions id).trans (if_neg (stays id living))
  · rw [Backed, isCarrier, hasGrant, (removed id living).2]
    exact backed
  · exact .inl ((s.thinned_holder _ ⟨gone, events, rfl⟩ role).symm.trans held)

theorem onward_derived (s t : State) (onward : s.Onward t) (derived : s.effects = Effects.ofRules s.rules) :
    t.effects = Effects.ofRules t.rules := by
  rw [onward.effects, onward.rules]
  exact derived

theorem reread_holder (s t : State) (reread : s.Reread t) (role : Role) : t.holder role = s.holder role := by
  obtain ⟨_, _, _, _, rfl⟩ := reread
  cases role <;> rfl

end State

theorem Fusion.run_holder (s t : State) (done : Fusion.run s = .ok t) (role : Role) : t.holder role = s.holder role := by
  obtain ⟨found, _, done⟩ := Attempt.bind_ok _ _ _ done
  cases done
  rw [spawn_all_eq]
  cases role <;> rfl

namespace Turn

structure Settles (s t : State) : Prop where
  extent : t.extent = s.extent
  catalog : t.catalog = s.catalog
  survivor : ∀ id, id < s.nextId → t.Alive id → s.Alive id ∧ (s.isCarrier id = .ok true → t.isCarrier id = .ok true)
  numbered : s.Numbered → t.Numbered
  inside : s.Inside → t.Inside
  derived : t.effects = Effects.ofRules t.rules
  rest : ∀ role, Roles.AtRest t role
  holder : ∀ role id, t.holder role = some id → s.holder role = some id ∨ t.Backed role id

theorem settle_ok (s t : State) (done : settle s = .ok t) : Settles s t := by
  obtain ⟨read, reads, done⟩ := Attempt.bind_ok _ _ _ done
  obtain ⟨cast, casts, done⟩ := Attempt.bind_ok _ _ _ done
  cases done
  have reread := Reading.run_reread s read false reads
  have holder := s.reread_holder read reread
  have upkeep := s.reread_upkeep read reread
  obtain ⟨justified, recast, rest⟩ := Roles.refresh_ok read cast casts
  have same := read.backed_recast cast recast
  obtain ⟨_, _, _, _, rfl⟩ := recast
  refine ⟨upkeep.extent, upkeep.catalog, upkeep.survivor, fun numbered => ?_, upkeep.inside, ?_, rest,
    fun role id held => (justified role id ?_).imp (holder role).symm.trans (same role id).mpr⟩
  · exact ⟨(upkeep.numbered numbered).first, (upkeep.numbered numbered).living⟩
  · obtain ⟨_, _, _, _, rfl⟩ := reread
    rfl
  · cases role <;> exact held

section Follow

variable (g : Stages) (before : List Rule) (d : Direction) (t : State) (follow : g.Follow before d t)
include follow

theorem read_derived : g.read.effects = Effects.ofRules g.read.rules := by
  obtain ⟨_, _, _, _, same⟩ := Reading.run_reread g.fused g.read true follow.reads
  rw [same]

theorem read_triggered : g.read.Onward g.triggered ∧ g.read.Recast g.triggered := by
  have derived := read_derived g before d t follow
  have capturing := Roles.capture_new_ok g.read g.captured before derived follow.captures
  have captured := g.read.onward_recast g.captured capturing.1 capturing.2
  have triggering := Roles.trigger_slots_ok g.captured g.triggered (g.read.onward_derived g.captured captured derived)
    follow.triggers
  have triggered := g.captured.onward_recast g.triggered triggering.1 triggering.2
  exact ⟨g.read.onward_trans _ _ captured triggered, g.read.recast_trans _ _ capturing.2 triggering.2⟩

theorem triggered_ranked : g.triggered.Onward g.ranked ∧ g.triggered.Recast g.ranked := by
  have ranking := Roles.refresh_ok g.triggered g.ranked follow.ranks
  exact ⟨g.triggered.onward_recast g.ranked ranking.1 ranking.2.1, ranking.2.1⟩

theorem ranked_melted : g.ranked.Onward g.melted ∧ ∀ role, g.melted.holder role = g.ranked.holder role := by
  have changing := report_change_retold before g.ranked
  have sinking := Hazards.strike_thinned _ _ _ g.sunk follow.sinks
  have melting := Hazards.strike_thinned _ _ _ g.melted follow.melts
  constructor
  · exact g.ranked.onward_trans _ _ (g.ranked.onward_retold _ changing)
      (State.onward_trans _ _ _ (State.onward_thinned _ _ sinking) (State.onward_thinned _ _ melting))
  · intro role
    exact (State.thinned_holder _ _ melting role).trans
      ((State.thinned_holder _ _ sinking role).trans (State.retold_holder _ _ changing role))

theorem cast_retold : g.cast.Recast t ∧ ∀ role, t.holder role = g.cast.holder role := by
  have clearing := Victory.run_retold g.cast g.cleared follow.clears
  have telling := report_silence_retold d g.cleared
  rw [follow.ends]
  constructor
  · exact g.cast.recast_trans _ _ (g.cast.retold_recast _ clearing) (g.cleared.retold_recast _ telling)
  · exact fun role => (g.cleared.retold_holder _ telling role).trans (g.cast.retold_holder _ clearing role)

theorem melted_cast : g.melted.Onward t ∧ g.melted.Recast t ∧ ∀ role, Roles.AtRest t role := by
  have casting := Roles.refresh_ok g.melted g.cast follow.casts
  obtain ⟨recast, holder⟩ := cast_retold g before d t follow
  have justified : g.cast.Justified t := fun role id held => .inl ((holder role).symm.trans held)
  refine ⟨?_, g.melted.recast_trans _ _ casting.2.1 recast, fun role => ?_⟩
  · exact g.melted.onward_trans _ _ (g.melted.onward_recast g.cast casting.1 casting.2.1)
      (g.cast.onward_recast t justified recast)
  · exact Roles.at_rest_recast g.cast t role recast (holder role) (casting.2.2 role)

theorem read_onward : g.read.Onward t ∧ ∀ role, Roles.AtRest t role := by
  obtain ⟨ends, _, rest⟩ := melted_cast g before d t follow
  have ranked := g.read.onward_trans _ _ (read_triggered g before d t follow).1 (triggered_ranked g before d t follow).1
  exact ⟨g.read.onward_trans _ _ ranked (g.ranked.onward_trans _ _ (ranked_melted g before d t follow).1 ends), rest⟩

theorem counted_upkeep : g.counted.Upkeep t := by
  have reread := Reading.run_reread g.fused g.read true follow.reads
  have onward := (read_onward g before d t follow).1
  exact g.counted.upkeep_trans g.fused t (Fusion.run_upkeep g.counted g.fused follow.fuses)
    (g.fused.upkeep_trans g.read t (g.fused.reread_upkeep g.read reread) onward.upkeep)

theorem counted_holder (role : Role) (id : EntityId) (held : t.holder role = some id) :
    g.counted.holder role = some id ∨ t.Backed role id := by
  obtain ⟨onward, rest⟩ := read_onward g before d t follow
  have alive := (Roles.heir_living t role id (held ▸ rest role)).2.1
  refine (onward.holder role id held alive).imp_left fun before => ?_
  rw [← Fusion.run_holder g.counted g.fused follow.fuses role,
    ← g.fused.reread_holder g.read (Reading.run_reread g.fused g.read true follow.reads) role]
  exact before

theorem gone_settles : t.moves = g.gone.moves + 1 ∧ Settles g.gone t := by
  obtain ⟨onward, rest⟩ := read_onward g before d t follow
  have derived := g.read.onward_derived t onward (read_derived g before d t follow)
  have upkeep := counted_upkeep g before d t follow
  have holder := counted_holder g before d t follow
  rw [follow.counts] at upkeep holder
  refine ⟨upkeep.moves, upkeep.extent, upkeep.catalog, upkeep.survivor, fun numbered => ?_, upkeep.inside, derived, rest,
    fun role id held => (holder role id held).imp_left fun before => ?_⟩
  · exact upkeep.numbered ⟨numbered.first, numbered.living⟩
  · cases role <;> exact before

end Follow

theorem lead_settles (s t : State) (d : Direction) (g : Stages) (lead : g.Lead s d t) :
    t.moves = g.ready.moves + 1 ∧ Settles g.ready t := by
  obtain ⟨counted, settles⟩ := gone_settles g s.rules d t lead.follow
  have upkeep := Movement.run_upkeep _ g.gone g.player d lead.moves
  have holder (role : Role) : g.gone.holder role = g.ready.holder role := by
    obtain ⟨_, _, _, same⟩ := Movement.run_ok _ g.gone g.player d lead.moves
    rw [same]
    cases role <;> rfl
  refine ⟨counted.trans (congrArg (· + 1) upkeep.moves), settles.extent.trans upkeep.extent,
    settles.catalog.trans upkeep.catalog, fun id old alive => ?_, fun numbered => ?_,
    fun inside => settles.inside (upkeep.inside inside), settles.derived, settles.rest,
    fun role id held => holder role ▸ settles.holder role id held⟩
  · obtain ⟨middle, later⟩ := settles.survivor id (Int.lt_of_lt_of_le old upkeep.fresh) alive
    obtain ⟨start, sooner⟩ := upkeep.survivor id old middle
    exact ⟨start, fun carrier => later (sooner carrier)⟩
  · exact settles.numbered (upkeep.numbered ⟨numbered.first, numbered.living⟩)

theorem play_ok (s t : State) (d : Direction) (played : play s d = .ok t) :
    (Stalls s d ∧ ∃ message, t = refuse s message) ∨
      (¬ Stalls s d ∧ ∃ ready, Roles.refresh s.quiet = .ok ready ∧ t.moves = ready.moves + 1 ∧ Settles ready t) := by
  refine (play_stages s t d played).imp_right ?_
  rintro ⟨g, lead⟩
  exact ⟨lead_goes s t d g lead, g.ready, lead.refreshes, lead_settles s t d g lead⟩

theorem play_won (s : State) (won : s.won = true) (d : Direction) : play s d = .ok (refuse s clearedMessage) := by
  rw [play, if_pos won]

theorem replay_won (s : State) (won : s.won = true) (moves : List Direction) :
    ∃ t, replay s moves = .ok t ∧ t.quiet = s.quiet := by
  induction moves generalizing s with
  | nil => exact ⟨s, rfl, rfl⟩
  | cons d rest ih =>
      obtain ⟨t, replayed, same⟩ := ih (refuse s clearedMessage) won
      rw [replay, Attempt.through, play_won s won d]
      exact ⟨t, replayed, same⟩

theorem turn_all_or_nothing (s : State) :
    (∀ d t, play s d = .ok t →
      ((t.moves = s.moves + 1 ∧ s.won = false) ∨ ∃ message, t = { s with events := [⟨.blocked, message, []⟩] }) ∧
      ¬((t.moves = s.moves + 1 ∧ s.won = false) ∧ ∃ message, t = { s with events := [⟨.blocked, message, []⟩] }) ∧
      ((∃ message, t = { s with events := [⟨.blocked, message, []⟩] }) ↔ Stalls s d)) ∧
    (s.won = true → ∀ moves, ∃ t, replay s moves = .ok t ∧ t.quiet = s.quiet) := by
  refine ⟨fun d t played => ?_, replay_won s⟩
  have exclusive (counted : t.moves = s.moves + 1) : ¬∃ message, t = { s with events := [⟨.blocked, message, []⟩] } := by
    rintro ⟨message, same⟩
    have kept : t.moves = s.moves := by rw [same]
    omega
  rcases play_ok s t d played with ⟨stalls, refused⟩ | ⟨goes, ready, refreshed, counts, _⟩
  · exact ⟨.inr refused, fun both => exclusive both.1.1 refused, fun _ => stalls, fun _ => refused⟩
  · have upkeep := s.quiet.recast_upkeep ready (Roles.refresh_ok s.quiet ready refreshed).2.1
    have counted : t.moves = s.moves + 1 := counts.trans (congrArg (· + 1) upkeep.moves)
    have open_level : s.won = false := Bool.eq_false_iff.mpr fun won => goes (.cleared won)
    exact ⟨.inl ⟨counted, open_level⟩, fun both => exclusive counted both.2,
      fun refused => absurd refused (exclusive counted), fun stalls => absurd stalls goes⟩

def corridor : Level where
  heading := ⟨"corridor", "Corridor", .null⟩
  extent := ⟨4, 3⟩
  placements := [⟨"obj-human", ⟨0, 0⟩⟩, ⟨"obj-gate", ⟨0, 0⟩⟩, ⟨"txt-rock", ⟨1, 0⟩⟩, ⟨"txt-tree", ⟨2, 0⟩⟩,
    ⟨"txt-human", ⟨0, 1⟩⟩, ⟨"txt-topic", ⟨1, 1⟩⟩, ⟨"txt-you", ⟨2, 1⟩⟩, ⟨"txt-gate", ⟨0, 2⟩⟩, ⟨"txt-topic", ⟨1, 2⟩⟩,
    ⟨"txt-win", ⟨2, 2⟩⟩]

theorem corridor_stops_the_second_push :
    ∃ first gone stuck cleared, Session.loaded .standard corridor = .ok first ∧ play first .right = .ok gone ∧
      play gone .right = .ok stuck ∧ play stuck .left = .ok cleared ∧ ¬ Stalls first .right ∧ Stalls gone .right ∧
      (∃ message, stuck = { gone with events := [⟨.blocked, message, []⟩] }) ∧
      ∃ final, replay cleared [.right, .down] = .ok final ∧ final.quiet = cleared.quiet := by
  have walked : (do
      let first ← Session.loaded .standard corridor
      let gone ← play first .right
      let stuck ← play gone .right
      let cleared ← play stuck .left
      .ok (first.moves, gone.moves, stuck.moves, first.won, cleared.won)) = Except.ok (0, 1, 1, false, true) := by rfl
  obtain ⟨first, loaded, walked⟩ := Attempt.bind_ok _ _ _ walked
  obtain ⟨gone, went, walked⟩ := Attempt.bind_ok _ _ _ walked
  obtain ⟨stuck, halted, walked⟩ := Attempt.bind_ok _ _ _ walked
  obtain ⟨cleared, back, walked⟩ := Attempt.bind_ok _ _ _ walked
  simp only [Except.ok.injEq, Prod.mk.injEq] at walked
  obtain ⟨none, one, still, open_level, won⟩ := walked
  obtain ⟨_, exclusive, refused_first⟩ := (turn_all_or_nothing first).1 .right gone went
  obtain ⟨either, _, refused_second⟩ := (turn_all_or_nothing gone).1 .right stuck halted
  have refused := either.resolve_left fun counted => by omega
  refine ⟨first, gone, stuck, cleared, loaded, went, halted, back, fun stalls => ?_, refused_second.mp refused, refused,
    (turn_all_or_nothing cleared).2 won [.right, .down]⟩
  exact exclusive ⟨⟨by omega, open_level⟩, refused_first.mpr stalls⟩

end Turn

end KanjiPuzzle
