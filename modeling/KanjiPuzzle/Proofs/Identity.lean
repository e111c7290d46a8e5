import KanjiPuzzle.Proofs.Reached
import KanjiPuzzle.Proofs.Report

set_option autoImplicit false

/- Who is who. An id is given out once: what is gone does not come back, and all that an entity can become is the object
   of a noun. What holds of one turn composes to whole runs. -/
namespace KanjiPuzzle

namespace State

-- An object of the world that has become the object of a noun.
def Turned (s t : State) (id : EntityId) : Prop :=
  (∃ d, s.definitionOf id = .ok d ∧ d.isObject = true) ∧
    ∃ noun object, s.catalog.objectFor? noun = some object ∧ t.definitions.get? id = some object.id

-- What was an entity before is the same entity still, or was turned.
def Becomes (s t : State) (id : EntityId) : Prop := t.definitions.get? id = s.definitions.get? id ∨ s.Turned t id

structure Descends (s t : State) : Prop where
  catalog : t.catalog = s.catalog
  fresh : s.nextId ≤ t.nextId
  survivor : ∀ id, id < s.nextId → t.Alive id → s.Alive id
  becomes : ∀ id, id < s.nextId → t.Alive id → s.Becomes t id

theorem definition_alike (s t : State) (id : EntityId) (catalog : t.catalog = s.catalog)
    (same : t.definitions.get? id = s.definitions.get? id) : t.definitionOf id = s.definitionOf id := by
  rw [definitionOf, definitionOf, definitionIdOf, definitionIdOf, same, catalog]

theorem becomes_trans (s t u : State) (id : EntityId) (catalog : t.catalog = s.catalog) (first : s.Becomes t id)
    (second : t.Becomes u id) : s.Becomes u id := by
  cases second with
  | inl same =>
      rw [Becomes, Turned, same]
      exact first
  | inr turned =>
      obtain ⟨⟨d, defined, isObject⟩, noun, object, found, stored⟩ := turned
      rw [catalog] at found
      cases first with
      | inl same =>
          rw [s.definition_alike t id catalog same] at defined
          exact .inr ⟨⟨d, defined, isObject⟩, noun, object, found, stored⟩
      | inr sooner => exact .inr ⟨sooner.1, noun, object, found, stored⟩

theorem descends_trans (s t u : State) (first : s.Descends t) (second : t.Descends u) : s.Descends u := by
  have older (id : EntityId) (old : id < s.nextId) : id < t.nextId := Int.lt_of_lt_of_le old first.fresh
  have middle (id : EntityId) (old : id < s.nextId) (alive : u.Alive id) : t.Alive id :=
    second.survivor id (older id old) alive
  constructor
  · exact second.catalog.trans first.catalog
  · exact Int.le_trans first.fresh second.fresh
  · exact fun id old alive => first.survivor id old (middle id old alive)
  · intro id old alive
    exact s.becomes_trans t u id first.catalog (first.becomes id old (middle id old alive))
      (second.becomes id (older id old) alive)

theorem descends_upkeep (s t : State) (upkeep : s.Upkeep t)
    (becomes : ∀ id, id < s.nextId → t.Alive id → s.Becomes t id) : s.Descends t :=
  ⟨upkeep.catalog, upkeep.fresh, fun id old alive => (upkeep.survivor id old alive).1, becomes⟩

theorem descends_recast (s t : State) (recast : s.Recast t) : s.Descends t := by
  have upkeep := s.recast_upkeep t recast
  obtain ⟨_, _, _, _, rfl⟩ := recast
  exact s.descends_upkeep _ upkeep fun _ _ _ => .inl rfl

theorem descends_onward (s t : State) (onward : s.Onward t) : s.Descends t :=
  s.descends_upkeep t onward.upkeep fun id _ alive => .inl (onward.defined id alive)

end State

theorem Fusion.spawn_all_defined (pairings : List Pairing) (s : State) (id : EntityId) (old : id < s.nextId) :
    (pairings.foldl spawn s).definitions.get? id = s.definitions.get? id := by
  rw [spawn_all_eq, EntityMap.get_appended, if_neg fun new => absurd new.1 (Int.not_le.mpr old)]

theorem Fusion.run_descends (s t : State) (done : Fusion.run s = .ok t) : s.Descends t := by
  refine s.descends_upkeep t (Fusion.run_upkeep s t done) fun id old alive => .inl ?_
  obtain ⟨found, _, done⟩ := Attempt.bind_ok _ _ _ done
  cases done
  have kept := Fusion.spawn_all_defined found (s.remove (used found)) id old
  have before : (s.remove (used found)).Alive id := by
    rw [State.Alive, EntityMap.contains, kept] at alive
    exact alive
  rw [kept, State.remove, EntityMap.get_erase_all, if_neg ((s.remove_alive_iff _ id).mp before).1]

theorem Transform.run_becomes (s t : State) (announce : Bool) (done : Transform.run s announce = .ok t) (id : EntityId)
    (alive : t.Alive id) : s.Becomes t id := by
  obtain ⟨changes, told, sources, _, rfl⟩ := Transform.run_ok s t announce done
  obtain ⟨definition, stored⟩ := Option.isSome_iff_exists.mp alive
  rcases Transform.apply_get s changes id definition stored with ⟨c, listed, rfl, rfl⟩ | kept
  · obtain ⟨source, _, changed⟩ := (sources c).mp listed
    obtain ⟨same, d, object, destined, becomes, _⟩ := Transform.change_made s source c changed
    have defined := destined.embodies.defined
    rw [← same] at defined
    exact .inr ⟨⟨d, defined, destined.embodies.isObject⟩, c.target, object, destined.found, becomes ▸ stored⟩
  · exact .inl (stored.trans kept.symm)

theorem Reading.run_becomes (s t : State) (announce : Bool) (done : Reading.run s announce = .ok t) (id : EntityId)
    (alive : t.Alive id) : s.Becomes t id := by
  obtain ⟨b, _, done⟩ := Attempt.bind_ok _ _ _ done
  exact Transform.run_becomes (s.withRules b.rules) t announce done id alive

theorem Reading.run_descends (s t : State) (announce : Bool) (done : Reading.run s announce = .ok t) : s.Descends t :=
  s.descends_upkeep t (s.reread_upkeep t (Reading.run_reread s t announce done)) fun id _ alive =>
    Reading.run_becomes s t announce done id alive

namespace Turn

section Lead

variable (g : Stages) (s t : State) (d : Direction) (lead : g.Lead s d t)
include lead

theorem lead_counted : g.counted.catalog = s.catalog ∧ g.counted.nextId = s.nextId ∧
    g.counted.definitions = s.definitions := by
  obtain ⟨_, _, _, _, ready⟩ := (Roles.refresh_ok s.quiet g.ready lead.refreshes).2.1
  obtain ⟨_, _, _, gone⟩ := Movement.run_ok _ g.gone g.player d lead.moves
  rw [lead.follow.counts, gone, ready]
  exact ⟨rfl, rfl, rfl⟩

theorem lead_descends : s.Descends t := by
  obtain ⟨catalog, next, definitions⟩ := lead_counted g s t d lead
  have counted : s.Descends g.counted := by
    constructor
    · exact catalog
    · exact Int.le_of_eq next.symm
    · intro id _ alive
      rw [State.Alive, definitions] at alive
      exact alive
    · exact fun id _ _ => .inl (congrArg (EntityMap.get? · id) definitions)
  have fused := Fusion.run_descends g.counted g.fused lead.follow.fuses
  have read := Reading.run_descends g.fused g.read true lead.follow.reads
  have onward := g.read.descends_onward t (read_onward g s.rules d t lead.follow).1
  exact s.descends_trans _ _ counted (State.descends_trans _ _ _ fused (State.descends_trans _ _ _ read onward))

theorem lead_fusions : t.nextId = s.nextId + t.fusions := by
  obtain ⟨_, next, _⟩ := lead_counted g s t d lead
  have told := counted_told g s t d lead
  have silent : g.counted.fusions = 0 := by
    rw [State.fusions, told]
    rfl
  have fused := Fusion.run_fusions g.counted g.fused lead.follow.fuses silent
  obtain ⟨_, _, _, _, read⟩ := Reading.run_reread g.fused g.read true lead.follow.reads
  have onward := (read_onward g s.rules d t lead.follow).1
  rw [onward.nextId, read, fused_fusions g s.rules d t lead.follow, ← next]
  exact fused

end Lead

theorem play_descends (s t : State) (d : Direction) (played : play s d = .ok t) :
    s.Descends t ∧ t.nextId = s.nextId + t.fusions := by
  rcases play_stages s t d played with ⟨_, message, rfl⟩ | ⟨g, lead⟩
  · exact ⟨s.descends_recast _ ⟨s.player, s.goal, s.won, _, rfl⟩, (Int.add_zero s.nextId).symm⟩
  · exact ⟨lead_descends g s t d lead, lead_fusions g s t d lead⟩

theorem replay_descends (s t : State) (moves : List Direction) (replayed : replay s moves = .ok t) : s.Descends t := by
  refine Attempt.through_keeps s.Descends play moves ?_ s t (s.descends_recast s s.recast_refl) replayed
  exact fun t next d _ descends played => s.descends_trans t next descends (play_descends t next d played).1

end Turn

namespace State

structure Lineage (s t : State) : Prop where
  old : ∀ id, t.Alive id → id < s.nextId → s.Alive id
  new : ∀ id, t.Alive id → s.nextId ≤ id → id < t.nextId
  numbers : t.nextId = s.nextId + t.fusions
  turned : ∀ id, s.Alive id → t.Alive id → t.definitions.get? id ≠ s.definitions.get? id → s.Turned t id
  text : ∀ id d, s.definitionOf id = .ok d → d.isText = true → t.Alive id →
    t.definitions.get? id = s.definitions.get? id

theorem descends_lineage (s t : State) (descends : s.Descends t) (numbers : t.nextId = s.nextId + t.fusions)
    (sooner : s.Numbered) (later : t.Numbered) : s.Lineage t := by
  have becomes (id : EntityId) (before : s.Alive id) (alive : t.Alive id) : s.Becomes t id :=
    descends.becomes id (sooner.living id before).2 alive
  constructor
  · exact fun id alive old => descends.survivor id old alive
  · exact fun id alive _ => (later.living id alive).2
  · exact numbers
  · exact fun id before alive changed => (becomes id before alive).resolve_left changed
  · intro id d defined text alive
    cases becomes id (s.definition_alive id d defined) alive with
    | inl same => exact same
    | inr turned =>
        obtain ⟨⟨other, same, isObject⟩, _⟩ := turned
        cases defined.symm.trans same
        rw [d.is_text_eq_not_is_object, isObject] at text
        cases text

end State

namespace Turn

theorem identity_preserved (catalog : Catalog) (level : Level) (s : State) (reached : Reached catalog level s) :
    (∀ d, ∃ t, play s d = .ok t ∧ s.Lineage t) ∧
      ∀ before after, ∃ m t, replay s before = .ok m ∧ replay m after = .ok t ∧
        (∀ id, s.Alive id → ¬ m.Alive id → ¬ t.Alive id) ∧ ∀ id, t.Alive id → ¬ m.Alive id → m.nextId ≤ id := by
  constructor
  · intro d
    obtain ⟨t, played, later⟩ := reached_plays catalog level s reached d
    obtain ⟨descends, numbers⟩ := play_descends s t d played
    exact ⟨t, played, s.descends_lineage t descends numbers (reached_between catalog level s reached).numbered
      (reached_between catalog level t later).numbered⟩
  · intro before after
    obtain ⟨m, first, middle⟩ := reached_replays catalog level s reached before
    obtain ⟨t, second, _⟩ := reached_replays catalog level m middle after
    have sooner := replay_descends s m before first
    have later := replay_descends m t after second
    have numbered := (reached_between catalog level s reached).numbered
    refine ⟨m, t, first, second, fun id alive gone back => gone ?_, fun id alive gone => ?_⟩
    · exact later.survivor id (Int.lt_of_lt_of_le (numbered.living id alive).2 sooner.fresh) back
    · exact Int.not_lt.mp fun old => gone (later.survivor id old alive)

def kiln : Level where
  heading := ⟨"kiln", "Kiln", .null⟩
  extent := ⟨5, 4⟩
  placements := [⟨"obj-tree", ⟨0, 0⟩⟩, ⟨"obj-fire", ⟨2, 0⟩⟩, ⟨"obj-tree", ⟨4, 3⟩⟩, ⟨"txt-tree", ⟨0, 1⟩⟩,
    ⟨"txt-topic", ⟨1, 1⟩⟩, ⟨"txt-you", ⟨2, 1⟩⟩, ⟨"txt-charcoal", ⟨0, 2⟩⟩, ⟨"txt-topic", ⟨1, 2⟩⟩, ⟨"txt-rock", ⟨2, 2⟩⟩,
    ⟨"txt-rock", ⟨0, 3⟩⟩, ⟨"txt-topic", ⟨1, 3⟩⟩, ⟨"txt-gate", ⟨3, 3⟩⟩]

theorem kiln_keeps_identity :
    ∃ first burnt fired, Session.loaded .standard kiln = .ok first ∧ play first .right = .ok burnt ∧
      play burnt .left = .ok fired ∧ burnt.nextId = first.nextId + 1 ∧ first.Lineage burnt ∧ burnt.Turned fired 13 ∧
      first.Alive 1 ∧ ¬ burnt.Alive 1 ∧ ¬ fired.Alive 1 := by
  have walked : (do
      let first ← Session.loaded .standard kiln
      let burnt ← play first .right
      let fired ← play burnt .left
      .ok (first.nextId, burnt.nextId, burnt.definitions.get? 13, fired.definitions.get? 13,
        first.definitions.contains 1, burnt.definitions.contains 1)) =
      Except.ok (13, 14, some "obj-rock", some "obj-gate", true, false) := by rfl
  obtain ⟨first, load, walked⟩ := Attempt.bind_ok _ _ _ walked
  obtain ⟨burnt, burns, walked⟩ := Attempt.bind_ok _ _ _ walked
  obtain ⟨fired, fires, walked⟩ := Attempt.bind_ok _ _ _ walked
  simp only [Except.ok.injEq, Prod.mk.injEq] at walked
  obtain ⟨numbered, counted, rock, gate, alive, gone⟩ := walked
  have start := loaded_reached .standard kiln first load
  have middle : Reached .standard kiln burnt := .played first burnt .right start burns
  obtain ⟨turns, runs⟩ := identity_preserved .standard kiln first start
  obtain ⟨t, played, lineage⟩ := turns .right
  cases burns.symm.trans played
  obtain ⟨u, again, descent⟩ := (identity_preserved .standard kiln burnt middle).1 .left
  cases fires.symm.trans again
  obtain ⟨m, final, once, twice, removed, _⟩ := runs [.right] [.left]
  rw [replay, Attempt.through, burns] at once
  cases once
  rw [replay, Attempt.through, fires] at twice
  cases twice
  have still_gone : ¬ burnt.Alive 1 := Bool.eq_false_iff.mp gone
  have changed : fired.definitions.get? 13 ≠ burnt.definitions.get? 13 := by
    rw [rock, gate]
    decide
  refine ⟨first, burnt, fired, load, burns, fires, by rw [numbered, counted]; rfl, lineage,
    descent.turned 13 ?_ ?_ changed, alive, still_gone, removed 1 alive still_gone⟩
  · rw [State.Alive, EntityMap.contains, rock]
    rfl
  · rw [State.Alive, EntityMap.contains, gate]
    rfl

end Turn

end KanjiPuzzle
