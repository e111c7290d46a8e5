import KanjiPuzzle.Proofs.OneCell
import KanjiPuzzle.Proofs.Overlap

set_option autoImplicit false

/- What a movement takes along: all that stood in front of what has gone on and did not let it pass, and all that pulls
   from behind it. What still waits for room is counted, for it goes on in the end. -/
namespace KanjiPuzzle

def Displaced (s next : State) (id : EntityId) : Prop := next.positions.get? id ≠ s.positions.get? id

instance (s next : State) (id : EntityId) : Decidable (Displaced s next id) :=
  inferInstanceAs (Decidable (next.positions.get? id ≠ s.positions.get? id))

namespace Movement

theorem chain_moved_mono (s : State) (o : Offset) (pushing : List EntityId) (task : Task) (scene final : Scene)
    (chain : Chain s o pushing task scene final) (id : EntityId) (moved : id ∈ scene.moved) : id ∈ final.moved := by
  have before := List.count_pos_iff.mpr moved
  have after := chain_count_le s o pushing task scene final chain id
  exact List.count_pos_iff.mp (Nat.lt_of_lt_of_le before after)

def Outcome (s : State) (pushing : List EntityId) (final : Scene) : Task → Prop
  | .go id => id ∈ final.moved
  | .clear id occupants => ∀ occupant ∈ occupants, occupant ∈ final.moved ∨ Passes s id occupant
  | .follow entities => ∀ follower ∈ entities, Stays s pushing final follower

theorem stays_mono (s : State) (pushing : List EntityId) (scene final : Scene) (follower : EntityId)
    (more : ∀ id ∈ scene.moved, id ∈ final.moved) (stays : Stays s pushing scene follower) :
    Stays s pushing final follower :=
  stays.imp_left (more follower)

theorem chain_outcome (s : State) (o : Offset) (pushing : List EntityId) (task : Task) (scene final : Scene)
    (chain : Chain s o pushing task scene final) : Outcome s pushing final task := by
  induction chain with
  | clear => exact fun occupant member => nomatch member
  | follow => exact fun follower member => nomatch member
  | go pushing id origin scene cleared final _ _ _ _ follows _ _ =>
      exact chain_moved_mono s o pushing _ _ final follows id List.mem_cons_self
  | pass pushing id head rest scene final passes _ ih =>
      exact List.forall_mem_cons.mpr ⟨.inr passes, ih⟩
  | push pushing id head rest scene next final _ _ _ later movesIh laterIh =>
      exact List.forall_mem_cons.mpr ⟨.inl (chain_moved_mono s o pushing _ next final later head movesIh), laterIh⟩
  | stay pushing head rest scene final stays later ih =>
      have kept := stays_mono s pushing scene final head (chain_moved_mono s o pushing _ scene final later) stays
      exact List.forall_mem_cons.mpr ⟨kept, ih⟩
  | drag pushing head rest scene next final _ _ _ _ later movesIh laterIh =>
      exact List.forall_mem_cons.mpr ⟨.inl (chain_moved_mono s o pushing _ next final later head movesIh), laterIh⟩

-- What an entity owes to its neighbours: to have moved or passed what stood in front of its start, and that nothing
-- stays that could be drawn from behind it.
structure Served (s : State) (o : Offset) (pushing : List EntityId) (scene : Scene) (id : EntityId) (start : Cell) :
    Prop where
  ahead : ∀ other, s.positions.get? other = some (start.shift o) → other ∈ scene.moved ∨ Passes s id other
  behind : ∀ other, s.onBoard (start.back o) = true → s.positions.get? other = some (start.back o) →
    Stays s pushing scene other

theorem served_mono (s : State) (o : Offset) (pushing : List EntityId) (scene final : Scene) (id : EntityId)
    (start : Cell) (more : ∀ id ∈ scene.moved, id ∈ final.moved) (served : Served s o pushing scene id start) :
    Served s o pushing final id start :=
  ⟨fun other stood => (served.ahead other stood).imp_left (more other),
    fun other inside stood => stays_mono s pushing scene final other more (served.behind other inside stood)⟩

-- The entity that was waited for has gone on itself in the meantime.
theorem served_arrived (s : State) (o : Offset) (pushing : List EntityId) (scene : Scene) (mover id : EntityId)
    (start : Cell) (arrived : mover ∈ scene.moved) (served : Served s o (mover :: pushing) scene id start) :
    Served s o pushing scene id start := by
  refine ⟨served.ahead, fun other inside stood => ?_⟩
  rcases served.behind other inside stood with moved | waiting | idle
  · exact .inl moved
  · rcases List.mem_cons.mp waiting with same | earlier
    · exact .inl (same ▸ arrived)
    · exact .inr (.inl earlier)
  · exact .inr (.inr idle)

theorem tracked_stands (s : State) (o : Offset) (scene : Scene) (id : EntityId) (cell : Cell)
    (tracked : Tracked s o scene) (unmoved : id ∉ scene.moved) (stood : s.positions.get? id = some cell) :
    scene.positions.get? id = some cell := by
  rw [tracked id, stood, List.count_eq_zero_of_not_mem unmoved, Option.map_some, Cell.advance_zero]

theorem ahead_of_itself (s : State) (d : Direction) (id : EntityId) (start : Cell)
    (stood : s.positions.get? id = some start) : s.positions.get? id ≠ some (start.shift d.offset) := by
  intro same
  have here := Option.some.inj (stood.symm.trans same)
  rw [← Cell.advance_one] at here
  exact absurd (Cell.advance_injective start d 0 1 ((Cell.advance_zero start d.offset).trans here)) (by decide)

theorem behind_itself (s : State) (d : Direction) (id : EntityId) (start : Cell)
    (stood : s.positions.get? id = some start) : s.positions.get? id ≠ some (start.back d.offset) := by
  intro same
  apply ahead_of_itself s d id (start.back d.offset) same
  rw [Cell.shift_back]
  exact stood

theorem step_serves (s : State) (d : Direction) (pushing : List EntityId) (id : EntityId) (origin : Cell)
    (scene cleared final : Scene) (tracked : Tracked s d.offset scene) (idle : id ∉ scene.moved)
    (placed : scene.positions.get? id = some origin)
    (clears : Chain s d.offset (id :: pushing) (.clear id (scene.others (origin.shift d.offset) id)) scene cleared)
    (follows : Chain s d.offset pushing
      (.follow (followers s d.offset origin id (cleared.settle id (origin.shift d.offset))))
      (cleared.settle id (origin.shift d.offset)) final) :
    Served s d.offset pushing final id origin := by
  have stood := tracked_unmoved s d.offset scene id origin tracked idle placed
  have still := (chain_waiting s d.offset _ _ _ _ clears id List.mem_cons_self).1.trans placed
  have settled := tracked_settle s d.offset cleared id origin (chain_tracked s d.offset _ _ _ _ clears tracked) still
  have more := chain_moved_mono s d.offset pushing _ _ final follows
  have reached : ∀ other ∈ cleared.moved, other ∈ final.moved := fun other moved =>
    more other (List.mem_cons_of_mem id moved)
  constructor
  · intro other ahead
    by_cases moved : other ∈ scene.moved
    · exact .inl (reached other (chain_moved_mono s d.offset _ _ scene cleared clears other moved))
    · have stands := tracked_stands s d.offset scene other _ tracked moved ahead
      have different : other ≠ id := fun same => ahead_of_itself s d id origin stood (same ▸ ahead)
      have listed := (mem_others_iff scene (origin.shift d.offset) id other).mpr ⟨stands, different⟩
      exact (chain_outcome s d.offset _ _ _ _ clears other listed).imp_left (reached other)
  · intro other inside behind
    by_cases moved : other ∈ (cleared.settle id (origin.shift d.offset)).moved
    · exact .inl (more other moved)
    · have stands := tracked_stands s d.offset _ other _ settled moved behind
      have different : other ≠ id := fun same => behind_itself s d id origin stood (same ▸ behind)
      have listed := (mem_others_iff _ (origin.back d.offset) id other).mpr ⟨stands, different⟩
      apply chain_outcome s d.offset _ _ _ _ follows other
      rw [followers, if_pos inside]
      exact listed

theorem chain_serves (s : State) (d : Direction) (pushing : List EntityId) (task : Task) (scene final : Scene)
    (chain : Chain s d.offset pushing task scene final) (tracked : Tracked s d.offset scene) (id : EntityId)
    (start : Cell) (stood : s.positions.get? id = some start) (moved : id ∈ final.moved) :
    id ∈ scene.moved ∨ Served s d.offset pushing final id start := by
  induction chain with
  | clear => exact .inl moved
  | follow => exact .inl moved
  | pass _ _ _ _ _ _ _ _ ih => exact ih tracked moved
  | stay _ _ _ _ _ _ _ ih => exact ih tracked moved
  | push pushing _ _ _ scene next final _ _ moves later movesIh laterIh =>
      rcases laterIh (chain_tracked s d.offset _ _ _ _ moves tracked) moved with before | served
      · exact (movesIh tracked before).imp_right
          (served_mono s d.offset pushing next final id start (chain_moved_mono s d.offset _ _ _ _ later))
      · exact .inr served
  | drag pushing _ _ scene next final _ _ _ moves later movesIh laterIh =>
      rcases laterIh (chain_tracked s d.offset _ _ _ _ moves tracked) moved with before | served
      · exact (movesIh tracked before).imp_right
          (served_mono s d.offset pushing next final id start (chain_moved_mono s d.offset _ _ _ _ later))
      · exact .inr served
  | go pushing mover origin scene cleared final _ placed _ clears follows clearsIh followsIh =>
      have waited := (chain_waiting s d.offset _ _ _ _ clears mover List.mem_cons_self).1
      have settled := tracked_settle s d.offset cleared mover origin
        (chain_tracked s d.offset _ _ _ _ clears tracked) (waited.trans placed)
      have more := chain_moved_mono s d.offset pushing _ _ final follows
      rcases followsIh settled moved with before | served
      · by_cases same : id = mover
        · subst same
          by_cases earlier : id ∈ scene.moved
          · exact .inl earlier
          · have here := tracked_unmoved s d.offset scene id origin tracked earlier placed
            cases stood.symm.trans here
            exact .inr (step_serves s d pushing id _ scene cleared final tracked earlier placed clears follows)
        · have middle := (List.mem_cons.mp before).resolve_left same
          apply (clearsIh tracked middle).imp_right
          intro served
          have later := served_mono s d.offset _ cleared final id start
            (fun other member => more other (List.mem_cons_of_mem mover member)) served
          exact served_arrived s d.offset pushing final mover id start (more mover List.mem_cons_self) later
      · exact .inr served

theorem displaced_iff_moved (s : State) (d : Direction) (scene : Scene) (tracked : Tracked s d.offset scene)
    (id : EntityId) (start : Cell) (stood : s.positions.get? id = some start) :
    Displaced s { s with positions := scene.positions } id ↔ id ∈ scene.moved := by
  have stands : scene.positions.get? id = some (start.advance d.offset (scene.moved.count id)) := by
    rw [tracked id, stood, Option.map_some]
  rw [Displaced, ← List.count_pos_iff]
  dsimp only
  rw [stands, stood, Ne, Option.some.injEq]
  constructor
  · intro elsewhere
    apply Nat.pos_of_ne_zero
    intro never
    rw [never, Cell.advance_zero] at elsewhere
    exact elsewhere rfl
  · intro often here
    have never := Cell.advance_injective start d _ 0 (here.trans (Cell.advance_zero start d.offset).symm)
    omega

theorem movement_closed (s next : State) (id : EntityId) (d : Direction) (a : EntityId) (start : Cell)
    (done : run s id d = .ok (some next)) (stood : s.positions.get? a = some start) (displaced : Displaced s next a) :
    (∀ b, s.positions.get? b = some (start.shift d.offset) →
      Displaced s next b ∨ s.isBlocking b = .ok false ∨ Reaches s a b) ∧
      (∀ b, s.onBoard (start.back d.offset) = true → s.positions.get? b = some (start.back d.offset) →
        s.has .pull b = .ok true → Displaced s next b) := by
  obtain ⟨scene, _, chain, rfl⟩ := run_ok s next id d done
  have tracked := chain_tracked s d.offset _ _ _ scene chain (tracked_start s d.offset)
  have moved (b : EntityId) (cell : Cell) (here : s.positions.get? b = some cell) :=
    displaced_iff_moved s d scene tracked b cell here
  have served : Served s d.offset [] scene a start :=
    (chain_serves s d [] _ _ scene chain (tracked_start s d.offset) a start stood
      ((moved a start stood).mp displaced)).resolve_left List.not_mem_nil
  constructor
  · intro b ahead
    rcases served.ahead b ahead with gone | reaches | permeable
    · exact .inl ((moved b _ ahead).mpr gone)
    · exact .inr (.inr reaches)
    · exact .inr (.inl permeable)
  · intro b inside behind pulls
    rcases served.behind b inside behind with gone | waiting | idle
    · exact (moved b _ behind).mpr gone
    · cases waiting
    · cases pulls.symm.trans idle

theorem crowd_goes_along :
    let s := State.ofTiles ⟨6, 1⟩ [⟨1, "obj-tree", ⟨1, 0⟩⟩, ⟨2, "obj-human", ⟨2, 0⟩⟩, ⟨3, "txt-tree", ⟨3, 0⟩⟩,
      ⟨4, "txt-human", ⟨3, 0⟩⟩, ⟨5, "obj-tree", ⟨1, 0⟩⟩, ⟨6, "obj-rock", ⟨3, 0⟩⟩] ⟨[("tree", [.pull])], []⟩ (some 2)
    ∃ next, run s 2 .right = .ok (some next) ∧ Displaced s next 2 ∧ Displaced s next 3 ∧ Displaced s next 4 ∧
      Displaced s next 1 ∧ Displaced s next 5 ∧ s.isBlocking 6 = .ok false := by
  intro s
  have done : run s 2 .right = .ok (some { s with positions := ⟨[(1, ⟨2, 0⟩), (2, ⟨3, 0⟩), (3, ⟨5, 0⟩), (4, ⟨4, 0⟩),
      (5, ⟨2, 0⟩), (6, ⟨3, 0⟩)], by decide⟩ }) := by rfl
  have gone : Displaced s { s with positions := ⟨[(1, ⟨2, 0⟩), (2, ⟨3, 0⟩), (3, ⟨5, 0⟩), (4, ⟨4, 0⟩), (5, ⟨2, 0⟩),
      (6, ⟨3, 0⟩)], by decide⟩ } 2 := by decide
  obtain ⟨ahead, behind⟩ := movement_closed s _ 2 .right 2 ⟨2, 0⟩ done rfl gone
  have blocks (b : EntityId) (solid : s.isBlocking b = .ok true) (aside : s.isWinContact b = .ok false)
      (here : s.positions.get? b = some ⟨3, 0⟩) := (ahead b here).resolve_right (by
    rintro (permeable | ⟨_, contact⟩)
    · cases solid.symm.trans permeable
    · cases aside.symm.trans contact)
  exact ⟨_, done, gone, blocks 3 rfl rfl rfl, blocks 4 rfl rfl rfl, behind 1 rfl rfl rfl, behind 5 rfl rfl rfl, rfl⟩

end Movement

end KanjiPuzzle
