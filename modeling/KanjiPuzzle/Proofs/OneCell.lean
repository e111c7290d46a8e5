import KanjiPuzzle.Proofs.Chain

set_option autoImplicit false

/- How far a movement carries an entity: one cell for every time that the chain moves it. What is pushed is not asked
   whether it has moved already, so of tiles that lie in one cell some may be carried two cells and more. -/
namespace KanjiPuzzle

def GoesOneCell (d : Direction) (s next : State) : Prop :=
  ∀ id before, s.positions.get? id = some before →
    next.positions.get? id = some before ∨ next.positions.get? id = some (before.shift d.offset)

-- No entity that can be pushed shares its cell with another one that can be pushed or that pulls.
def State.Uncrowded (s : State) : Prop :=
  ∀ a b cell, a ≠ b → s.isPushable a = .ok true → s.isPushable b = .ok true ∨ s.has .pull b = .ok true →
    s.positions.get? a = some cell → s.positions.get? b ≠ some cell

namespace Movement

def carried (s : State) (id : EntityId) (d : Direction) : List EntityId :=
  match advance s d.offset (budget s) [] id ⟨s.positions, []⟩ with
  | .ok scene => scene.moved.reverse
  | .error _ => []

theorem chain_moved_placed (s : State) (o : Offset) (pushing : List EntityId) (task : Task) (scene final : Scene)
    (chain : Chain s o pushing task scene final)
    (before : ∀ id ∈ scene.moved, ∃ cell, scene.positions.get? id = some cell) :
    ∀ id ∈ final.moved, ∃ cell, final.positions.get? id = some cell := by
  refine chain_keeps s o (fun later => ∀ id ∈ later.moved, ∃ cell, later.positions.get? id = some cell) ?_
    pushing task scene final chain before
  intro later mover origin placed here _ id member
  rw [get_settle]
  by_cases same : mover = id
  · exact ⟨origin.shift o, if_pos same⟩
  · rw [if_neg same]
    exact placed id ((List.mem_cons.mp member).resolve_left (Ne.symm same))

theorem advance_one_cell_iff (start : Cell) (d : Direction) (steps : Nat) :
    (start.advance d.offset steps = start ∨ start.advance d.offset steps = start.shift d.offset) ↔ steps ≤ 1 := by
  constructor
  · rintro (stays | goes)
    · have none := Cell.advance_injective start d steps 0 (stays.trans (Cell.advance_zero start d.offset).symm)
      omega
    · have one := Cell.advance_injective start d steps 1 (goes.trans (Cell.advance_one start d.offset).symm)
      omega
  · intro few
    rcases Nat.le_one_iff_eq_zero_or_eq_one.mp few with rfl | rfl
    · exact .inl (Cell.advance_zero start d.offset)
    · exact .inr (Cell.advance_one start d.offset)

theorem one_cell_iff_nodup (s : State) (d : Direction) (scene : Scene) (tracked : Tracked s d.offset scene)
    (placed : ∀ id ∈ scene.moved, ∃ cell, scene.positions.get? id = some cell) :
    GoesOneCell d s { s with positions := scene.positions } ↔ scene.moved.Nodup := by
  rw [List.nodup_iff_count]
  constructor
  · intro oneCell id
    by_cases member : id ∈ scene.moved
    · obtain ⟨cell, stands⟩ := placed id member
      obtain ⟨start, stood, _⟩ := Option.map_eq_some_iff.mp ((tracked id).symm.trans stands)
      have after := tracked id
      rw [stood] at after
      refine (advance_one_cell_iff start d _).mp ((oneCell id start stood).imp ?_ ?_)
      · exact fun stays => Option.some.inj (after.symm.trans stays)
      · exact fun goes => Option.some.inj (after.symm.trans goes)
    · rw [List.count_eq_zero_of_not_mem member]
      exact Nat.zero_le 1
  · intro once id start stood
    have after := tracked id
    rw [stood] at after
    refine ((advance_one_cell_iff start d _).mpr (once id)).imp ?_ ?_
    · exact fun stays => after.trans (congrArg some stays)
    · exact fun goes => after.trans (congrArg some goes)

def Unmoved (s : State) (scene : Scene) : Task → Prop
  | .go id => id ∉ scene.moved ∧ (s.isPushable id = .ok true ∨ s.has .pull id = .ok true ∨ scene.moved = [])
  | .clear _ occupants => occupants.Nodup ∧ ∃ cell, ∀ occupant ∈ occupants, s.isPushable occupant = .ok true →
      occupant ∉ scene.moved ∧ s.positions.get? occupant = some cell
  | .follow _ => True

theorem tracked_unmoved (s : State) (o : Offset) (scene : Scene) (id : EntityId) (cell : Cell)
    (tracked : Tracked s o scene) (unmoved : id ∉ scene.moved) (stands : scene.positions.get? id = some cell) :
    s.positions.get? id = some cell := by
  obtain ⟨start, stood, here⟩ := Option.map_eq_some_iff.mp ((tracked id).symm.trans stands)
  rw [List.count_eq_zero_of_not_mem unmoved, Cell.advance_zero] at here
  exact stood.trans (congrArg some here)

theorem tracked_moved_once (s : State) (o : Offset) (scene : Scene) (id : EntityId) (cell : Cell)
    (tracked : Tracked s o scene) (once : scene.moved.Nodup) (moved : id ∈ scene.moved)
    (stands : scene.positions.get? id = some (cell.shift o)) : s.positions.get? id = some cell := by
  obtain ⟨start, stood, here⟩ := Option.map_eq_some_iff.mp ((tracked id).symm.trans stands)
  have most := List.nodup_iff_count.mp once id
  have least := List.count_pos_iff.mpr moved
  have count : scene.moved.count id = 1 := by omega
  rw [count, Cell.advance_one] at here
  exact stood.trans (congrArg some (Cell.shift_injective start cell o here))

-- An occupant that has moved already comes from the very cell of the entity that is now behind it.
theorem occupants_unmoved (s : State) (o : Offset) (scene : Scene) (id : EntityId) (origin : Cell)
    (uncrowded : s.Uncrowded) (tracked : Tracked s o scene) (once : scene.moved.Nodup)
    (unmoved : Unmoved s scene (.go id)) (placed : scene.positions.get? id = some origin) :
    Unmoved s scene (.clear id (scene.others (origin.shift o) id)) := by
  obtain ⟨idle, kind⟩ := unmoved
  refine ⟨others_nodup scene _ id, origin.shift o, fun occupant member pushed => ?_⟩
  obtain ⟨stands, different⟩ := (mem_others_iff scene _ id occupant).mp member
  have fresh : occupant ∉ scene.moved := by
    intro moved
    have started := tracked_moved_once s o scene occupant origin tracked once moved stands
    have beside := tracked_unmoved s o scene id origin tracked idle placed
    rcases kind with pushable | pulls | nothing
    · exact uncrowded occupant id origin different pushed (.inl pushable) started beside
    · exact uncrowded occupant id origin different pushed (.inr pulls) started beside
    · rw [nothing] at moved
      cases moved
  exact ⟨fresh, tracked_unmoved s o scene occupant _ tracked fresh stands⟩

theorem chain_moves_once (s : State) (o : Offset) (uncrowded : s.Uncrowded) (pushing : List EntityId) (task : Task)
    (scene final : Scene) (chain : Chain s o pushing task scene final) (tracked : Tracked s o scene)
    (once : scene.moved.Nodup) (unmoved : Unmoved s scene task) : final.moved.Nodup := by
  induction chain with
  | clear => exact once
  | follow => exact once
  | stay _ _ _ _ _ _ _ ih => exact ih tracked once trivial
  | pass _ _ head rest _ _ _ _ ih =>
      obtain ⟨distinct, cell, fresh⟩ := unmoved
      refine ih tracked once ⟨(List.nodup_cons.mp distinct).2, cell, fun occupant member => ?_⟩
      exact fresh occupant (List.mem_cons_of_mem head member)
  | push _ _ head rest scene next _ _ pushed moves _ movesIh laterIh =>
      obtain ⟨distinct, cell, fresh⟩ := unmoved
      obtain ⟨idle, stood⟩ := fresh head List.mem_cons_self pushed
      have middle := movesIh tracked once ⟨idle, .inl pushed⟩
      refine laterIh (chain_tracked s o _ _ _ _ moves tracked) middle
        ⟨(List.nodup_cons.mp distinct).2, cell, fun occupant member pushable => ?_⟩
      -- A second entity to be pushed out of the same cell would crowd it.
      have beside := (fresh occupant (List.mem_cons_of_mem head member) pushable).2
      have different : occupant ≠ head := fun same => (List.nodup_cons.mp distinct).1 (same ▸ member)
      exact absurd stood (uncrowded occupant head cell different pushable (.inl pushed) beside)
  | drag _ _ _ _ _ _ idle _ pulls moves _ movesIh laterIh =>
      have middle := movesIh tracked once ⟨idle, .inr (.inl pulls)⟩
      exact laterIh (chain_tracked s o _ _ _ _ moves tracked) middle trivial
  | go _ id origin scene cleared _ _ placed _ clears _ clearsIh followsIh =>
      have middle := clearsIh tracked once (occupants_unmoved s o scene id origin uncrowded tracked once unmoved placed)
      obtain ⟨still, count⟩ := chain_waiting s o _ _ _ _ clears id List.mem_cons_self
      have idle : id ∉ cleared.moved := by
        rw [← List.count_eq_zero, count]
        exact List.count_eq_zero_of_not_mem unmoved.1
      have settled := tracked_settle s o cleared id origin (chain_tracked s o _ _ _ _ clears tracked) (still.trans placed)
      exact followsIh settled (List.nodup_cons.mpr ⟨idle, middle⟩) trivial

theorem movement_one_cell_iff (s next : State) (id : EntityId) (d : Direction) (done : run s id d = .ok (some next)) :
    (∀ other, next.positions.get? other =
      (s.positions.get? other).map fun before => before.advance d.offset ((carried s id d).count other)) ∧
      (GoesOneCell d s next ↔ (carried s id d).Nodup) ∧ (s.Uncrowded → GoesOneCell d s next) := by
  obtain ⟨scene, completed, chain, rfl⟩ := run_ok s next id d done
  have order : carried s id d = scene.moved.reverse := by
    rw [carried, completed]
  have tracked := chain_tracked s d.offset _ _ _ scene chain (tracked_start s d.offset)
  have placed := chain_moved_placed s d.offset _ _ _ scene chain (fun id member => by cases member)
  have oneCell := one_cell_iff_nodup s d scene tracked placed
  rw [order]
  refine ⟨fun other => ?_, ?_, fun uncrowded => ?_⟩
  · rw [List.count_reverse]
    exact tracked other
  · rw [(List.reverse_perm scene.moved).nodup_iff]
    exact oneCell
  · refine oneCell.mpr (chain_moves_once s d.offset uncrowded _ _ _ scene chain (tracked_start s d.offset) .nil ?_)
    exact ⟨by simp, .inr (.inr rfl)⟩

theorem line_of_tiles_goes_one_cell :
    let s := State.ofTiles ⟨5, 1⟩ [⟨1, "obj-tree", ⟨0, 0⟩⟩, ⟨2, "obj-human", ⟨1, 0⟩⟩, ⟨3, "txt-human", ⟨2, 0⟩⟩,
      ⟨4, "txt-tree", ⟨3, 0⟩⟩] ⟨[("tree", [.pull])], []⟩ (some 2)
    ∃ next, run s 2 .right = .ok (some next) ∧ carried s 2 .right = [4, 3, 2, 1] ∧ GoesOneCell .right s next := by
  intro s
  have done : run s 2 .right = .ok (some { s with
      positions := ⟨[(1, ⟨1, 0⟩), (2, ⟨2, 0⟩), (3, ⟨3, 0⟩), (4, ⟨4, 0⟩)], by decide⟩ }) := by rfl
  have order : carried s 2 .right = [4, 3, 2, 1] := by rfl
  exact ⟨_, done, order, (movement_one_cell_iff s _ 2 .right done).2.1.mpr (by rw [order]; decide)⟩

-- A tree drags after the player and pushes the tile out of the player's cell, onto the player: two cells for the player.
theorem mover_carried_two_cells :
    let s := State.ofTiles ⟨4, 1⟩ [⟨1, "obj-tree", ⟨0, 0⟩⟩, ⟨2, "obj-human", ⟨1, 0⟩⟩, ⟨3, "txt-human", ⟨1, 0⟩⟩]
      ⟨[("tree", [.pull])], []⟩ (some 2)
    ∃ next, run s 2 .right = .ok (some next) ∧ next.positions.get? 2 = some ⟨3, 0⟩ ∧ carried s 2 .right = [2, 2, 3, 1] ∧
      ¬ GoesOneCell .right s next := by
  intro s
  refine ⟨{ s with positions := ⟨[(1, ⟨1, 0⟩), (2, ⟨3, 0⟩), (3, ⟨2, 0⟩)], by decide⟩ }, rfl, rfl, rfl, fun oneCell => ?_⟩
  exact absurd (oneCell 2 ⟨1, 0⟩ rfl) (by decide)

end Movement

end KanjiPuzzle
