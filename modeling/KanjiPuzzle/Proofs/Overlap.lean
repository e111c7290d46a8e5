import KanjiPuzzle.Proofs.Chain

set_option autoImplicit false

/- A movement brings no two blocking entities into one cell that were not there together before. -/
namespace KanjiPuzzle.Movement

def Reaches (s : State) (a b : EntityId) : Prop := s.player = some a ∧ s.isWinContact b = .ok true

-- Two entities that keep out of each other's cells.
structure Apart (s : State) (a b : EntityId) : Prop where
  left : s.isBlocking a = .ok true
  right : s.isBlocking b = .ok true
  separate : s.positions.get? a ≠ s.positions.get? b
  unreached : ¬ Reaches s a b
  unreached_back : ¬ Reaches s b a

theorem Apart.symm (s : State) (a b : EntityId) (apart : Apart s a b) : Apart s b a :=
  ⟨apart.right, apart.left, apart.separate.symm, apart.unreached_back, apart.unreached⟩

theorem Apart.not_passes (s : State) (a b : EntityId) (apart : Apart s a b) : ¬ Passes s a b := by
  rintro (reaches | permeable)
  · exact apart.unreached reaches
  · cases apart.right.symm.trans permeable

def Scattered (s : State) (scene : Scene) : Prop :=
  ∀ a b cell, Apart s a b → scene.positions.get? a = some cell → scene.positions.get? b ≠ some cell

def NobodyPasses (s : State) (o : Offset) (pushing : List EntityId) (scene final : Scene) : Prop :=
  ∀ waiting ∈ pushing, ∀ other cell, Apart s waiting other → scene.positions.get? waiting = some cell →
    final.positions.get? other = some (cell.shift o) → scene.positions.get? other = some (cell.shift o)

theorem nobody_passes_trans (s : State) (o : Offset) (pushing : List EntityId) (scene next final : Scene)
    (still : ∀ waiting ∈ pushing, next.positions.get? waiting = scene.positions.get? waiting)
    (first : NobodyPasses s o pushing scene next) (second : NobodyPasses s o pushing next final) :
    NobodyPasses s o pushing scene final := by
  intro waiting member other cell apart stands arrived
  have there := second waiting member other cell apart ((still waiting member).trans stands) arrived
  exact first waiting member other cell apart stands there

theorem nobody_passes_settle (s : State) (o : Offset) (pushing : List EntityId) (scene : Scene) (id : EntityId)
    (origin : Cell) (placed : scene.positions.get? id = some origin) (scattered : Scattered s scene) :
    NobodyPasses s o pushing scene (scene.settle id (origin.shift o)) := by
  intro waiting member other cell apart stands arrived
  rw [get_settle] at arrived
  by_cases same : id = other
  · subst same
    rw [if_pos rfl] at arrived
    have here : origin = cell := Cell.shift_injective origin cell o (Option.some.inj arrived)
    exact absurd (here ▸ placed) (scattered waiting id cell apart stands)
  · rw [if_neg same] at arrived
    exact arrived

theorem chain_clear_count (s : State) (o : Offset) (pushing : List EntityId) (task : Task) (scene final : Scene)
    (chain : Chain s o pushing task scene final) (id occupant : EntityId) (occupants : List EntityId)
    (clearing : task = .clear id occupants) (member : occupant ∈ occupants) (apart : Apart s id occupant) :
    scene.moved.count occupant < final.moved.count occupant := by
  induction chain generalizing occupants with
  | go => cases clearing
  | follow => cases clearing
  | stay => cases clearing
  | drag => cases clearing
  | clear =>
      cases clearing
      cases member
  | pass _ _ head rest _ _ passes _ ih =>
      cases clearing
      rcases List.mem_cons.mp member with same | inside
      · exact absurd (same ▸ passes) apart.not_passes
      · exact ih rest rfl inside
  | push pushing _ head rest scene next final _ _ moves later _ laterIh =>
      cases clearing
      rcases List.mem_cons.mp member with same | inside
      · subst same
        have pushed := chain_go_count s o pushing occupant scene next moves
        exact Nat.lt_of_lt_of_le pushed (chain_count_le s o pushing _ next final later occupant)
      · have before := chain_count_le s o pushing _ scene next moves occupant
        exact Nat.lt_of_le_of_lt before (laterIh rest rfl inside)

theorem cleared_cell (s : State) (d : Direction) (pushing : List EntityId) (id other : EntityId) (origin : Cell)
    (scene cleared : Scene) (tracked : Tracked s d.offset scene) (placed : scene.positions.get? id = some origin)
    (clears : Chain s d.offset (id :: pushing) (.clear id (scene.others (origin.shift d.offset) id)) scene cleared)
    (passed : NobodyPasses s d.offset (id :: pushing) scene cleared) (apart : Apart s id other) :
    cleared.positions.get? other ≠ some (origin.shift d.offset) := by
  intro arrived
  have there := passed id List.mem_cons_self other origin apart placed arrived
  have different : other ≠ id := fun same => apart.separate (same ▸ rfl)
  have listed := (mem_others_iff scene (origin.shift d.offset) id other).mpr ⟨there, different⟩
  have more := chain_clear_count s d.offset _ _ scene cleared clears id other _ rfl listed apart
  have after := chain_tracked s d.offset _ _ scene cleared clears tracked other
  obtain ⟨start, stood, here⟩ := Option.map_eq_some_iff.mp ((tracked other).symm.trans there)
  rw [arrived, stood, ← here] at after
  have equal := Cell.advance_injective start d _ _ (Option.some.inj after)
  omega

theorem scattered_settle (s : State) (scene : Scene) (id : EntityId) (cell : Cell) (scattered : Scattered s scene)
    (empty : ∀ other, Apart s id other → scene.positions.get? other ≠ some cell) :
    Scattered s (scene.settle id cell) := by
  intro a b place apart first second
  rw [get_settle] at first second
  have different : a ≠ b := fun same => apart.separate (same ▸ rfl)
  by_cases atFirst : id = a
  · have notSecond : id ≠ b := fun same => different (atFirst.symm.trans same)
    rw [if_pos atFirst] at first
    rw [if_neg notSecond] at second
    exact empty b (atFirst ▸ apart) (second.trans first.symm)
  · rw [if_neg atFirst] at first
    by_cases atSecond : id = b
    · rw [if_pos atSecond] at second
      exact empty a (atSecond ▸ apart.symm) (first.trans second.symm)
    · rw [if_neg atSecond] at second
      exact scattered a b place apart first second

theorem chain_scattered (s : State) (d : Direction) (pushing : List EntityId) (task : Task) (scene final : Scene)
    (chain : Chain s d.offset pushing task scene final) (tracked : Tracked s d.offset scene)
    (scattered : Scattered s scene) : Scattered s final ∧ NobodyPasses s d.offset pushing scene final := by
  induction chain with
  | clear => exact ⟨scattered, fun _ _ _ _ _ _ arrived => arrived⟩
  | follow => exact ⟨scattered, fun _ _ _ _ _ _ arrived => arrived⟩
  | pass _ _ _ _ _ _ _ _ ih => exact ih tracked scattered
  | stay _ _ _ _ _ _ _ ih => exact ih tracked scattered
  | push pushing _ _ _ scene next final _ _ moves later movesIh laterIh =>
      obtain ⟨middle, first⟩ := movesIh tracked scattered
      obtain ⟨finish, second⟩ := laterIh (chain_tracked s d.offset _ _ _ _ moves tracked) middle
      exact ⟨finish, nobody_passes_trans s d.offset pushing scene next final
        (fun id waiting => (chain_waiting s d.offset _ _ _ _ moves id waiting).1) first second⟩
  | drag pushing _ _ scene next final _ _ _ moves later movesIh laterIh =>
      obtain ⟨middle, first⟩ := movesIh tracked scattered
      obtain ⟨finish, second⟩ := laterIh (chain_tracked s d.offset _ _ _ _ moves tracked) middle
      exact ⟨finish, nobody_passes_trans s d.offset pushing scene next final
        (fun id waiting => (chain_waiting s d.offset _ _ _ _ moves id waiting).1) first second⟩
  | go pushing id origin scene cleared final free placed inside clears follows clearsIh followsIh =>
      obtain ⟨middle, first⟩ := clearsIh tracked scattered
      have waited := fun waiting member => (chain_waiting s d.offset _ _ _ _ clears waiting member).1
      have still := (waited id List.mem_cons_self).trans placed
      have trackedMiddle := chain_tracked s d.offset _ _ _ _ clears tracked
      have settled := scattered_settle s cleared id (origin.shift d.offset) middle
        (fun other => cleared_cell s d pushing id other origin scene cleared tracked placed clears first)
      have trackedSettled := tracked_settle s d.offset cleared id origin trackedMiddle still
      obtain ⟨finish, third⟩ := followsIh trackedSettled settled
      have second := nobody_passes_settle s d.offset pushing cleared id origin still middle
      have firstHere : NobodyPasses s d.offset pushing scene cleared :=
        fun waiting member => first waiting (List.mem_cons_of_mem id member)
      have firstTwo := nobody_passes_trans s d.offset pushing scene cleared _
        (fun waiting member => waited waiting (List.mem_cons_of_mem id member)) firstHere second
      refine ⟨finish, nobody_passes_trans s d.offset pushing scene _ final ?_ firstTwo third⟩
      intro waiting member
      have different : id ≠ waiting := fun same => free (same ▸ member)
      rw [get_settle, if_neg different]
      exact waited waiting (List.mem_cons_of_mem id member)

theorem scattered_start (s : State) : Scattered s ⟨s.positions, []⟩ :=
  fun _ _ _ apart first second => apart.separate (first.trans second.symm)

theorem movement_keeps_apart (s next : State) (id : EntityId) (d : Direction) (a b : EntityId) (aCell bCell : Cell)
    (done : run s id d = .ok (some next)) (aBlocks : s.isBlocking a = .ok true) (bBlocks : s.isBlocking b = .ok true)
    (aStood : s.positions.get? a = some aCell) (bStood : s.positions.get? b = some bCell) (separate : aCell ≠ bCell)
    (unreached : ¬ Reaches s a b) (unreached_back : ¬ Reaches s b a) :
    ∃ aAfter bAfter, next.positions.get? a = some aAfter ∧ next.positions.get? b = some bAfter ∧ aAfter ≠ bAfter := by
  obtain ⟨scene, _, chain, rfl⟩ := run_ok s next id d done
  have apart : Apart s a b :=
    ⟨aBlocks, bBlocks, by rw [aStood, bStood]; simpa using separate, unreached, unreached_back⟩
  have tracked := chain_tracked s d.offset _ _ _ scene chain (tracked_start s d.offset)
  have scattered := (chain_scattered s d _ _ _ scene chain (tracked_start s d.offset) (scattered_start s)).1
  have aAfter := tracked a
  have bAfter := tracked b
  rw [aStood] at aAfter
  rw [bStood] at bAfter
  refine ⟨_, _, aAfter, bAfter, fun same => ?_⟩
  exact scattered a b _ apart aAfter (bAfter.trans (congrArg some same.symm))

theorem pushed_pile_keeps_apart :
    let s := State.ofTiles ⟨5, 1⟩ [⟨1, "obj-tree", ⟨0, 0⟩⟩, ⟨2, "obj-human", ⟨1, 0⟩⟩, ⟨3, "txt-tree", ⟨2, 0⟩⟩,
      ⟨4, "txt-human", ⟨2, 0⟩⟩] ⟨[("tree", [.pull])], []⟩ (some 2)
    ∃ next, run s 2 .right = .ok (some next) ∧
      ∃ aAfter bAfter, next.positions.get? 2 = some aAfter ∧ next.positions.get? 4 = some bAfter ∧ aAfter ≠ bAfter := by
  intro s
  have done : run s 2 .right = .ok (some { s with
      positions := ⟨[(1, ⟨1, 0⟩), (2, ⟨2, 0⟩), (3, ⟨4, 0⟩), (4, ⟨3, 0⟩)], by decide⟩ }) := by rfl
  refine ⟨_, done, movement_keeps_apart s _ 2 .right 2 4 ⟨1, 0⟩ ⟨2, 0⟩ done rfl rfl rfl rfl (by decide) ?_ ?_⟩
  · rintro ⟨_, contact⟩
    exact absurd contact (by decide)
  · rintro ⟨player, _⟩
    exact absurd player (by decide)

end KanjiPuzzle.Movement
