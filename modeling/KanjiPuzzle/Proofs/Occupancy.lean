import KanjiPuzzle.Proofs.Gathering
import KanjiPuzzle.Proofs.Restored

set_option autoImplicit false

/- The board cell by cell. Every cell that holds an entity is listed once, with all that stand in it in ascending order;
   and in whatever order the entities are entered in an index of the cells, it gives the same of each. -/
namespace KanjiPuzzle.State

def Lowest (s : State) (cell : Cell) (id : EntityId) : Prop :=
  s.positions.get? id = some cell ∧ ∀ other, s.positions.get? other = some cell → id ≤ other

structure Indexed (s : State) (cells : List (Cell × List EntityId)) : Prop where
  inside : ∀ entry ∈ cells, s.onBoard entry.1 = true ∧ entry.2 = s.entitiesAt entry.1
  complete : ∀ id cell, s.positions.get? id = some cell → s.onBoard cell = true → (cell, s.entitiesAt cell) ∈ cells
  order : cells.Pairwise fun first later => ∃ a b, s.Lowest first.1 a ∧ s.Lowest later.1 b ∧ a < b

theorem entities_at_ascending (s : State) (cell : Cell) : (s.entitiesAt cell).Pairwise (· < ·) :=
  List.pairwise_map.mpr (s.positions.ascending.filter _)

theorem lowest_of_head (s : State) (cell : Cell) (id : EntityId) (first : (s.entitiesAt cell).head? = some id) :
    s.Lowest cell id := by
  refine ⟨(s.mem_entities_at_iff cell id).mp (List.mem_of_mem_head? first), fun other here => ?_⟩
  have member := (s.mem_entities_at_iff cell other).mpr here
  have ascending := s.entities_at_ascending cell
  cases listed : s.entitiesAt cell with
  | nil =>
      rw [listed] at member
      cases member
  | cons head rest =>
      rw [listed] at first member ascending
      cases first
      rcases List.mem_cons.mp member with rfl | later
      · exact Int.le_refl other
      · exact Int.le_of_lt ((List.pairwise_cons.mp ascending).1 other later)

theorem add_occupant_enlists (cell : Cell) (id : EntityId) (cells : List (Cell × List EntityId)) :
    addOccupant cell id cells = Gathering.enlist cell id cells := by
  induction cells with
  | nil => rfl
  | cons entry rest ih => rw [addOccupant, Gathering.enlist, ih]

theorem placed_entries (s : State) (placed : ∀ id, s.positions.contains id = s.definitions.contains id) :
    Attempt.each (fun id => do .ok (id, ← s.cellOf id)) s.definitions.ids = .ok s.positions.entries := by
  rw [s.ids_alike placed, EntityMap.ids, Attempt.each_map,
    Attempt.each_total _ id s.positions.entries, List.map_id]
  intro entry member
  have stands := (s.positions.mem_entries_iff entry.1 entry.2).mp member
  rw [cellOf, stands]
  rfl

def standing (s : State) : List (Cell × EntityId) :=
  (s.positions.entries.filter fun entry => s.onBoard entry.2).map Prod.swap

theorem mem_standing_iff (s : State) (cell : Cell) (id : EntityId) :
    (cell, id) ∈ s.standing ↔ s.positions.get? id = some cell ∧ s.onBoard cell = true := by
  rw [standing, List.mem_map, ← EntityMap.mem_entries_iff]
  constructor
  · rintro ⟨⟨other, place⟩, member, same⟩
    cases same
    exact List.mem_filter.mp member
  · exact fun stands => ⟨(id, cell), List.mem_filter.mpr stands, rfl⟩

theorem standing_share (s : State) (cell : Cell) (inside : s.onBoard cell = true) :
    Gathering.share cell s.standing = s.entitiesAt cell := by
  rw [Gathering.share, standing, List.filter_map, List.map_map, List.filter_filter, entitiesAt]
  refine congrArg _ (List.filter_congr fun entry _ => ?_)
  by_cases here : entry.2 = cell <;> simp [here, inside]

theorem occupied_gathered (s : State) (placed : ∀ id, s.positions.contains id = s.definitions.contains id) :
    s.occupiedCells = .ok (Gathering.gather s.standing) := by
  rw [occupiedCells, s.placed_entries placed, Attempt.ok_bind, Gathering.gather, standing, List.foldl_map]
  simp only [add_occupant_enlists]
  rfl

theorem standing_rising (s : State) : s.standing.Pairwise fun first later => first.2 < later.2 :=
  List.pairwise_map.mpr (s.positions.ascending.filter _)

theorem mem_keys_iff (s : State) (cell : Cell) :
    cell ∈ s.standing.map Prod.fst ↔ s.onBoard cell = true ∧ ∃ id, s.positions.get? id = some cell := by
  rw [List.mem_map]
  constructor
  · intro listed
    obtain ⟨⟨place, id⟩, member, same⟩ := listed
    obtain ⟨stands, inside⟩ := (s.mem_standing_iff place id).mp member
    exact same ▸ ⟨inside, id, stands⟩
  · intro held
    obtain ⟨inside, id, stands⟩ := held
    exact ⟨(cell, id), (s.mem_standing_iff cell id).mpr ⟨stands, inside⟩, rfl⟩

theorem mem_ashore_iff (s : State) (id : EntityId) :
    id ∈ s.standing.map Prod.snd ↔ ∃ cell, s.positions.get? id = some cell ∧ s.onBoard cell = true := by
  rw [List.mem_map]
  constructor
  · intro listed
    obtain ⟨⟨cell, other⟩, member, same⟩ := listed
    exact ⟨cell, same ▸ (s.mem_standing_iff cell other).mp member⟩
  · intro ashore
    obtain ⟨cell, stands⟩ := ashore
    exact ⟨(cell, id), (s.mem_standing_iff cell id).mpr stands, rfl⟩

section Gathered

variable (s : State) (cells : List (Cell × List EntityId)) (gathers : Gathering.Gathers (· < ·) s.standing cells)
include gathers

theorem gathered_held (cell : Cell) :
    cell ∈ cells.map Prod.fst ↔ s.onBoard cell = true ∧ ∃ id, s.positions.get? id = some cell :=
  (gathers.keys cell).trans (s.mem_keys_iff cell)

theorem gathered_share (entry : Cell × List EntityId) (member : entry ∈ cells) :
    s.onBoard entry.1 = true ∧ entry.2 = s.entitiesAt entry.1 := by
  have inside := ((s.gathered_held cells gathers entry.1).mp (List.mem_map.mpr ⟨entry, member, rfl⟩)).1
  exact ⟨inside, (gathers.shares entry member).trans (s.standing_share entry.1 inside)⟩

theorem gathered_entry (id : EntityId) (cell : Cell) (stands : s.positions.get? id = some cell)
    (inside : s.onBoard cell = true) : (cell, s.entitiesAt cell) ∈ cells := by
  obtain ⟨entry, member, rfl⟩ := List.mem_map.mp ((s.gathered_held cells gathers cell).mpr ⟨inside, id, stands⟩)
  exact (s.gathered_share cells gathers entry member).2 ▸ member

theorem gathered_once (id : EntityId) (cell : Cell) (stands : s.positions.get? id = some cell)
    (inside : s.onBoard cell = true) : ∃! entry, entry ∈ cells ∧ id ∈ entry.2 := by
  have here := (s.mem_entities_at_iff cell id).mpr stands
  refine ⟨(cell, s.entitiesAt cell), ⟨s.gathered_entry cells gathers id cell stands inside, here⟩, ?_⟩
  intro entry found
  have share := (s.gathered_share cells gathers entry found.1).2
  have there := (s.mem_entities_at_iff entry.1 id).mp (share ▸ found.2)
  have same : entry.1 = cell := Option.some.inj (there.symm.trans stands)
  exact Prod.ext same (share.trans (congrArg s.entitiesAt same))

end Gathered

theorem occupied_indexed (s : State) (placed : ∀ id, s.positions.contains id = s.definitions.contains id) :
    ∃ cells, s.occupiedCells = .ok cells ∧ s.Indexed cells := by
  have gathers := Gathering.gather_gathers (· < ·) s.standing s.standing_rising
  have share := s.gathered_share _ gathers
  refine ⟨_, s.occupied_gathered placed, share, s.gathered_entry _ gathers, ?_⟩
  refine gathers.order.imp_of_mem fun {first later} member other order => ?_
  obtain ⟨a, b, sooner, next, less⟩ := order
  rw [(share first member).2] at sooner
  rw [(share later other).2] at next
  exact ⟨a, b, s.lowest_of_head first.1 a sooner, s.lowest_of_head later.1 b next, less⟩

-- The index of the cells, with the entities taken in any order and those of each cell sorted at the end.
def indexAlong (walk : List (EntityId × Cell)) : List (Cell × List EntityId) :=
  (walk.foldl (fun cells entry => addOccupant entry.2 entry.1 cells) []).map fun entry =>
    (entry.1, entry.2.mergeSort fun a b => decide (a ≤ b))

def lookUp (index : List (Cell × List EntityId)) (cell : Cell) : List EntityId :=
  ((index.find? fun entry => decide (entry.1 = cell)).map Prod.snd).getD []

theorem merge_sort_eq {α : Type} (le : α → α → Bool) (trans : ∀ a b c, le a b = true → le b c = true → le a c = true)
    (total : ∀ a b, (le a b || le b a) = true) (walk target : List α) (same : walk.Perm target)
    (strict : target.Pairwise fun a b => le b a = false) : walk.mergeSort le = target := by
  have rising : target.Pairwise fun a b => le a b = true := strict.imp fun {a b} apart => by
    have either := total a b
    rwa [apart, Bool.or_false] at either
  have listed := (List.mergeSort_perm walk le).trans same
  refine List.Perm.eq_of_pairwise (fun a b first second above below => ?_) (List.pairwise_mergeSort trans total walk)
    rising listed
  obtain ⟨i, inside, rfl⟩ := List.getElem_of_mem (listed.subset first)
  obtain ⟨j, within, rfl⟩ := List.getElem_of_mem second
  have apart := List.pairwise_iff_getElem.mp strict
  rcases Nat.lt_trichotomy i j with sooner | same | later
  · cases (apart i j inside within sooner).symm.trans below
  · simp only [same]
  · cases (apart j i within inside later).symm.trans above

theorem share_sorted (s : State) (walk : List (EntityId × Cell)) (same : walk.Perm s.positions.entries) (cell : Cell) :
    ((Gathering.share cell (walk.map Prod.swap)).mergeSort fun a b => decide (a ≤ b)) = s.entitiesAt cell := by
  refine merge_sort_eq _ (fun a b c => ?_) (fun a b => ?_) _ _ ?_ ?_
  · simp only [decide_eq_true_eq]
    exact Int.le_trans
  · simp only [Bool.or_eq_true, decide_eq_true_eq]
    exact Int.le_total a b
  · rw [Gathering.share, List.filter_map, List.map_map]
    exact (same.filter _).map _
  · exact (s.entities_at_ascending cell).imp fun above => decide_eq_false (Int.not_le.mpr above)

theorem index_looked_up (s : State) (walk : List (EntityId × Cell)) (same : walk.Perm s.positions.entries)
    (cell : Cell) : lookUp (indexAlong walk) cell = s.entitiesAt cell := by
  have gathers := Gathering.gather_gathers (fun _ _ => True) (walk.map Prod.swap)
    (List.pairwise_of_forall fun _ _ => trivial)
  have indexed : indexAlong walk = (Gathering.gather (walk.map Prod.swap)).map fun entry =>
      (entry.1, entry.2.mergeSort fun a b => decide (a ≤ b)) := by
    rw [indexAlong, Gathering.gather, List.foldl_map]
    simp only [add_occupant_enlists]
    rfl
  rw [lookUp, indexed, List.find?_map, Option.map_map, ← s.share_sorted walk same cell]
  change (((Gathering.gather (walk.map Prod.swap)).find? fun entry => decide (entry.1 = cell)).map _).getD [] = _
  cases found : (Gathering.gather (walk.map Prod.swap)).find? fun entry => decide (entry.1 = cell) with
  | some group =>
      have here : group.1 = cell := by simpa using List.find?_some found
      rw [← here, ← gathers.shares group (List.mem_of_find?_eq_some found)]
      rfl
  | none =>
      rw [Gathering.share_absent cell _ fun known => ?_, List.mergeSort_nil]
      · rfl
      · obtain ⟨group, grouped, key⟩ := List.mem_map.mp ((gathers.keys cell).mpr known)
        exact List.find?_eq_none.mp found group grouped (decide_eq_true key)

-- All that stands on the board, parted by the cells; what is in no cell of the board is left out.
structure Partitions (s : State) (cells : List (Cell × List EntityId)) : Prop where
  held : ∀ cell, cell ∈ cells.map Prod.fst ↔ s.onBoard cell = true ∧ ∃ id, s.positions.get? id = some cell
  distinct : (cells.map Prod.fst).Nodup
  shares : ∀ entry ∈ cells, entry.2 = s.entitiesAt entry.1 ∧ entry.2.Pairwise (· < ·)
  once : ∀ id cell, s.positions.get? id = some cell → s.onBoard cell = true →
    (∃! entry, entry ∈ cells ∧ id ∈ entry.2) ∧ (cells.flatMap Prod.snd).count id = 1
  ashore : ∀ id ∈ cells.flatMap Prod.snd, ∃ cell, s.positions.get? id = some cell ∧ s.onBoard cell = true
  rising : cells.Pairwise fun first later => ∃ a b, first.2.head? = some a ∧ later.2.head? = some b ∧ a < b

theorem indexes_agree (s : State) (placed : ∀ id, s.positions.contains id = s.definitions.contains id) :
    (∃ cells, s.occupiedCells = .ok cells ∧ s.Partitions cells) ∧
      ∀ walk, walk.Perm s.positions.entries → ∀ cell, lookUp (indexAlong walk) cell = s.entitiesAt cell := by
  have gathers := Gathering.gather_gathers (· < ·) s.standing s.standing_rising
  have whole := Gathering.gather_perm s.standing
  have apart : (s.standing.map Prod.snd).Nodup := List.pairwise_map.mpr (s.standing_rising.imp Int.ne_of_lt)
  refine ⟨⟨_, s.occupied_gathered placed, ?_⟩, s.index_looked_up⟩
  constructor
  case held => exact s.gathered_held _ gathers
  case distinct => exact gathers.distinct
  case shares =>
    intro entry member
    have share := (s.gathered_share _ gathers entry member).2
    exact ⟨share, share ▸ s.entities_at_ascending entry.1⟩
  case once =>
    intro id cell stands inside
    have listed := (s.mem_ashore_iff id).mpr ⟨cell, stands, inside⟩
    exact ⟨s.gathered_once _ gathers id cell stands inside, (whole.count_eq id).trans (apart.count.trans (if_pos listed))⟩
  case ashore =>
    intro id member
    exact (s.mem_ashore_iff id).mp (whole.mem_iff.mp member)
  case rising => exact gathers.order

def quayTiles : List Tile :=
  [⟨3, "obj-rock", ⟨0, 0⟩⟩, ⟨1, "obj-tree", ⟨1, 1⟩⟩, ⟨4, "obj-human", ⟨1, 1⟩⟩, ⟨2, "obj-rock", ⟨2, 0⟩⟩,
    ⟨5, "txt-tree", ⟨0, 0⟩⟩, ⟨6, "obj-fire", ⟨1, 0⟩⟩]

def quay : State := .ofTiles ⟨2, 2⟩ quayTiles .none none

theorem quay_listed :
    (∀ id, quay.positions.contains id = quay.definitions.contains id) ∧
      ∃ cells, quay.occupiedCells = .ok cells ∧ quay.Partitions cells ∧
        cells = [(⟨1, 1⟩, [1, 4]), (⟨0, 0⟩, [3, 5]), (⟨1, 0⟩, [6])] ∧
        lookUp (indexAlong quay.positions.entries.reverse) ⟨1, 1⟩ = [1, 4] := by
  have placed := of_tiles_placed ⟨2, 2⟩ quayTiles .none none
  obtain ⟨⟨cells, listed, partitions⟩, looked⟩ := indexes_agree quay placed
  have backwards := looked _ quay.positions.entries.reverse_perm ⟨1, 1⟩
  exact ⟨placed, cells, listed, partitions, Except.ok.inj listed.symm, backwards⟩

end KanjiPuzzle.State
