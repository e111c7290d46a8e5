import KanjiPuzzle.Proofs.Nomination
import Mathlib.Data.Fintype.Basic
import Mathlib.Tactic.FinCases

set_option autoImplicit false

/- Who captures a role for a new sentence. To try eight ways of standing to the sentence, each on every candidate before
   the next, is to rank every candidate by the first of the eight that holds of it and to take the best, of equals the
   lowest id. -/
namespace KanjiPuzzle

namespace State

variable (s : State)

def Strayed (id : EntityId) : Prop := ∀ start, s.starts.get? id = some start → s.positions.get? id ≠ some start

def At (place : Option Cell) (id : EntityId) : Prop := ∃ cell, place = some cell ∧ s.positions.get? id = some cell

-- The ways in which an entity can stand to a sentence, the best first: by the cell of its term, of its noun and of its
-- connector, which are the last, the first and the second of its cells, by any of them, and by whether it has moved.
def Meets (r : Rule) (id : EntityId) : Fin 8 → Prop
  | 0 => s.At r.cells.getLast? id ∧ s.Strayed id
  | 1 => s.At r.cells.getLast? id
  | 2 => s.At r.cells[0]? id ∧ s.Strayed id
  | 3 => s.At r.cells[0]? id
  | 4 => s.At r.cells[1]? id ∧ s.Strayed id
  | 5 => s.Treads r id ∧ s.Strayed id
  | 6 => s.Strayed id
  | 7 => True

structure Contends (r : Rule) (excluded : Option EntityId) (id : EntityId) : Prop where
  stands : s.StandsFor r.subject id
  other : some id ≠ excluded

def bids (r : Rule) (excluded : Option EntityId) : Set (Fin 8 ×ₗ EntityId) :=
  { bid | ∃ rank id, s.Contends r excluded id ∧ IsLeast { k | s.Meets r id k } rank ∧ bid = toLex (rank, id) }

theorem moved_iff (id : EntityId) : s.moved id = true ↔ s.Strayed id := by
  rw [moved, Strayed]
  cases s.starts.get? id with
  | none => simp
  | some start => simp

theorem at_iff (id : EntityId) (place cell : Cell) (stands : s.positions.get? id = some cell) :
    s.At (some place) id ↔ cell = place := by
  simp [At, stands, eq_comm]

end State

namespace Roles

variable (s : State)

def Passes (id : EntityId) : List (Cell → Bool → Bool) → Nat → Prop
  | [], k => k = 0
  | rung :: _, 0 => onRung s rung id = .ok true
  | _ :: rest, k + 1 => Passes id rest k

theorem passes_bounded (id : EntityId) (rungs : List (Cell → Bool → Bool)) (k : Nat) (passes : Passes s id rungs k) :
    k ≤ rungs.length := by
  induction rungs generalizing k with
  | nil => exact Nat.le_of_eq passes
  | cons rung rest ih =>
      cases k with
      | zero => exact Nat.zero_le _
      | succ k => exact Nat.succ_le_succ (ih k passes)

theorem climb_ok (candidates : List EntityId) (rungs : List (Cell → Bool → Bool)) (id : EntityId)
    (climbed : climb s candidates rungs = .ok (some id)) : id ∈ candidates := by
  induction rungs with
  | nil => exact List.mem_of_head? (Except.ok.inj climbed)
  | cons rung rest ih =>
      obtain ⟨found, tested, climbed⟩ := Attempt.bind_ok _ _ _ climbed
      cases found with
      | none => exact ih climbed
      | some other =>
          cases climbed
          exact (Attempt.first_ok _ _ _ tested).1

-- To try every rung on all candidates is to try every candidate on all rungs.
theorem climb_least (candidates : List EntityId) (ascending : candidates.Pairwise (· < ·))
    (rungs : List (Cell → Bool → Bool)) (found : Option EntityId) (climbed : climb s candidates rungs = .ok found) :
    (found = none → candidates = []) ∧
      ∀ id, found = some id → ∃ k, Passes s id rungs k ∧
        ∀ other ∈ candidates, ∀ j, Passes s other rungs j → toLex (k, id) ≤ toLex (j, other) := by
  induction rungs with
  | nil =>
      cases climbed
      refine ⟨List.head?_eq_none_iff.mp, fun id first => ⟨0, rfl, fun other member j below => ?_⟩⟩
      cases below
      obtain ⟨rest, rfl⟩ := List.head?_eq_some_iff.mp first
      refine Prod.Lex.toLex_le_toLex.mpr (.inr ⟨rfl, ?_⟩)
      rcases List.mem_cons.mp member with rfl | later
      · exact le_refl _
      · exact le_of_lt ((List.pairwise_cons.mp ascending).1 other later)
  | cons rung rest ih =>
      obtain ⟨sought, tested, climbed⟩ := Attempt.bind_ok _ _ _ climbed
      have first := Attempt.first_passes (· < ·) (onRung s rung) candidates ascending sought tested
      cases sought with
      | none =>
          -- Nobody passes here, so that everybody's number is one more than on the rungs that are left.
          obtain ⟨nobody, best⟩ := ih climbed
          refine ⟨nobody, fun id chosen => ?_⟩
          obtain ⟨k, passes, lowest⟩ := best id chosen
          refine ⟨k + 1, passes, fun other member j passed => ?_⟩
          cases j with
          | zero =>
              obtain ⟨_, missing, _⟩ := first other member passed
              cases missing
          | succ j => exact (weighed_le_iff Nat.succ (fun _ _ => Nat.succ_lt_succ) k j id other).mpr (lowest other member j passed)
      | some id =>
          cases climbed
          refine ⟨nofun, fun _ same => ?_⟩
          cases same
          refine ⟨0, (Attempt.first_ok _ _ _ tested).2, fun other member j passed => ?_⟩
          rw [Prod.Lex.toLex_le_toLex]
          cases j with
          | zero =>
              obtain ⟨_, same, order⟩ := first other member passed
              cases same
              exact .inr ⟨rfl, le_of_eq_or_lt order⟩
          | succ j => exact .inl (Nat.succ_pos j)

theorem mem_bids_iff (r : Rule) (excluded : Option EntityId) (rank : Fin 8) (id : EntityId) :
    toLex (rank, id) ∈ s.bids r excluded ↔ s.Contends r excluded id ∧ IsLeast { k | s.Meets r id k } rank := by
  constructor
  · intro listed
    obtain ⟨own, other, contends, least, same⟩ := listed
    cases same
    exact ⟨contends, least⟩
  · intro bid
    exact ⟨rank, id, bid.1, bid.2, rfl⟩

theorem contender_placed (placed : ∀ id, s.positions.contains id = s.definitions.contains id) (r : Rule)
    (excluded : Option EntityId) (id : EntityId) (contends : s.Contends r excluded id) :
    ∃ cell, s.positions.get? id = some cell := by
  obtain ⟨d, defined, _⟩ := contends.stands
  exact Option.isSome_iff_exists.mp ((placed id).trans (s.definition_alive id d defined))

section Ladder

variable (r : Rule) (noun connector : Cell) (rest : List Cell) (cells : r.cells = noun :: connector :: rest)
include cells

theorem passes_ladder_iff (id : EntityId) (cell : Cell) (stands : s.positions.get? id = some cell) (rank : Fin 8) :
    Passes s id (ladder noun connector ((connector :: rest).getLast (by simp)) r.cells) rank ↔ s.Meets r id rank := by
  have place : s.cellOf id = .ok cell := by rw [State.cellOf, stands]
  have rung (rung : Cell → Bool → Bool) : onRung s rung id = .ok true ↔ rung cell (s.moved id) = true := by
    rw [onRung, place, Attempt.ok_bind, Except.ok.injEq]
  have last : r.cells.getLast? = some ((connector :: rest).getLast (by simp)) := by
    rw [cells, List.getLast?_cons_cons, List.getLast?_eq_some_getLast]
  have start : r.cells[0]? = some noun := by rw [cells]; rfl
  have second : r.cells[1]? = some connector := by rw [cells]; rfl
  have on (place : Cell) := s.at_iff id place cell stands
  have treads := s.treads_iff r id cell stands
  simp only [State.Meets, ladder, last, start, second, on, treads]
  fin_cases rank <;> simp [Passes, rung, s.moved_iff]

theorem rank_of_passes (id : EntityId) (cell : Cell) (stands : s.positions.get? id = some cell) (k : Nat)
    (passes : Passes s id (ladder noun connector ((connector :: rest).getLast (by simp)) r.cells) k)
    (first : ∀ j, Passes s id (ladder noun connector ((connector :: rest).getLast (by simp)) r.cells) j → k ≤ j) :
    ∃ rank : Fin 8, rank.val = k ∧ IsLeast { k | s.Meets r id k } rank := by
  have bounded : k < 8 := Nat.lt_succ_of_le (passes_bounded s id _ k passes)
  have meets := passes_ladder_iff s r noun connector rest cells id cell stands
  exact ⟨⟨k, bounded⟩, rfl, (meets ⟨k, bounded⟩).mp passes, fun rank met => first rank ((meets rank).mpr met)⟩

theorem climb_best (placed : ∀ id, s.positions.contains id = s.definitions.contains id) (excluded : Option EntityId)
    (candidates : List EntityId) (ascending : candidates.Pairwise (· < ·))
    (contends : ∀ id, id ∈ candidates ↔ s.Contends r excluded id) (id : EntityId)
    (climbed : climb s candidates (ladder noun connector ((connector :: rest).getLast (by simp)) r.cells) =
      .ok (some id)) : ∃ rank, IsLeast (s.bids r excluded) (toLex (rank, id)) := by
  obtain ⟨k, passes, lowest⟩ := (climb_least s candidates ascending _ _ climbed).2 id rfl
  have member := climb_ok s candidates _ id climbed
  have contender := (contends id).mp member
  obtain ⟨cell, stands⟩ := contender_placed s placed r excluded id contender
  obtain ⟨rank, same, least⟩ := rank_of_passes s r noun connector rest cells id cell stands k passes
    fun j passed => Prod.Lex.monotone_fst _ _ (lowest id member j passed)
  refine ⟨rank, (mem_bids_iff s r excluded rank id).mpr ⟨contender, least⟩, fun bid listed => ?_⟩
  obtain ⟨own, other, rival, first, rfl⟩ := listed
  obtain ⟨place, there⟩ := contender_placed s placed r excluded other rival
  have passed := (passes_ladder_iff s r noun connector rest cells other place there own).mpr first.1
  have below := lowest other ((contends other).mpr rival) own passed
  rw [← same] at below
  exact (weighed_le_iff Fin.val Fin.val_strictMono rank own id other).mp below

end Ladder

theorem captor_cases (r : Rule) (excluded found : Option EntityId) (caught : captor s r excluded = .ok found) :
    ∃ candidates, candidates.Pairwise (· < ·) ∧ (∀ id, id ∈ candidates ↔ s.Contends r excluded id) ∧
      ((candidates = [] ∧ found = none) ∨ ∃ noun connector rest, r.cells = noun :: connector :: rest ∧
        climb s candidates (ladder noun connector ((connector :: rest).getLast (by simp)) r.cells) = .ok found) := by
  obtain ⟨carriers, listed, caught⟩ := Attempt.bind_ok _ _ _ caught
  refine ⟨carriers.filter (some · != excluded), ?_, fun id => ?_, ?_⟩
  · exact (s.definitions.ids_ascending.sublist (Attempt.select_sublist _ _ _ listed)).filter _
  · rw [List.mem_filter, mem_carriers_iff s r.subject carriers listed id, bne_iff_ne]
    exact ⟨fun both => ⟨both.1, both.2⟩, fun contends => ⟨contends.stands, contends.other⟩⟩
  · split at caught
    case h_1 nobody => exact .inl ⟨nobody, (Except.ok.inj caught).symm⟩
    case h_2 =>
      split at caught
      case h_1 noun connector rest cells => exact .inr ⟨noun, connector, rest, cells, caught⟩
      case h_2 => cases caught

theorem captor_ok (r : Rule) (excluded : Option EntityId) (id : EntityId)
    (caught : captor s r excluded = .ok (some id)) : s.Contends r excluded id := by
  obtain ⟨candidates, _, contends, ⟨_, missing⟩ | climbs⟩ := captor_cases s r excluded _ caught
  · cases missing
  · obtain ⟨noun, connector, rest, _, climbed⟩ := climbs
    exact (contends id).mp (climb_ok s candidates _ id climbed)

theorem captor_none (r : Rule) (excluded : Option EntityId) (uncaught : captor s r excluded = .ok none)
    (id : EntityId) : ¬ s.Contends r excluded id := by
  intro contender
  obtain ⟨candidates, ascending, contends, ⟨nobody, _⟩ | climbs⟩ := captor_cases s r excluded _ uncaught
  · exact List.not_mem_nil (nobody ▸ (contends id).mpr contender)
  · obtain ⟨noun, connector, rest, _, climbed⟩ := climbs
    have nobody := (climb_least s candidates ascending _ _ climbed).1 rfl
    exact List.not_mem_nil (nobody ▸ (contends id).mpr contender)

theorem captor_best (placed : ∀ id, s.positions.contains id = s.definitions.contains id) (r : Rule)
    (excluded : Option EntityId) (id : EntityId) (caught : captor s r excluded = .ok (some id)) :
    ∃ rank, IsLeast (s.bids r excluded) (toLex (rank, id)) := by
  obtain ⟨candidates, ascending, contends, ⟨_, missing⟩ | climbs⟩ := captor_cases s r excluded _ caught
  · cases missing
  · obtain ⟨noun, connector, rest, cells, climbed⟩ := climbs
    exact climb_best s r noun connector rest cells placed excluded candidates ascending contends id climbed

theorem captor_ranked (placed : ∀ id, s.positions.contains id = s.definitions.contains id)
    (known : ∀ id definition, s.definitions.get? id = some definition → s.catalog.contains definition = true)
    (r : Rule) (enough : 2 ≤ r.cells.length) (excluded : Option EntityId) :
    ∃ found, captor s r excluded = .ok found ∧
      (found = none ↔ ∀ id, ¬ s.Contends r excluded id) ∧
      ∀ id, found = some id ↔ ∃ rank, IsLeast (s.bids r excluded) (toLex (rank, id)) := by
  have grounded : s.Grounded := ⟨placed, known, fun _ member => nomatch member⟩
  obtain ⟨found, caught, _⟩ := captor_answers s grounded r excluded enough
  have nobody (unfound : found = none) := captor_none s r excluded (unfound ▸ caught)
  have best (id : EntityId) (chosen : found = some id) := captor_best s placed r excluded id (chosen ▸ caught)
  refine ⟨found, caught, ⟨nobody, fun alone => ?_⟩, found_iff_least (s.bids r excluded) found (fun unfound => ?_) best⟩
  · cases chosen : found with
    | none => rfl
    | some id => exact absurd (captor_ok s r excluded id (chosen ▸ caught)) (alone id)
  · refine Set.eq_empty_of_forall_notMem fun bid listed => ?_
    obtain ⟨_, id, contender, _⟩ := listed
    exact nobody unfound id contender

def porchTiles : List Tile :=
  [⟨1, "obj-human", ⟨2, 0⟩⟩, ⟨2, "obj-human", ⟨1, 0⟩⟩, ⟨3, "obj-human", ⟨0, 0⟩⟩, ⟨4, "txt-human", ⟨0, 0⟩⟩]

def porch : State :=
  { State.ofTiles ⟨3, 2⟩ porchTiles .none none with
    starts := .ofList [(1, ⟨2, 0⟩), (2, ⟨1, 1⟩), (3, ⟨0, 0⟩), (4, ⟨0, 0⟩)]
    goal := some 1 }

def porchRule : Rule := ⟨"human", .property .you, .horizontal, [⟨0, 0⟩, ⟨1, 0⟩, ⟨2, 0⟩]⟩

theorem porch_captured :
    (∀ id, porch.positions.contains id = porch.definitions.contains id) ∧
      (∀ id definition, porch.definitions.get? id = some definition → porch.catalog.contains definition = true) ∧
      2 ≤ porchRule.cells.length ∧ captor porch porchRule porch.goal = .ok (some 3) ∧
      ∃ rank, IsLeast (porch.bids porchRule porch.goal) (toLex (rank, 3)) := by
  have placed := State.of_tiles_placed ⟨3, 2⟩ porchTiles .none none
  have known := State.of_tiles_known ⟨3, 2⟩ porchTiles .none none (by decide)
  have enough : 2 ≤ porchRule.cells.length := Nat.le_succ 2
  obtain ⟨found, caught, _, least⟩ := captor_ranked porch placed known porchRule enough porch.goal
  have chosen : some 3 = found := Except.ok.inj caught
  subst chosen
  exact ⟨placed, known, enough, caught, (least 3).mp rfl⟩

end Roles

end KanjiPuzzle
