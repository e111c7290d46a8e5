import KanjiPuzzle.Proofs.Chain

set_option autoImplicit false

/- The cells of one line, ahead of an entity and behind it, and the two runs that matter to a movement along the line:
   what can be pushed ahead, and what pulls behind. -/
namespace KanjiPuzzle

namespace Cell

def ahead (c : Cell) (d : Direction) (steps : Int) : Cell := ⟨c.x + d.offset.dx * steps, c.y + d.offset.dy * steps⟩

theorem ahead_zero (c : Cell) (d : Direction) : c.ahead d 0 = c := by
  simp [ahead]

theorem ahead_shift (c : Cell) (d : Direction) (steps : Int) :
    (c.ahead d steps).shift d.offset = c.ahead d (steps + 1) := by
  simp only [ahead, shift, Cell.mk.injEq, Int.mul_add, Int.mul_one]
  omega

theorem ahead_back (c : Cell) (d : Direction) (steps : Int) :
    (c.ahead d steps).back d.offset = c.ahead d (steps - 1) := by
  simp only [ahead, back, Cell.mk.injEq, Int.mul_sub, Int.mul_one]
  omega

theorem ahead_injective (c : Cell) (d : Direction) (i j : Int) (same : c.ahead d i = c.ahead d j) : i = j := by
  cases d <;> simp only [ahead, Direction.offset, Cell.mk.injEq] at same <;> omega

theorem ahead_distance (c : Cell) (d : Direction) (steps : Int) : (c.ahead d steps).distance c = steps.natAbs := by
  cases d <;> simp only [ahead, Direction.offset, distance] <;> omega

end Cell

namespace State

def Unstacked (s : State) : Prop :=
  ∀ a b cell, s.positions.get? a = some cell → s.positions.get? b = some cell → a = b

def HoldsAt (s : State) (test : EntityId → Attempt Bool) (cell : Cell) : Prop :=
  ∃ id, s.positions.get? id = some cell ∧ test id = .ok true

theorem unstacked_iff (s : State) :
    s.Unstacked ↔ ∀ a ∈ s.positions.entries, ∀ b ∈ s.positions.entries, a.2 = b.2 → a.1 = b.1 := by
  constructor
  · intro unstacked a here b there same
    have second := (s.positions.mem_entries_iff b.1 b.2).mp there
    rw [← same] at second
    exact unstacked a.1 b.1 a.2 ((s.positions.mem_entries_iff a.1 a.2).mp here) second
  · intro apart a b cell here there
    exact apart (a, cell) ((s.positions.mem_entries_iff a cell).mpr here) (b, cell)
      ((s.positions.mem_entries_iff b cell).mpr there) rfl

theorem holds_at_iff (s : State) (test : EntityId → Attempt Bool) (cell : Cell) :
    s.HoldsAt test cell ↔ ∃ entry ∈ s.positions.entries, entry.2 = cell ∧ test entry.1 = .ok true := by
  constructor
  · rintro ⟨id, here, passes⟩
    exact ⟨(id, cell), (s.positions.mem_entries_iff id cell).mpr here, rfl, passes⟩
  · rintro ⟨⟨id, place⟩, member, rfl, passes⟩
    exact ⟨id, (s.positions.mem_entries_iff id place).mp member, passes⟩

instance decidableUnstacked (s : State) : Decidable s.Unstacked := decidable_of_iff _ s.unstacked_iff.symm

instance decidableHoldsAt (s : State) (test : EntityId → Attempt Bool) (cell : Cell) :
    Decidable (s.HoldsAt test cell) := decidable_of_iff _ (s.holds_at_iff test cell).symm

theorem on_board_between (s : State) (c : Cell) (d : Direction) (i j k : Int) (low : i ≤ j) (high : j ≤ k)
    (first : s.onBoard (c.ahead d i) = true) (last : s.onBoard (c.ahead d k) = true) :
    s.onBoard (c.ahead d j) = true := by
  rw [onBoard, Extent.contains_iff] at first last ⊢
  cases d <;> simp only [Cell.ahead, Direction.offset] at first last ⊢ <;> omega

theorem on_board_reach (s : State) (c : Cell) (d : Direction) (i j : Int) (first : s.onBoard (c.ahead d i) = true)
    (last : s.onBoard (c.ahead d j) = true) : j - i < s.extent.width.toNat + s.extent.height.toNat := by
  rw [onBoard, Extent.contains_iff] at first last
  cases d <;> simp only [Cell.ahead, Direction.offset] at first last <;> omega

theorem far_empty (s : State) (c : Cell) (d : Direction) :
    ∃ bound : Nat, ∀ steps : Int, bound < steps.natAbs → ∀ id, s.positions.get? id ≠ some (c.ahead d steps) := by
  have listed : ∀ entries : List (EntityId × Cell), ∃ bound : Nat, ∀ entry ∈ entries, entry.2.distance c ≤ bound := by
    intro entries
    induction entries with
    | nil => exact ⟨0, fun entry member => nomatch member⟩
    | cons head rest ih =>
        obtain ⟨bound, near⟩ := ih
        apply Exists.intro (head.2.distance c + bound)
        intro entry member
        rcases List.mem_cons.mp member with rfl | later
        · omega
        · exact Nat.le_trans (near entry later) (Nat.le_add_left _ _)
  obtain ⟨bound, near⟩ := listed s.positions.entries
  apply Exists.intro bound
  intro steps far id stands
  have close := near (id, c.ahead d steps) ((s.positions.mem_entries_iff id _).mpr stands)
  rw [Cell.ahead_distance] at close
  omega

end State

theorem longest_run_exists (holds : Nat → Prop) (ends : ∃ n, ¬ holds (n + 1)) :
    ∃ n, (∀ i < n, holds (i + 1)) ∧ ¬ holds (n + 1) := by
  apply Classical.byContradiction
  intro none
  have all : ∀ n, ∀ i < n, holds (i + 1) := by
    intro n
    induction n with
    | zero => exact fun i below => absurd below (Nat.not_lt_zero i)
    | succ n ih =>
        intro i below
        rcases Nat.lt_succ_iff_lt_or_eq.mp below with earlier | rfl
        · exact ih i earlier
        · exact Classical.byContradiction fun stops => none ⟨i, ih, stops⟩
  obtain ⟨n, stops⟩ := ends
  exact stops (all (n + 1) n (Nat.lt_succ_self n))

namespace Movement

structure PushRun (s : State) (c : Cell) (d : Direction) (k : Nat) : Prop where
  goal : s.HoldsAt s.isWinContact (c.ahead d 1) → k = 0
  run : ∀ j : Int, 1 ≤ j → j ≤ k → s.HoldsAt s.isPushable (c.ahead d j)
  longest : ¬ s.HoldsAt s.isWinContact (c.ahead d 1) → ¬ s.HoldsAt s.isPushable (c.ahead d (k + 1))

def PullsAt (s : State) (cell : Cell) : Prop := s.onBoard cell = true ∧ s.HoldsAt (s.has .pull) cell

instance decidablePullsAt (s : State) (cell : Cell) : Decidable (PullsAt s cell) :=
  inferInstanceAs (Decidable (_ ∧ _))

structure PullRun (s : State) (c : Cell) (d : Direction) (m : Nat) : Prop where
  run : ∀ j : Int, 1 ≤ j → j ≤ m → PullsAt s (c.ahead d (-j))
  longest : ¬ PullsAt s (c.ahead d (-(m + 1)))

-- There is room when all cells up to the one after the pushed ones are on the board and nothing in that one blocks;
-- the player itself goes where it is to arrive.
def Room (s : State) (c : Cell) (d : Direction) (k : Nat) : Prop :=
  (∀ j : Int, 1 ≤ j → j ≤ k + 1 → s.onBoard (c.ahead d j) = true) ∧
    (s.HoldsAt s.isBlocking (c.ahead d (k + 1)) → k = 0 ∧ s.HoldsAt s.isWinContact (c.ahead d 1))

structure ShiftsLine (s next : State) (c : Cell) (d : Direction) (k m : Nat) : Prop where
  shifted : ∀ id (j : Int), -m ≤ j → j ≤ k → s.positions.get? id = some (c.ahead d j) →
    next.positions.get? id = some (c.ahead d (j + 1))
  kept : ∀ id, (∀ j : Int, -m ≤ j → j ≤ k → s.positions.get? id ≠ some (c.ahead d j)) →
    next.positions.get? id = s.positions.get? id
  rest : next = { s with positions := next.positions }

theorem push_run_exists (s : State) (c : Cell) (d : Direction) : ∃ k, PushRun s c d k := by
  obtain ⟨bound, empty⟩ := s.far_empty c d
  have ends : ¬ s.HoldsAt s.isPushable (c.ahead d ((bound + 1 : Nat) : Int)) := by
    rintro ⟨id, stands, _⟩
    exact empty _ (by omega) id stands
  obtain ⟨k, run, stops⟩ := longest_run_exists (fun j => s.HoldsAt s.isPushable (c.ahead d j)) ⟨bound, ends⟩
  by_cases goal : s.HoldsAt s.isWinContact (c.ahead d 1)
  · exact ⟨0, fun _ => rfl, fun j positive none => by omega, fun open_cell => absurd goal open_cell⟩
  · apply Exists.intro k
    constructor
    · intro reached
      exact absurd reached goal
    · intro j positive within
      have holds := run (j.toNat - 1) (by omega)
      have same : ((j.toNat - 1 + 1 : Nat) : Int) = j := by omega
      rwa [same] at holds
    · intro _
      rwa [Int.natCast_succ] at stops

theorem pull_run_exists (s : State) (c : Cell) (d : Direction) : ∃ m, PullRun s c d m := by
  obtain ⟨bound, empty⟩ := s.far_empty c d
  have ends : ¬ PullsAt s (c.ahead d (-((bound + 1 : Nat) : Int))) := by
    rintro ⟨_, id, stands, _⟩
    exact empty _ (by omega) id stands
  obtain ⟨m, run, stops⟩ := longest_run_exists (fun j => PullsAt s (c.ahead d (-j))) ⟨bound, ends⟩
  apply Exists.intro m
  constructor
  · intro j positive within
    have holds := run (j.toNat - 1) (by omega)
    have same : ((j.toNat - 1 + 1 : Nat) : Int) = j := by omega
    rwa [same] at holds
  · rwa [Int.natCast_succ] at stops

end Movement

end KanjiPuzzle
