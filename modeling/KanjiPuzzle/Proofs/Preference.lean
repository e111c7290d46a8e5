import KanjiPuzzle.Least
import KanjiPuzzle.Proofs.Answers
import Mathlib.Data.Bool.Basic
import Mathlib.Data.Prod.Lex
import Mathlib.Data.Set.Basic
import Mathlib.Order.Bounds.Basic

set_option autoImplicit false

/- Whom a choice prefers. The rules of choice write down a key for everybody and take the least, of equal keys the one
   with the lowest id; to say of a choice that it is right is to say that it is least in an order of its own. -/
namespace KanjiPuzzle

variable {α κ : Type} [LinearOrder κ]

theorem least_ranked (key : α → κ) (less : α → α → Bool) (decides : ∀ a b, less a b = true ↔ key a < key b)
    (as : List α) (m : α) (least : least? less as = some m) : ∀ a ∈ as, key m ≤ key a := by
  refine least_below (fun a b => key a ≤ key b) less (fun a b c => le_trans) (fun a b smaller => ?_)
    (fun a b larger => ?_) as m least
  · exact le_of_lt ((decides a b).mp smaller)
  · exact not_lt.mp fun less_than => Bool.eq_false_iff.mp larger ((decides a b).mpr less_than)

theorem keyed_less_iff (a b : Nat × Int) : keyedLess a b = true ↔ toLex a < toLex b := by
  rw [Prod.Lex.toLex_lt_toLex]
  simp [keyedLess]

theorem keyed_least (f : EntityId → Attempt Nat) (ids : List EntityId) (keyed : List (Nat × EntityId))
    (answered : Attempt.each (fun id => do .ok (← f id, id)) ids = .ok keyed) :
    (least? keyedLess keyed = none → ids = []) ∧
      ∀ n id, least? keyedLess keyed = some (n, id) → id ∈ ids ∧ f id = .ok n ∧
        ∀ other ∈ ids, ∃ m, f other = .ok m ∧ toLex (n, id) ≤ toLex (m, other) := by
  have listed := Attempt.mem_keyed_iff f ids keyed answered
  have asked (id : EntityId) (member : id ∈ ids) : ∃ m, f id = .ok m ∧ (m, id) ∈ keyed := by
    obtain ⟨entry, told⟩ := Attempt.each_ok _ _ _ answered id member
    obtain ⟨m, here, _⟩ := Attempt.bind_ok _ _ _ told
    exact ⟨m, here, (listed m id).mpr ⟨member, here⟩⟩
  constructor
  · intro nothing
    have empty := (least_eq_none_iff keyedLess keyed).mp nothing
    refine List.eq_nil_iff_forall_not_mem.mpr fun id member => ?_
    obtain ⟨m, _, kept⟩ := asked id member
    rw [empty] at kept
    cases kept
  · intro n id least
    obtain ⟨member, here⟩ := (listed n id).mp (least_mem keyedLess keyed (n, id) least)
    refine ⟨member, here, fun other inside => ?_⟩
    obtain ⟨m, answer, kept⟩ := asked other inside
    exact ⟨m, answer, least_ranked toLex keyedLess keyed_less_iff keyed (n, id) least (m, other) kept⟩

theorem weighed_le_iff {μ : Type} [LinearOrder μ] (weight : κ → μ) (rises : StrictMono weight) (k l : κ)
    (id other : EntityId) : toLex (weight k, id) ≤ toLex (weight l, other) ↔ toLex (k, id) ≤ toLex (l, other) := by
  rw [Prod.Lex.toLex_le_toLex, Prod.Lex.toLex_le_toLex, rises.lt_iff_lt, rises.injective.eq_iff]

theorem found_iff_least (offers : Set (κ ×ₗ EntityId)) (found : Option EntityId) (nothing : found = none → offers = ∅)
    (best : ∀ id, found = some id → ∃ k, IsLeast offers (toLex (k, id))) (id : EntityId) :
    found = some id ↔ ∃ k, IsLeast offers (toLex (k, id)) := by
  constructor
  · exact best id
  · intro least
    obtain ⟨k, least⟩ := least
    cases sought : found with
    | none =>
        have member := least.1
        rw [nothing sought] at member
        cases member
    | some other =>
        obtain ⟨l, lowest⟩ := best other sought
        have same := toLex.injective (lowest.unique least)
        exact congrArg (fun entry : κ × EntityId => some entry.2) same

end KanjiPuzzle
