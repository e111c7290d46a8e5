set_option autoImplicit false

/- The first of the least members of a list under a given order. -/
namespace KanjiPuzzle

variable {α : Type}

def leastFrom (less : α → α → Bool) : α → List α → α
  | best, [] => best
  | best, a :: rest => leastFrom less (if less a best then a else best) rest

def least? (less : α → α → Bool) : List α → Option α
  | [] => none
  | a :: rest => some (leastFrom less a rest)

theorem least_eq_none_iff (less : α → α → Bool) (as : List α) : least? less as = none ↔ as = [] := by
  cases as <;> simp [least?]

theorem least_from_mem (less : α → α → Bool) (best : α) (as : List α) :
    leastFrom less best as = best ∨ leastFrom less best as ∈ as := by
  induction as generalizing best with
  | nil => exact .inl rfl
  | cons a rest ih =>
      unfold leastFrom
      by_cases smaller : less a best = true
      · rw [if_pos smaller]
        rcases ih a with same | inside
        · exact .inr (List.mem_cons.mpr (.inl same))
        · exact .inr (List.mem_cons_of_mem a inside)
      · rw [if_neg smaller]
        exact (ih best).imp_right (List.mem_cons_of_mem a)

theorem least_mem (less : α → α → Bool) (as : List α) (a : α) (least : least? less as = some a) : a ∈ as := by
  cases as with
  | nil => simp [least?] at least
  | cons b rest =>
      have same : leastFrom less b rest = a := by simpa [least?] using least
      rcases least_from_mem less b rest with head | tail
      · exact List.mem_cons.mpr (.inl (same.symm.trans head))
      · exact List.mem_cons_of_mem b (same ▸ tail)

section Below

variable (R : α → α → Prop) (less : α → α → Bool) (chains : ∀ a b c, R a b → R b c → R a c)
  (lower : ∀ a b, less a b = true → R a b) (upper : ∀ a b, less a b = false → R b a)
include chains lower upper

theorem least_from_below (best : α) (as : List α) :
    R (leastFrom less best as) best ∧ ∀ a ∈ as, R (leastFrom less best as) a := by
  induction as generalizing best with
  | nil =>
      refine ⟨?_, by simp⟩
      cases self : less best best with
      | true => exact lower best best self
      | false => exact upper best best self
  | cons a rest ih =>
      rw [leastFrom]
      obtain ⟨below, others⟩ := ih (if less a best then a else best)
      cases smaller : less a best with
      | true =>
          rw [smaller] at below others
          exact ⟨chains _ a best below (lower a best smaller), List.forall_mem_cons.mpr ⟨below, others⟩⟩
      | false =>
          rw [smaller] at below others
          exact ⟨below, List.forall_mem_cons.mpr ⟨chains _ best a below (upper a best smaller), others⟩⟩

theorem least_below (as : List α) (m : α) (least : least? less as = some m) : ∀ a ∈ as, R m a := by
  cases as with
  | nil => cases least
  | cons first rest =>
      cases least
      exact List.forall_mem_cons.mpr (least_from_below R less chains lower upper first rest)

end Below

def keyedLess (a b : Nat × Int) : Bool := a.1 < b.1 || (a.1 == b.1 && a.2 < b.2)

end KanjiPuzzle
