import KanjiPuzzle.Fault

set_option autoImplicit false

/- Operations over lists that may have no answer. Members are taken in order, and the first one without an answer
   decides the whole. -/
namespace KanjiPuzzle

abbrev Attempt (α : Type) := Except Fault α

namespace Attempt

instance decideEq {α : Type} [DecidableEq α] : DecidableEq (Attempt α)
  | .ok a, .ok b => if same : a = b then isTrue (congrArg _ same) else isFalse fun h => same (Except.ok.inj h)
  | .error f, .error g => if same : f = g then isTrue (congrArg _ same) else isFalse fun h => same (Except.error.inj h)
  | .ok _, .error _ => isFalse nofun
  | .error _, .ok _ => isFalse nofun

def select {α : Type} (test : α → Attempt Bool) : List α → Attempt (List α)
  | [] => .ok []
  | a :: rest => do
      let keep ← test a
      let kept ← select test rest
      .ok (if keep then a :: kept else kept)

def first? {α : Type} (test : α → Attempt Bool) : List α → Attempt (Option α)
  | [] => .ok none
  | a :: rest => do
      if ← test a then .ok (some a) else first? test rest

def exists? {α : Type} (test : α → Attempt Bool) (as : List α) : Attempt Bool := do
  let found ← first? test as
  .ok found.isSome

def each {α β : Type} (f : α → Attempt β) : List α → Attempt (List β)
  | [] => .ok []
  | a :: rest => do
      let b ← f a
      let bs ← each f rest
      .ok (b :: bs)

def through {α σ : Type} (f : σ → α → Attempt σ) : σ → List α → Attempt σ
  | s, [] => .ok s
  | s, a :: rest => do
      let next ← f s a
      through f next rest

theorem select_of_total {α : Type} (test : α → Attempt Bool) (decision : α → Bool) (as : List α)
    (total : ∀ a ∈ as, test a = .ok (decision a)) : select test as = .ok (as.filter decision) := by
  induction as with
  | nil => rfl
  | cons a rest ih =>
      have here := total a List.mem_cons_self
      have there := ih fun b member => total b (List.mem_cons_of_mem a member)
      simp only [select, here, there, bind, Except.bind, List.filter_cons]

theorem first_of_total {α : Type} (test : α → Attempt Bool) (decision : α → Bool) (as : List α)
    (total : ∀ a ∈ as, test a = .ok (decision a)) : first? test as = .ok (as.find? decision) := by
  induction as with
  | nil => rfl
  | cons a rest ih =>
      have here := total a List.mem_cons_self
      have there := ih fun b member => total b (List.mem_cons_of_mem a member)
      cases verdict : decision a <;> simp [first?, here, there, bind, Except.bind, verdict]

theorem exists_of_total {α : Type} (test : α → Attempt Bool) (decision : α → Bool) (as : List α)
    (total : ∀ a ∈ as, test a = .ok (decision a)) : exists? test as = .ok (as.any decision) := by
  simp only [exists?, first_of_total test decision as total, bind, Except.bind]
  exact congrArg Except.ok (Bool.eq_iff_iff.mpr (by simp [List.find?_isSome]))

end Attempt

end KanjiPuzzle
