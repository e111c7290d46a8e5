import KanjiPuzzle.Level
import KanjiPuzzle.Proofs.Answers

set_option autoImplicit false

/- The editor of levels. All tiles of a level stand in one list, and yet every cell of the board is a stack of its own
   to the editor. -/
namespace KanjiPuzzle

inductive Edit where
  | place (definition : DefinitionId) (cell : Cell)
  | erase (cell : Cell)
deriving DecidableEq, Repr

namespace Edit

def cell : Edit → Cell
  | place _ cell => cell
  | erase cell => cell

def act : Edit → List Placement → List Placement
  | place definition cell, stack => stack ++ [⟨definition, cell⟩]
  | erase _, stack => stack.dropLast

def made : Edit → List Placement
  | place definition cell => [⟨definition, cell⟩]
  | erase _ => []

end Edit

namespace Level

def edit (l : Level) : Edit → Attempt Level
  | .place definition cell => l.place definition cell
  | .erase cell => l.erase cell

-- Who is refused goes on with the level as it was.
def after (l : Level) (e : Edit) : Level :=
  match l.edit e with
  | .ok next => next
  | .error _ => l

def edited (l : Level) (es : List Edit) : Level := es.foldl after l

def stack (l : Level) (cell : Cell) : List Placement := l.placements.filter fun p => decide (p.cell = cell)

-- The level without the tile that came last into the cell, if there is any.
inductive Popped (l : Level) (cell : Cell) : Level → Prop where
  | empty (bare : ∀ p ∈ l.placements, p.cell ≠ cell) : Popped l cell l
  | newest (before : List Placement) (p : Placement) (after : List Placement)
      (split : l.placements = before ++ p :: after) (here : p.cell = cell) (last : ∀ q ∈ after, q.cell ≠ cell) :
      Popped l cell { l with placements := before ++ after }

section Steps

variable (l : Level) (cell : Cell)

theorem placements_at_inside (inside : l.extent.contains cell = true) : l.placementsAt cell = .ok (l.stack cell) := by
  rw [placementsAt, Level.inside, if_pos inside]
  rfl

theorem placements_at_outside (outside : l.extent.contains cell = false) :
    l.placementsAt cell = .error (Fault.written (l.told cell) (.outOfBounds cell l.extent)) := by
  rw [placementsAt, Level.inside, if_neg (Bool.eq_false_iff.mp outside)]
  rfl

theorem place_inside (definition : DefinitionId) (inside : l.extent.contains cell = true) :
    l.place definition cell = .ok { l with placements := l.placements ++ [⟨definition, cell⟩] } := by
  rw [place, Level.inside, if_pos inside]
  rfl

theorem erase_inside (inside : l.extent.contains cell = true) :
    ∃ next, l.erase cell = .ok next ∧ Popped l cell next := by
  rw [erase, Level.inside, if_pos inside]
  refine ⟨_, rfl, ?_⟩
  by_cases taken : ∃ p ∈ l.placements, p.cell = cell
  · obtain ⟨p, member, here⟩ := taken
    obtain ⟨newest, later, earlier, apart, found, split, erased⟩ :=
      List.exists_of_eraseP (p := fun p => decide (p.cell = cell)) (List.mem_reverse.mpr member) (decide_eq_true here)
    have order : l.placements = earlier.reverse ++ newest :: later.reverse := by
      have turned := congrArg List.reverse split
      simpa using turned
    rw [erased, List.reverse_append]
    exact .newest earlier.reverse newest later.reverse order (of_decide_eq_true found)
      (fun q member => by simpa using apart q (List.mem_reverse.mp member))
  · have bare : ∀ p ∈ l.placements, p.cell ≠ cell := fun p member here => taken ⟨p, member, here⟩
    rw [List.eraseP_of_forall_not (by simpa using bare), List.reverse_reverse]
    exact .empty bare

theorem edit_outside (e : Edit) (outside : l.extent.contains e.cell = false) :
    l.edit e = .error (Fault.written (l.told e.cell) (.outOfBounds e.cell l.extent)) := by
  cases e <;> simp only [Edit.cell] at outside <;> simp [edit, place, erase, inside, Edit.cell, outside, bind, Except.bind]

theorem place_erased (definition : DefinitionId) (inside : l.extent.contains cell = true) :
    erase { l with placements := l.placements ++ [⟨definition, cell⟩] } cell = .ok l := by
  have here : l.extent.contains cell = true := inside
  simp [erase, Level.inside, here, bind, Except.bind]

theorem popped_apart (next : Level) (popped : Popped l cell next) (keep : Placement → Bool)
    (apart : ∀ p : Placement, p.cell = cell → keep p = false) : next.placements.filter keep = l.placements.filter keep := by
  cases popped with
  | empty => rfl
  | newest before p after split here =>
      rw [split, List.filter_append, List.filter_append, List.filter_cons_of_neg (by simp [apart p here])]

theorem popped_stack (next : Level) (popped : Popped l cell next) : next.stack cell = (l.stack cell).dropLast := by
  cases popped with
  | empty bare =>
      have none : l.stack cell = [] := by simpa [stack] using bare
      rw [none, List.dropLast_nil]
  | newest before p after split here last =>
      have bare : after.filter (fun q => decide (q.cell = cell)) = [] := by simpa using last
      rw [stack, stack, split, List.filter_append, List.filter_append, List.filter_cons_of_pos (by simp [here]), bare,
        List.append_nil, List.dropLast_concat]

end Steps

inductive Revision (l : Level) : Edit → Level → Prop where
  | refused (e : Edit) (outside : l.extent.contains e.cell = false) : Revision l e l
  | placed (definition : DefinitionId) (cell : Cell) (inside : l.extent.contains cell = true) :
      Revision l (.place definition cell) { l with placements := l.placements ++ [⟨definition, cell⟩] }
  | erased (cell : Cell) (next : Level) (inside : l.extent.contains cell = true) (popped : Popped l cell next) :
      Revision l (.erase cell) next

theorem after_revision (l : Level) (e : Edit) : Revision l e (l.after e) := by
  rw [after]
  cases inside : l.extent.contains e.cell with
  | false =>
      rw [l.edit_outside e inside]
      exact .refused e inside
  | true =>
      cases e with
      | place definition cell =>
          rw [edit, l.place_inside cell definition inside]
          exact .placed definition cell inside
      | erase cell =>
          obtain ⟨next, erased, popped⟩ := l.erase_inside cell inside
          rw [edit, erased]
          exact .erased cell next inside popped

section Revisions

variable (l next : Level) (e : Edit) (revision : Revision l e next)
include revision

theorem revision_frame : next.heading = l.heading ∧ next.extent = l.extent := by
  cases revision with
  | refused => exact ⟨rfl, rfl⟩
  | placed => exact ⟨rfl, rfl⟩
  | erased cell next inside popped => cases popped <;> exact ⟨rfl, rfl⟩

theorem revision_apart (keep : Placement → Bool) (apart : ∀ p : Placement, p.cell = e.cell → keep p = false) :
    next.placements.filter keep = l.placements.filter keep := by
  cases revision with
  | refused => rfl
  | placed definition cell =>
      rw [List.filter_append, List.filter_cons_of_neg (by simp [apart ⟨definition, cell⟩ rfl]), List.filter_nil,
        List.append_nil]
  | erased cell next inside popped => exact l.popped_apart cell next popped keep apart

theorem revision_stack (inside : l.extent.contains e.cell = true) : next.stack e.cell = e.act (l.stack e.cell) := by
  cases revision with
  | refused e outside => cases outside.symm.trans inside
  | placed definition cell => simp [stack, Edit.act, Edit.cell]
  | erased cell next inside popped => exact l.popped_stack cell next popped

theorem revision_stack_elsewhere (cell : Cell) (other : e.cell ≠ cell) : next.stack cell = l.stack cell :=
  l.revision_apart next e revision _ fun _ here => decide_eq_false fun there => other (here.symm.trans there)

theorem revision_order : next.placements.Sublist (l.placements ++ e.made) := by
  cases revision with
  | refused => exact List.sublist_append_left _ _
  | placed => exact List.Sublist.refl _
  | erased cell next inside popped =>
      rw [Edit.made, List.append_nil]
      cases popped with
      | empty => exact List.Sublist.refl _
      | newest before p after split =>
          rw [split]
          exact (List.sublist_cons_self p after).append_left before

theorem revision_off_board :
    next.placements.filter (fun p => !l.extent.contains p.cell) =
      l.placements.filter fun p => !l.extent.contains p.cell := by
  cases inside : l.extent.contains e.cell with
  | true => exact l.revision_apart next e revision _ fun p here => by rw [here, inside]; rfl
  | false =>
      cases revision with
      | refused => rfl
      | placed definition cell within => cases within.symm.trans inside
      | erased cell next within => cases within.symm.trans inside

end Revisions

section Runs

theorem edited_frame (l : Level) (es : List Edit) :
    (l.edited es).heading = l.heading ∧ (l.edited es).extent = l.extent := by
  induction es generalizing l with
  | nil => exact ⟨rfl, rfl⟩
  | cons e rest ih =>
      obtain ⟨heading, extent⟩ := l.revision_frame _ e (l.after_revision e)
      exact ⟨(ih (l.after e)).1.trans heading, (ih (l.after e)).2.trans extent⟩

theorem edited_order (l : Level) (es : List Edit) :
    (l.edited es).placements.Sublist (l.placements ++ es.flatMap Edit.made) := by
  induction es generalizing l with
  | nil => simp [edited]
  | cons e rest ih =>
      have later := ih (l.after e)
      have now := (l.revision_order _ e (l.after_revision e)).append_right (rest.flatMap Edit.made)
      rw [List.append_assoc] at now
      exact later.trans now

theorem edited_off_board (l : Level) (es : List Edit) :
    (l.edited es).placements.filter (fun p => !l.extent.contains p.cell) =
      l.placements.filter fun p => !l.extent.contains p.cell := by
  induction es generalizing l with
  | nil => rfl
  | cons e rest ih =>
      have revision := l.after_revision e
      have later := ih (l.after e)
      rw [(l.revision_frame _ e revision).2, l.revision_off_board _ e revision] at later
      exact later

-- A run of edits is, on each cell, the run of those that concern the cell.
theorem edited_stack (l : Level) (es : List Edit) (cell : Cell) (inside : l.extent.contains cell = true) :
    (l.edited es).stack cell =
      (es.filter fun e => decide (e.cell = cell)).foldl (fun stack e => e.act stack) (l.stack cell) := by
  induction es generalizing l with
  | nil => rfl
  | cons e rest ih =>
      have revision := l.after_revision e
      have later := ih (l.after e) (by rwa [(l.revision_frame _ e revision).2])
      by_cases here : e.cell = cell
      · subst here
        rw [List.filter_cons_of_pos (by simp), List.foldl_cons, ← l.revision_stack _ e revision inside]
        exact later
      · rw [List.filter_cons_of_neg (by simp [here]), ← l.revision_stack_elsewhere _ e revision cell here]
        exact later

theorem edited_view (l : Level) (es : List Edit) (cell : Cell) :
    (l.edited es).placementsAt cell =
      (l.placementsAt cell).map
        ((es.filter fun e => decide (e.cell = cell)).foldl fun stack e => e.act stack) := by
  have extent := (l.edited_frame es).2
  cases inside : l.extent.contains cell with
  | false =>
      rw [l.placements_at_outside cell inside, placements_at_outside _ cell (by rwa [extent]), told, extent]
      rfl
  | true =>
      rw [l.placements_at_inside cell inside, placements_at_inside _ cell (by rwa [extent]), l.edited_stack es cell inside]
      rfl

end Runs

structure EditedByStacks (l : Level) : Prop where
  refuses : ∀ e : Edit, l.extent.contains e.cell = false →
    (∀ n ∈ l.told e.cell, Text.isWritable n = true) → l.edit e = .error (.outOfBounds e.cell l.extent)
  untold : ∀ e : Edit, l.extent.contains e.cell = false →
    (∃ n ∈ l.told e.cell, Text.isWritable n = false) → l.edit e = .error .tooLongToWrite
  keeps : ∀ e : Edit, l.extent.contains e.cell = false → l.after e = l
  pushes : ∀ definition cell, l.extent.contains cell = true → ∃ next stack, l.place definition cell = .ok next ∧
    next = { l with placements := l.placements ++ [⟨definition, cell⟩] } ∧ l.placementsAt cell = .ok stack ∧
    next.placementsAt cell = .ok (stack ++ [⟨definition, cell⟩]) ∧ next.erase cell = .ok l
  pops : ∀ cell, l.extent.contains cell = true → ∃ next stack, l.erase cell = .ok next ∧ Popped l cell next ∧
    l.placementsAt cell = .ok stack ∧ next.placementsAt cell = .ok stack.dropLast ∧ (stack = [] → next = l)
  elsewhere : ∀ (e : Edit) cell, e.cell ≠ cell → (l.after e).placementsAt cell = l.placementsAt cell
  commutes : ∀ a b : Edit, a.cell ≠ b.cell → ∀ cell,
    (l.edited [a, b]).placementsAt cell = (l.edited [b, a]).placementsAt cell

theorem edited_by_stacks (l : Level) : EditedByStacks l := by
  constructor
  · intro e outside short
    rw [l.edit_outside e outside, Fault.written, if_pos (List.all_eq_true.mpr short)]
  · intro e outside long
    obtain ⟨n, told, long⟩ := long
    rw [l.edit_outside e outside, Fault.written, if_neg fun short => ?_]
    cases long.symm.trans (List.all_eq_true.mp short n told)
  · intro e outside
    rw [after, l.edit_outside e outside]
  · intro definition cell inside
    refine ⟨_, _, l.place_inside cell definition inside, rfl, l.placements_at_inside cell inside, ?_,
      l.place_erased cell definition inside⟩
    have view := placements_at_inside { l with placements := l.placements ++ [⟨definition, cell⟩] } cell inside
    simpa [stack] using view
  · intro cell inside
    obtain ⟨next, erased, popped⟩ := l.erase_inside cell inside
    refine ⟨next, _, erased, popped, l.placements_at_inside cell inside, ?_, ?_⟩
    · have extent : next.extent = l.extent := by cases popped <;> rfl
      rw [placements_at_inside _ cell (by rwa [extent]), l.popped_stack cell next popped]
    · intro bare
      cases popped with
      | empty => rfl
      | newest before p after split here => simp [stack, split, here] at bare
  · intro e cell other
    have view := l.edited_view [e] cell
    rw [List.filter_cons_of_neg (by simp [other])] at view
    refine view.trans ?_
    cases l.placementsAt cell <;> rfl
  · intro a b different cell
    rw [l.edited_view [a, b] cell, l.edited_view [b, a] cell]
    by_cases first : a.cell = cell
    · have second : b.cell ≠ cell := fun same => different (first.trans same.symm)
      simp [first, second]
    · simp [List.filter_cons, first]

theorem editor_keeps_stacks (l : Level) (es : List Edit) :
    EditedByStacks (l.edited es) ∧ (l.edited es).heading = l.heading ∧ (l.edited es).extent = l.extent ∧
      (l.edited es).placements.Sublist (l.placements ++ es.flatMap Edit.made) ∧
      (l.edited es).placements.filter (fun p => !l.extent.contains p.cell) =
        l.placements.filter (fun p => !l.extent.contains p.cell) ∧
      ∀ cell, (l.edited es).placementsAt cell = (l.placementsAt cell).map
        ((es.filter fun e => decide (e.cell = cell)).foldl fun stack e => e.act stack) :=
  ⟨edited_by_stacks _, (l.edited_frame es).1, (l.edited_frame es).2, l.edited_order es, l.edited_off_board es,
    l.edited_view es⟩

def garden : Level := ⟨⟨"garden", "Garden", .null⟩, ⟨4, 4⟩, [⟨"obj-tree", ⟨9, 0⟩⟩]⟩

example : (garden.edited [.place "obj-tree" ⟨1, 2⟩, .place "obj-human" ⟨0, 0⟩, .place "obj-rock" ⟨1, 2⟩, .erase ⟨4, 0⟩,
    .erase ⟨1, 2⟩]).placements =
      [⟨"obj-tree", ⟨9, 0⟩⟩, ⟨"obj-tree", ⟨1, 2⟩⟩, ⟨"obj-human", ⟨0, 0⟩⟩] := by decide

-- A cell whose coordinate has 4301 digits is refused as well, but cannot be told.
theorem garden_cell_untold :
    garden.extent.contains ⟨(Nat.pow 10 Text.digitLimit : Nat), 0⟩ = false ∧
      garden.place "obj-tree" ⟨(Nat.pow 10 Text.digitLimit : Nat), 0⟩ = .error .tooLongToWrite ∧
      ∀ cell extent, garden.place "obj-tree" ⟨(Nat.pow 10 Text.digitLimit : Nat), 0⟩ ≠
        .error (.outOfBounds cell extent) := by
  have far (n : Nat) (beyond : 4 < n) : garden.extent.contains ⟨n, 0⟩ = false := by
    rw [Bool.eq_false_iff, ne_eq, Extent.contains_iff]
    intro inside
    exact absurd inside.1.2 (Int.not_lt.mpr (Int.ofNat_le.mpr (Nat.le_of_lt beyond)))
  have tall (k : Nat) (some_digits : k ≠ 0) : 10 ≤ Nat.pow 10 k := Nat.le_self_pow some_digits 10
  have outside := far _ (Nat.lt_of_lt_of_le (by decide : 4 < 10) (tall Text.digitLimit (by decide)))
  have refused := garden.edited_by_stacks.untold (.place "obj-tree" ⟨(Nat.pow 10 Text.digitLimit : Nat), 0⟩) outside
    ⟨_, List.mem_cons_self, Text.power_not_writable⟩
  refine ⟨outside, refused, fun cell extent told => ?_⟩
  cases refused.symm.trans told

end Level

end KanjiPuzzle
