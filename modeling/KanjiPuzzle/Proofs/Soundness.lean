import KanjiPuzzle.Proofs.Answers
import KanjiPuzzle.State.Traits

set_option autoImplicit false

/- Sound states: what is alive has a place and a known definition, and every rule has its three cells. All questions
   about what is alive have an answer there. -/
namespace KanjiPuzzle

namespace EntityMap

variable {α β : Type}

theorem contains_insert (m : EntityMap α) (id other : EntityId) (value : α) :
    (m.insert id value).contains other = (decide (id = other) || m.contains other) := by
  unfold contains
  rw [get_insert]
  by_cases same : id = other <;> simp [same]

theorem contains_insert_present (m : EntityMap α) (id other : EntityId) (value : α) (present : m.contains id = true) :
    (m.insert id value).contains other = m.contains other := by
  rw [contains_insert]
  by_cases same : id = other
  · rw [← same, present, Bool.or_true]
  · simp [same]

theorem get_erase_all (gone : List EntityId) (m : EntityMap α) (id : EntityId) :
    (m.eraseAll gone).get? id = if id ∈ gone then none else m.get? id := by
  rw [eraseAll]
  induction gone generalizing m with
  | nil => rfl
  | cons first rest ih =>
      rw [List.foldl_cons, ih, get_erase]
      by_cases later : id ∈ rest
      · simp [later]
      · by_cases same : first = id
        · simp [later, same]
        · simp [later, same, Ne.symm same]

theorem contains_erase_all (gone : List EntityId) (m : EntityMap α) (id : EntityId) :
    (m.eraseAll gone).contains id = (!decide (id ∈ gone) && m.contains id) := by
  unfold contains
  rw [get_erase_all]
  by_cases erased : id ∈ gone <;> simp [erased]

theorem get_fold_insert (entries : List (EntityId × α)) (m : EntityMap α) (id : EntityId) (value : α)
    (found : (entries.foldl (fun m entry => m.insert entry.1 entry.2) m).get? id = some value) :
    (id, value) ∈ entries ∨ m.get? id = some value := by
  induction entries generalizing m with
  | nil => exact .inr found
  | cons entry rest ih =>
      rcases ih (m.insert entry.1 entry.2) found with later | now
      · exact .inl (List.mem_cons_of_mem entry later)
      · rw [get_insert] at now
        split at now
        case isTrue same =>
          cases now
          exact .inl (same ▸ List.mem_cons_self)
        case isFalse => exact .inr now

theorem get_of_list (entries : List (EntityId × α)) (id : EntityId) (value : α)
    (found : (ofList entries).get? id = some value) : (id, value) ∈ entries := by
  rcases get_fold_insert entries empty id value found with member | absent
  · exact member
  · cases absent

theorem contains_fold_insert_iff (entries : List (EntityId × α)) (m : EntityMap α) (id : EntityId) :
    (entries.foldl (fun m entry => m.insert entry.1 entry.2) m).contains id = true ↔
      id ∈ entries.map Prod.fst ∨ m.contains id = true := by
  induction entries generalizing m with
  | nil => simp
  | cons entry rest ih =>
      rw [List.foldl_cons, ih, contains_insert, List.map_cons, List.mem_cons]
      by_cases same : entry.1 = id
      · simp [same]
      · simp [same, Ne.symm same]

theorem contains_of_list_iff (entries : List (EntityId × α)) (id : EntityId) :
    (ofList entries).contains id = true ↔ id ∈ entries.map Prod.fst := by
  rw [ofList, contains_fold_insert_iff]
  simp [contains, get?, empty, lookup]

end EntityMap

namespace State

def Alive (s : State) (id : EntityId) : Prop := s.definitions.contains id = true

structure Sound (s : State) : Prop where
  placed : ∀ id, s.positions.contains id = s.definitions.contains id
  known : ∀ id definition, s.definitions.get? id = some definition → s.catalog.contains definition = true
  celled : ∀ r ∈ s.rules, ∃ noun connector term, r.cells = [noun, connector, term]

def Grounded (s : State) : Prop := Sound { s with rules := [] }

theorem sound_grounded (s : State) (sound : s.Sound) : s.Grounded :=
  ⟨sound.placed, sound.known, fun _ member => nomatch member⟩

theorem grounded_board (s t : State) (grounded : s.Grounded) (definitions : t.definitions = s.definitions)
    (positions : t.positions = s.positions) (catalog : t.catalog = s.catalog) : t.Grounded := by
  constructor
  · rw [definitions, positions]
    exact grounded.placed
  · rw [definitions, catalog]
    exact grounded.known
  · intro r member
    cases member

theorem alive_iff (s : State) (id : EntityId) : s.Alive id ↔ id ∈ s.definitions.ids := s.definitions.contains_iff id

theorem alive_of_get (s : State) (id : EntityId) (definition : DefinitionId)
    (stored : s.definitions.get? id = some definition) : s.Alive id := by
  rw [Alive, EntityMap.contains, stored]
  rfl

theorem gone_get (s : State) (id : EntityId) (gone : ¬ s.Alive id) : s.definitions.get? id = none :=
  Option.not_isSome_iff_eq_none.mp gone

section Answers

variable (s : State) (sound : s.Sound) (id : EntityId) (alive : s.Alive id)
include sound alive

theorem cell_answers : ∃ cell, s.cellOf id = .ok cell := by
  obtain ⟨cell, stands⟩ := Option.isSome_iff_exists.mp ((sound.placed id).trans alive)
  exact ⟨cell, by rw [cellOf, stands]⟩

theorem definition_answers : ∃ d, s.definitionOf id = .ok d := by
  obtain ⟨definition, defined⟩ := Option.isSome_iff_exists.mp alive
  obtain ⟨d, found⟩ := Option.isSome_iff_exists.mp (sound.known id definition defined)
  refine ⟨d, ?_⟩
  simp only [definitionOf, definitionIdOf, defined, Catalog.get, found, bind, Except.bind]

theorem judgement_answers (judge : Definition → Bool) :
    ∃ verdict, (s.definitionOf id >>= fun d => .ok (judge d)) = Except.ok verdict := by
  obtain ⟨d, defined⟩ := definition_answers s sound id alive
  exact ⟨judge d, by rw [defined]; rfl⟩

end Answers

theorem mem_entities_at_iff (s : State) (cell : Cell) (id : EntityId) :
    id ∈ s.entitiesAt cell ↔ s.positions.get? id = some cell := by
  rw [entitiesAt, List.mem_map, ← EntityMap.mem_entries_iff]
  constructor
  · rintro ⟨⟨other, place⟩, member, rfl⟩
    obtain ⟨listed, here⟩ := List.mem_filter.mp member
    exact of_decide_eq_true here ▸ listed
  · exact fun listed => ⟨(id, cell), List.mem_filter.mpr ⟨listed, decide_eq_true rfl⟩, rfl⟩

theorem here_alive (s : State) (sound : s.Sound) (cell : Cell) (id : EntityId) (here : id ∈ s.entitiesAt cell) :
    s.Alive id := by
  obtain ⟨entry, member, same⟩ := List.mem_map.mp here
  have listed : id ∈ s.positions.ids := List.mem_map.mpr ⟨entry, (List.mem_filter.mp member).1, same⟩
  exact (sound.placed id).symm.trans ((s.positions.contains_iff id).mpr listed)

theorem mem_add_occupant (cell : Cell) (id other : EntityId) (cells : List (Cell × List EntityId))
    (entry : Cell × List EntityId) (member : entry ∈ addOccupant cell id cells) (inside : other ∈ entry.2) :
    other = id ∨ ∃ old ∈ cells, other ∈ old.2 := by
  induction cells with
  | nil =>
      rw [List.mem_singleton.mp member] at inside
      exact .inl (List.mem_singleton.mp inside)
  | cons head rest ih =>
      rcases head with ⟨here, ids⟩
      rw [addOccupant] at member
      split at member
      · rcases List.mem_cons.mp member with rfl | later
        · rcases List.mem_append.mp inside with old | new
          · exact .inr ⟨_, List.mem_cons_self, old⟩
          · exact .inl (List.mem_singleton.mp new)
        · exact .inr ⟨entry, List.mem_cons_of_mem _ later, inside⟩
      · rcases List.mem_cons.mp member with rfl | later
        · exact .inr ⟨_, List.mem_cons_self, inside⟩
        · refine (ih later).imp_right ?_
          rintro ⟨old, known, within⟩
          exact ⟨old, List.mem_cons_of_mem _ known, within⟩

theorem occupied_answers (s : State) (sound : s.Sound) :
    ∃ cells, s.occupiedCells = .ok cells ∧ ∀ entry ∈ cells, ∀ id ∈ entry.2, s.Alive id := by
  have each := Attempt.each_answers (fun entry : EntityId × Cell => s.Alive entry.1)
    (fun id => do .ok (id, ← s.cellOf id)) s.definitions.ids ?_
  · obtain ⟨placed, answered, living⟩ := each
    refine ⟨_, by rw [occupiedCells, answered]; rfl, ?_⟩
    have remaining : ∀ entry ∈ placed.filter fun entry => s.onBoard entry.2, s.Alive entry.1 :=
      fun entry member => living entry (List.mem_filter.mp member).1
    have empty : ∀ entry ∈ ([] : List (Cell × List EntityId)), ∀ id ∈ entry.2, s.Alive id := by simp
    generalize placed.filter _ = inside at remaining ⊢
    generalize ([] : List (Cell × List EntityId)) = cells at empty ⊢
    induction inside generalizing cells with
    | nil => exact empty
    | cons first rest ih =>
        refine ih (fun entry member => remaining entry (List.mem_cons_of_mem first member)) _ ?_
        intro entry member id within
        rcases mem_add_occupant first.2 first.1 id cells entry member within with rfl | ⟨old, known, present⟩
        · exact remaining first List.mem_cons_self
        · exact empty old known id present
  · intro id member
    have alive := (s.alive_iff id).mpr member
    obtain ⟨cell, stands⟩ := cell_answers s sound id alive
    exact ⟨(id, cell), by rw [stands]; rfl, alive⟩

end State

end KanjiPuzzle
