import KanjiPuzzle.Proofs.Turns
import KanjiPuzzle.Session

set_option autoImplicit false

/- Loading. A level can be loaded exactly when all its definitions are known, and a session that opens it starts from a
   sound state after no moves. -/
namespace KanjiPuzzle

namespace Level

def Loadable (catalog : Catalog) (l : Level) : Prop := ∀ p ∈ l.placements, catalog.contains p.definition = true

theorem mem_numbered (first : EntityId) (placements : List Placement) (entry : EntityId × Placement)
    (member : entry ∈ numbered first placements) : entry.2 ∈ placements := by
  induction placements generalizing first with
  | nil => cases member
  | cons p rest ih =>
      rcases List.mem_cons.mp member with rfl | later
      · exact List.mem_cons_self
      · exact List.mem_cons_of_mem p (ih (first + 1) later)

theorem to_state_answers (catalog : Catalog) (l : Level) (loadable : l.Loadable catalog) :
    ∃ s, l.toState catalog = .ok s ∧ s.Sound ∧ s.moves = 0 := by
  obtain ⟨ds, answered, _⟩ := Attempt.each_answers (fun _ => True) (fun p => catalog.get p.definition) l.placements
    fun p member => by
      obtain ⟨d, found⟩ := Option.isSome_iff_exists.mp (loadable p member)
      exact ⟨d, by rw [Catalog.get, found], trivial⟩
  rw [toState]
  simp only [answered, bind, Except.bind]
  refine ⟨_, rfl, ⟨fun id => Bool.eq_iff_iff.mpr ?_, fun id definition found => ?_, by simp⟩, rfl⟩
  · simp only [EntityMap.contains_of_list_iff, List.map_map, Function.comp_def]
  · obtain ⟨entry, member, same⟩ := List.mem_map.mp (EntityMap.get_of_list _ id definition found)
    cases same
    exact loadable entry.2 (mem_numbered 1 l.placements entry member)

theorem loadable_of_to_state (catalog : Catalog) (l : Level) (s : State) (built : l.toState catalog = .ok s) :
    l.Loadable catalog := by
  obtain ⟨ds, answered, _⟩ := Attempt.bind_ok _ _ _ built
  intro p member
  obtain ⟨d, known⟩ := Attempt.each_ok _ _ _ answered p member
  exact Option.isSome_iff_exists.mpr ⟨d, catalog.find_of_get p.definition d known⟩

end Level

namespace Session

def loaded (catalog : Catalog) (level : Level) : Attempt State := do
  let built ← level.toState catalog
  Turn.settle built

def Loads (catalog : Catalog) (level : Level) : Prop := ∃ s, start catalog level = .ok s

theorem opened_ok (catalog : Catalog) (level : Level) (kind : EventKind) (message : String) (s : State)
    (load : loaded catalog level = .ok s) :
    opened catalog level kind message = .ok ⟨catalog, level, { s with events := [⟨kind, message, []⟩] }, []⟩ := by
  obtain ⟨built, answered, settled⟩ := Attempt.bind_ok _ _ _ load
  rw [opened]
  simp only [answered, settled, bind, Except.bind]

theorem loaded_answers (catalog : Catalog) (level : Level) (loadable : level.Loadable catalog) :
    ∃ s, loaded catalog level = .ok s ∧ s.Sound ∧ s.moves = 0 := by
  obtain ⟨built, answered, sound, none⟩ := level.to_state_answers catalog loadable
  obtain ⟨s, settled, continues⟩ := Turn.settle_answers built sound
  exact ⟨s, by rw [loaded, answered]; exact settled, continues.sound, continues.moves.trans none⟩

theorem loaded_sound (catalog : Catalog) (level : Level) (s : State) (load : loaded catalog level = .ok s) :
    s.Sound ∧ s.moves = 0 := by
  obtain ⟨built, answered, _⟩ := Attempt.bind_ok _ _ _ load
  obtain ⟨t, again, sound, none⟩ := loaded_answers catalog level (level.loadable_of_to_state catalog built answered)
  cases load.symm.trans again
  exact ⟨sound, none⟩

theorem loads_iff (catalog : Catalog) (level : Level) : Loads catalog level ↔ level.Loadable catalog := by
  constructor
  · rintro ⟨s, started⟩
    obtain ⟨built, answered, _⟩ := Attempt.bind_ok _ _ _ started
    exact level.loadable_of_to_state catalog built answered
  · intro loadable
    obtain ⟨s, load, _⟩ := loaded_answers catalog level loadable
    exact ⟨_, opened_ok catalog level _ _ s load⟩

end Session

end KanjiPuzzle
