import KanjiPuzzle.Proofs.Readings
import KanjiPuzzle.Proofs.Restored

set_option autoImplicit false

/- When a board has settled. What has turned may spell other rules, and may be said to become yet another thing; where
   neither is so the board stays as it is however often it is settled. -/
namespace KanjiPuzzle

theorem EntityMap.get_fold_listed {α : Type} (entries : List (EntityId × α)) (m : EntityMap α) (id : EntityId)
    (listed : id ∈ entries.map Prod.fst) :
    ∃ value, (id, value) ∈ entries ∧
      (entries.foldl (fun m entry => m.insert entry.1 entry.2) m).get? id = some value := by
  induction entries generalizing m with
  | nil => cases listed
  | cons entry rest ih =>
      rw [List.foldl_cons]
      by_cases later : id ∈ rest.map Prod.fst
      · obtain ⟨value, member, stored⟩ := ih (m.insert entry.1 entry.2) later
        exact ⟨value, List.mem_cons_of_mem entry member, stored⟩
      · have same : id = entry.1 := (List.mem_cons.mp listed).resolve_right later
        have alive := (contains_fold_insert_iff rest (m.insert entry.1 entry.2) id).mpr
          (.inr (by rw [contains, get_insert, if_pos same.symm]; rfl))
        obtain ⟨value, stored⟩ := Option.isSome_iff_exists.mp alive
        refine ⟨value, ?_, stored⟩
        rcases get_fold_insert rest (m.insert entry.1 entry.2) id value stored with member | kept
        · exact List.mem_cons_of_mem entry member
        · rw [get_insert, if_pos same.symm] at kept
          cases kept
          exact same ▸ List.mem_cons_self

namespace State

def Due (s : State) (id : EntityId) : Prop :=
  ∃ d source target object, s.definitionOf id = .ok d ∧ d.isObject = true ∧ d.noun? = some source ∧
    s.effects.targetOf? source = some target ∧ target ≠ source ∧ s.catalog.objectFor? target = some object

theorem due_iff (s : State) (id : EntityId) :
    s.Due id ↔ ∃ d source target object, s.Destined id d source target object := by
  constructor
  · rintro ⟨d, source, target, object, defined, isObject, noun, transforms, other, found⟩
    exact ⟨d, source, target, object, ⟨defined, isObject, noun⟩, transforms, other, found⟩
  · rintro ⟨d, source, target, object, ⟨defined, isObject, noun⟩, transforms, other, found⟩
    exact ⟨d, source, target, object, defined, isObject, noun, transforms, other, found⟩

-- The tiles spell the very rules that are in force, and nothing is left to turn.
structure Quiescent (s : State) : Prop where
  spelled : ∃ b, s.tokens = .ok b ∧ b.rules = s.rules
  inert : ∀ id, ¬ s.Due id

def unread (s : State) : State :=
  { s with starts := .empty, rules := [], effects := .none, player := none, goal := none }

end State

namespace Transform

theorem change_due (s : State) (id : EntityId) (c : Change) (changed : change? s id = .ok (some c)) :
    s.Due id ∧ s.definitions.get? id ≠ some c.definition := by
  obtain ⟨_, d, object, destined, becomes, _⟩ := change_made s id c changed
  refine ⟨(s.due_iff id).mpr ⟨d, c.source, c.target, object, destined⟩, fun stored => ?_⟩
  -- Ids are distinct in a catalog, and the object of the target has another noun.
  have known := s.catalog.get_of_mem object (List.mem_of_find?_eq_some destined.found)
  have defined := destined.embodies.defined
  rw [State.definitionOf, State.definitionIdOf, stored, becomes] at defined
  have same : object = d := Except.ok.inj (known.symm.trans defined)
  have fits := List.find?_some destined.found
  rw [Catalog.isObjectFor, Bool.and_eq_true, same, destined.embodies.named] at fits
  exact destined.other (Option.some.inj (eq_of_beq fits.2)).symm

theorem destined_changes (s : State) (grounded : s.Grounded) (id : EntityId) (d : Definition) (source target : Noun)
    (object : Definition) (destined : s.Destined id d source target object) :
    ∃ cell, s.positions.get? id = some cell ∧
      change? s id = .ok (some ⟨id, source, target, object.id, d.glyph ++ " → " ++ object.glyph, cell⟩) := by
  obtain ⟨⟨defined, isObject, noun⟩, transforms, other, found⟩ := destined
  obtain ⟨cell, stands⟩ : ∃ cell, s.cellOf id = .ok cell :=
    State.cell_answers _ grounded id (s.definition_alive id d defined)
  refine ⟨cell, s.stands_of_cell id cell stands, ?_⟩
  rw [change?, defined, Attempt.ok_bind, isObject, noun]
  dsimp only
  rw [transforms]
  dsimp only
  rw [if_neg other, found]
  dsimp only
  rw [stands]
  rfl

theorem due_changes (s : State) (grounded : s.Grounded) (id : EntityId) (due : s.Due id) :
    ∃ c, change? s id = .ok (some c) := by
  obtain ⟨d, source, target, object, destined⟩ := (s.due_iff id).mp due
  obtain ⟨_, _, changed⟩ := destined_changes s grounded id d source target object destined
  exact ⟨_, changed⟩

theorem apply_changed (s : State) (changes : List Change)
    (asked : ∀ c, c ∈ changes ↔ ∃ id, s.Alive id ∧ change? s id = .ok (some c)) (c : Change) (member : c ∈ changes) :
    (apply s changes).definitions.get? c.id = some c.definition := by
  obtain ⟨value, listed, stored⟩ := EntityMap.get_fold_listed (changes.map fun c => (c.id, c.definition)) s.definitions
    c.id (List.mem_map.mpr ⟨_, List.mem_map.mpr ⟨c, member, rfl⟩, rfl⟩)
  obtain ⟨other, changed, same⟩ := List.mem_map.mp listed
  obtain ⟨sameId, becomes⟩ := Prod.mk.inj same
  obtain ⟨first, _, answer⟩ := (asked c).mp member
  obtain ⟨second, _, again⟩ := (asked other).mp changed
  rw [← (change_made s first c answer).1, ← sameId, (change_made s second other again).1, again] at answer
  cases answer
  rw [apply_definitions, stored, becomes]

theorem run_quietly (s t : State) (done : run s false = .ok t) :
    ∃ changes, (∀ c, c ∈ changes ↔ ∃ id, s.Alive id ∧ change? s id = .ok (some c)) ∧ t = apply s changes := by
  obtain ⟨changes, told, asked, kinds, rfl⟩ := run_ok s t false done
  have silent : told = [] := List.eq_nil_iff_forall_not_mem.mpr fun e member => nomatch (kinds e member).1
  rw [silent, List.append_nil]
  exact ⟨changes, asked, rfl⟩

theorem run_inert (s : State) (sound : s.Sound) (inert : ∀ id, ¬ s.Due id) : run s false = .ok s := by
  obtain ⟨t, done, _⟩ := run_continues s sound false
  obtain ⟨changes, asked, rfl⟩ := run_quietly s t done
  have unchanged : changes = [] := List.eq_nil_iff_forall_not_mem.mpr fun c member => by
    obtain ⟨id, _, changed⟩ := (asked c).mp member
    exact inert id (change_due s id c changed).1
  rw [done, unchanged]
  rfl

theorem run_due (s t : State) (grounded : s.Grounded) (done : run s false = .ok t) (id : EntityId) (due : s.Due id) :
    t.definitions.get? id ≠ s.definitions.get? id := by
  obtain ⟨c, changed⟩ := due_changes s grounded id due
  obtain ⟨d, _, _, _, defined, _⟩ := due
  obtain ⟨changes, asked, rfl⟩ := run_quietly s t done
  have member := (asked c).mpr ⟨id, s.definition_alive id d defined, changed⟩
  have stored := apply_changed s changes asked c member
  rw [(change_made s id c changed).1] at stored
  exact fun same => (change_due s id c changed).2 (same.symm.trans stored)

theorem run_inert_iff (s : State) (sound : s.Sound) : run s false = .ok s ↔ ∀ id, ¬ s.Due id := by
  apply Iff.intro
  · exact fun still id due => run_due s s (s.sound_grounded sound) still id due rfl
  · exact run_inert s sound

end Transform

theorem Reading.run_quiescent_iff (s : State) (sound : s.Sound) (derived : s.effects = Effects.ofRules s.rules)
    (rules : List Rule) (effects : Effects) :
    Reading.run { s with rules := rules, effects := effects } false = .ok s ↔ s.Quiescent := by
  have asked : State.tokens { s with rules := rules, effects := effects } = s.tokens := rfl
  have known (b : TokenBoard) (spelled : b.rules = s.rules) :
      State.withRules { s with rules := rules, effects := effects } b.rules = s := by
    rw [State.withRules, spelled, ← derived]
  apply Iff.intro
  · intro done
    obtain ⟨b, read, spelled⟩ := Reading.run_rules _ s false done
    rw [asked] at read
    rw [Reading.run, asked, read, Attempt.ok_bind, known b spelled.symm] at done
    exact ⟨⟨b, read, spelled.symm⟩, (Transform.run_inert_iff s sound).mp done⟩
  · intro quiescent
    obtain ⟨b, read, spelled⟩ := quiescent.spelled
    rw [Reading.run, asked, read, Attempt.ok_bind, known b spelled]
    exact Transform.run_inert s sound quiescent.inert

theorem Reading.run_quietly (s t : State) (done : Reading.run s false = .ok t) :
    ∃ rules definitions, t = { s with rules := rules, effects := Effects.ofRules rules, definitions := definitions } := by
  obtain ⟨b, _, done⟩ := Attempt.bind_ok _ _ _ done
  obtain ⟨changes, _, rfl⟩ := Transform.run_quietly _ t done
  exact ⟨b.rules, _, rfl⟩

namespace Turn

theorem settle_eq (s : State) :
    settle s = Reading.run s false >>= fun read => (Roles.refresh read).map State.markStarts := by
  rw [settle]
  refine congrArg _ (funext fun read => ?_)
  cases Roles.refresh read <;> rfl

theorem cast_writes (s t : State) (done : (Roles.refresh s).map State.markStarts = .ok t) :
    ∃ player goal, t = { s with player := player, goal := goal, starts := s.positions } := by
  have filled (s t : State) (role : Role) (done : Roles.refreshRole s role = .ok t) : ∃ id, t = s.withHolder role id := by
    rw [Roles.refresh_role_eq] at done
    obtain ⟨id, _, done⟩ := Attempt.bind_ok _ _ _ done
    exact ⟨id, (Except.ok.inj done).symm⟩
  cases refreshed : Roles.refresh s with
  | error => simp [refreshed, Except.map] at done
  | ok cast =>
      rw [refreshed] at done
      cases done
      obtain ⟨middle, first, second⟩ := Attempt.bind_ok _ _ _ refreshed
      obtain ⟨player, rfl⟩ := filled s middle .player first
      obtain ⟨goal, rfl⟩ := filled _ cast .goal second
      exact ⟨player, goal, rfl⟩

theorem settle_again_iff (s : State) (sound : s.Sound) (derived : s.effects = Effects.ofRules s.rules)
    (starts : EntityMap Cell) (player goal : Option EntityId)
    (casts : (Roles.refresh { s with starts := starts, player := player, goal := goal }).map State.markStarts = .ok s)
    (rules : List Rule) (effects : Effects) :
    settle { s with starts := starts, player := player, goal := goal, rules := rules, effects := effects } = .ok s ↔
      s.Quiescent := by
  have read := Reading.run_quiescent_iff { s with starts := starts, player := player, goal := goal }
    ⟨sound.placed, sound.known, sound.celled⟩ derived rules effects
  rw [settle_eq]
  apply Iff.intro
  · intro done
    obtain ⟨next, reads, done⟩ := Attempt.bind_ok _ _ _ done
    obtain ⟨spelled, definitions, rfl⟩ := Reading.run_quietly _ next reads
    obtain ⟨_, _, same⟩ := cast_writes _ s done
    have sameRules : s.rules = spelled := congrArg State.rules same
    have sameDefinitions : s.definitions = definitions := congrArg State.definitions same
    rw [← sameRules, ← sameDefinitions, ← derived] at reads
    have quiescent := read.mp reads
    exact ⟨quiescent.spelled, quiescent.inert⟩
  · intro quiescent
    rw [read.mpr ⟨quiescent.spelled, quiescent.inert⟩]
    exact casts

theorem settle_writes (s t : State) (done : settle s = .ok t) :
    t = { s with definitions := t.definitions, rules := t.rules, effects := t.effects, player := t.player,
                 goal := t.goal, starts := s.positions } := by
  rw [settle_eq] at done
  obtain ⟨read, reads, done⟩ := Attempt.bind_ok _ _ _ done
  obtain ⟨_, _, rfl⟩ := Reading.run_quietly s read reads
  obtain ⟨_, _, rfl⟩ := cast_writes _ t done
  rfl

theorem settle_due (s t : State) (grounded : s.Grounded) (done : settle s = .ok t) (id : EntityId) (due : t.Due id) :
    t.definitions.get? id ≠ s.definitions.get? id := by
  rw [settle_eq] at done
  obtain ⟨read, reads, done⟩ := Attempt.bind_ok _ _ _ done
  obtain ⟨b, _, turned⟩ := Attempt.bind_ok _ _ _ reads
  obtain ⟨changes, _, made⟩ := Transform.run_quietly _ read turned
  obtain ⟨_, _, cast⟩ := cast_writes read t done
  have kept : t.definitions = read.definitions := by rw [cast]
  have catalog : t.catalog = s.catalog := by rw [cast, made]; rfl
  have effects : t.effects = (s.withRules b.rules).effects := by rw [cast, made]; rfl
  intro same
  have alike := s.definition_alike t id catalog same
  obtain ⟨d, source, target, object, defined, isObject, noun, transforms, other, found⟩ := due
  rw [kept] at same
  refine Transform.run_due (s.withRules b.rules) read (s.grounded_board _ grounded rfl rfl rfl) turned id ?_ same
  exact ⟨d, source, target, object, alike.symm.trans defined, isObject, noun, effects ▸ transforms, other,
    catalog ▸ found⟩

section Settled

variable (built s : State) (settled : settle built.unread = .ok s)
include settled

theorem settled_casts :
    (Roles.refresh { s with starts := .empty, player := none, goal := none }).map State.markStarts = .ok s := by
  have done := settled
  rw [settle_eq] at done
  obtain ⟨read, reads, done⟩ := Attempt.bind_ok _ _ _ done
  obtain ⟨_, _, rfl⟩ := Reading.run_quietly _ read reads
  obtain ⟨_, _, rfl⟩ := cast_writes _ s done
  exact done

theorem settled_unread : s.unread = { built.unread with definitions := s.definitions } := by
  rw [settle_writes built.unread s settled]
  rfl

end Settled

section Between

variable (catalog : Catalog) (level : Level) (built s : State) (between : s.Between catalog level)
  (settled : settle built.unread = .ok s)
include between settled

theorem settle_unread_iff : settle s.unread = .ok s ↔ s.Quiescent :=
  settle_again_iff s between.sound between.derived .empty none none (settled_casts built s settled) [] .none

theorem settle_settled_iff : settle s = .ok s ↔ s.Quiescent := by
  refine settle_again_iff s between.sound between.derived s.starts s.player s.goal ?_ s.rules s.effects
  have marked : s.markStarts = s := by
    rw [settle_writes built.unread s settled]
    rfl
  have rests : Roles.refresh s = .ok s := Roles.refresh_at_rest s between.rest
  exact (congrArg (Except.map State.markStarts) rests).trans (congrArg Except.ok marked)

end Between

end Turn

end KanjiPuzzle
