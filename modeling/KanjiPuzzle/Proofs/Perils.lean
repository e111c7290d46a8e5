import KanjiPuzzle.Proofs.Identity
import KanjiPuzzle.Proofs.Occupancy

set_option autoImplicit false

/- What hazards take. Cell by cell, what sinks takes along whatever neither floats nor sinks, and heat takes whatever
   melts beside it; all else is left as it was. Once both have struck, neither has anything left to take. -/
namespace KanjiPuzzle

namespace State

-- In a cell of the board that holds something that sinks and something that neither floats nor sinks.
def Drowns (s : State) (id : EntityId) : Prop :=
  ∃ cell, s.positions.get? id = some cell ∧ s.onBoard cell = true ∧
    (∃ other, s.positions.get? other = some cell ∧ s.has .sink other = .ok true) ∧
    (∃ other, s.positions.get? other = some cell ∧ s.has .float other = .ok false ∧ s.has .sink other = .ok false) ∧
    (s.has .sink id = .ok true ∨ s.has .float id = .ok false)

-- In a cell of the board with something else that is hot.
def Melts (s : State) (id : EntityId) : Prop :=
  ∃ cell, s.positions.get? id = some cell ∧ s.onBoard cell = true ∧ s.has .melt id = .ok true ∧
    ∃ other, other ≠ id ∧ s.positions.get? other = some cell ∧ s.has .hot other = .ok true

structure Struck (s : State) (lost : EntityId → Prop) (p : Property) (t : State) : Prop where
  gone : ∀ id, lost id → t.definitions.get? id = none ∧ t.positions.get? id = none
  kept : ∀ id, ¬ lost id →
    t.definitions.get? id = s.definitions.get? id ∧ t.positions.get? id = s.positions.get? id
  told : ∃ cells : List Cell, t.events = s.events ++ cells.map (fun cell =>
      ⟨.blocked, s.catalog.propertyGlyph p ++ " triggered", [cell]⟩) ∧
    (∀ cell, cell ∈ cells ↔ ∃ id, lost id ∧ s.positions.get? id = some cell) ∧
    cells.Pairwise fun first later => ∃ a b, s.Lowest first a ∧ s.Lowest later b ∧ a < b
  rest : t = { s with definitions := t.definitions, positions := t.positions, events := t.events }

theorem has_decided (s : State) (grounded : s.Grounded) (p : Property) (id : EntityId) (alive : s.Alive id) :
    s.has p id = .ok true ∨ s.has p id = .ok false := by
  obtain ⟨verdict, judged⟩ : ∃ verdict, s.has p id = .ok verdict :=
    State.judgement_answers _ grounded id alive fun d => s.behaves d p
  cases verdict
  · exact .inr judged
  · exact .inl judged

theorem standing_alive (s : State) (placed : ∀ id, s.positions.contains id = s.definitions.contains id)
    (id : EntityId) (cell : Cell) (stands : s.positions.get? id = some cell) : s.Alive id := by
  rw [Alive, ← placed, EntityMap.contains, stands]
  rfl

end State

namespace Hazards

theorem victim_iff (s : State) (id : EntityId) :
    (do .ok (!(← s.has .float id) && !(← s.has .sink id)) : Attempt Bool) = .ok true ↔
      s.has .float id = .ok false ∧ s.has .sink id = .ok false := by
  cases s.has .float id with
  | error cause => simp [bind, Except.bind]
  | ok floats =>
      cases s.has .sink id with
      | error cause => simp [bind, Except.bind]
      | ok sinks => cases floats <;> cases sinks <;> simp [bind, Except.bind]

theorem melting_iff (s : State) (hot : List EntityId) (id : EntityId) :
    (do .ok ((← s.has .melt id) && hot.any (· != id)) : Attempt Bool) = .ok true ↔
      s.has .melt id = .ok true ∧ ∃ other ∈ hot, other ≠ id := by
  cases s.has .melt id with
  | error cause => simp [bind, Except.bind]
  | ok melts => cases melts <;> simp [bind, Except.bind]

theorem drowned_ok (s : State) (ids gone : List EntityId) (done : drowned s ids = .ok gone) (id : EntityId) :
    id ∈ gone ↔ id ∈ ids ∧ (∃ other ∈ ids, s.has .sink other = .ok true) ∧
      (∃ other ∈ ids, s.has .float other = .ok false ∧ s.has .sink other = .ok false) ∧
      (s.has .sink id = .ok true ∨ s.has .float id = .ok false ∧ s.has .sink id = .ok false) := by
  obtain ⟨sinks, first, done⟩ := Attempt.bind_ok _ _ _ done
  have sinking (other : EntityId) := Attempt.select_ok _ ids sinks first other
  cases sinks with
  | nil =>
      cases done
      refine iff_of_false List.not_mem_nil ?_
      rintro ⟨_, ⟨other, member, sinks⟩, _⟩
      exact List.not_mem_nil ((sinking other).mpr ⟨member, sinks⟩)
  | cons sink others =>
      obtain ⟨victims, second, done⟩ := Attempt.bind_ok _ _ _ done
      have taken (other : EntityId) := (Attempt.select_ok _ ids victims second other).trans
        (and_congr_right fun _ => victim_iff s other)
      obtain ⟨inside, sinks⟩ := (sinking sink).mp List.mem_cons_self
      cases victims with
      | nil =>
          cases done
          refine iff_of_false List.not_mem_nil ?_
          rintro ⟨_, _, ⟨other, member, victim⟩, _⟩
          exact List.not_mem_nil ((taken other).mpr ⟨member, victim⟩)
      | cons victim rest =>
          cases done
          obtain ⟨within, drowns⟩ := (taken victim).mp List.mem_cons_self
          rw [List.mem_append, sinking, taken, ← and_or_left]
          exact and_congr_right fun _ =>
            ⟨fun kind => ⟨⟨sink, inside, sinks⟩, ⟨victim, within, drowns⟩, kind⟩, fun all => all.2.2⟩

theorem melted_ok (s : State) (ids gone : List EntityId) (done : melted s ids = .ok gone) (id : EntityId) :
    id ∈ gone ↔ id ∈ ids ∧ s.has .melt id = .ok true ∧ ∃ other ∈ ids, other ≠ id ∧ s.has .hot other = .ok true := by
  obtain ⟨hot, first, done⟩ := Attempt.bind_ok _ _ _ done
  have heated (other : EntityId) := Attempt.select_ok _ ids hot first other
  cases hot with
  | nil =>
      cases done
      refine iff_of_false List.not_mem_nil ?_
      rintro ⟨_, _, other, member, _, burns⟩
      exact List.not_mem_nil ((heated other).mpr ⟨member, burns⟩)
  | cons source others =>
      rw [Attempt.select_ok _ ids gone done id, melting_iff]
      refine and_congr_right fun _ => and_congr_right fun _ => exists_congr fun other => ?_
      rw [heated, and_assoc, and_comm (a := s.has .hot other = .ok true)]

section Strike

variable (s : State) (losses : State → List EntityId → Attempt (List EntityId)) (lost : EntityId → Prop)

structure Judges : Prop where
  taken : ∀ cell, s.onBoard cell = true → ∃ gone, losses s (s.entitiesAt cell) = .ok gone ∧
    ∀ id, id ∈ gone ↔ s.positions.get? id = some cell ∧ lost id
  confined : ∀ id, lost id → ∃ cell, s.positions.get? id = some cell ∧ s.onBoard cell = true

structure Casualties (affected : List (Cell × List EntityId)) : Prop where
  taken : ∀ entry ∈ affected, entry.2 ≠ [] ∧ ∀ id, id ∈ entry.2 ↔ s.positions.get? id = some entry.1 ∧ lost id
  complete : ∀ id, lost id → ∃ entry ∈ affected, id ∈ entry.2
  order : affected.Pairwise fun first later => ∃ a b, s.Lowest first.1 a ∧ s.Lowest later.1 b ∧ a < b

theorem indexed_cells (cells : List (Cell × List EntityId)) (indexed : s.Indexed cells) :
    cells = (cells.map Prod.fst).map fun cell => (cell, s.entitiesAt cell) := by
  rw [List.map_map]
  refine (List.map_id cells).symm.trans (List.map_congr_left fun entry member => ?_)
  exact Prod.ext rfl (indexed.inside entry member).2

theorem judges_casualties (judges : Judges s losses lost) (cells : List (Cell × List EntityId))
    (indexed : s.Indexed cells) :
    ∃ struck, Attempt.each (fun entry => do .ok (entry.1, ← losses s entry.2)) cells = .ok struck ∧
      Casualties s lost (struck.filter fun entry => !entry.2.isEmpty) := by
  have board : ∀ cell ∈ cells.map Prod.fst, s.onBoard cell = true := by
    intro cell listed
    obtain ⟨entry, member, rfl⟩ := List.mem_map.mp listed
    exact (indexed.inside entry member).1
  have asked (cell : Cell) (listed : cell ∈ cells.map Prod.fst) :
      ∃ entry, (do .ok (cell, ← losses s (s.entitiesAt cell)) : Attempt (Cell × List EntityId)) = .ok entry ∧ True := by
    obtain ⟨gone, answered, _⟩ := judges.taken cell (board cell listed)
    exact ⟨(cell, gone), by rw [answered]; rfl, trivial⟩
  obtain ⟨struck, each, _⟩ := Attempt.each_answers (fun _ => True) _ (cells.map Prod.fst) asked
  have answer (cell : Cell) (entry : Cell × List EntityId)
      (done : (do .ok (cell, ← losses s (s.entitiesAt cell)) : Attempt (Cell × List EntityId)) = .ok entry) :
      entry.1 = cell ∧ losses s (s.entitiesAt cell) = .ok entry.2 := by
    obtain ⟨gone, answered, done⟩ := Attempt.bind_ok _ _ _ done
    cases done
    exact ⟨rfl, answered⟩
  refine ⟨struck, ?_, ?_, ?_, ?_⟩
  · rw [indexed_cells s cells indexed, Attempt.each_map]
    exact each
  · intro entry member
    obtain ⟨listed, filled⟩ := List.mem_filter.mp member
    obtain ⟨cell, known, done⟩ := Attempt.each_mem _ _ _ each entry listed
    obtain ⟨same, answered⟩ := answer cell entry done
    obtain ⟨gone, again, taken⟩ := judges.taken cell (board cell known)
    cases answered.symm.trans again
    exact ⟨by simpa using filled, same ▸ taken⟩
  · intro id doomed
    obtain ⟨cell, stands, inside⟩ := judges.confined id doomed
    have known : cell ∈ cells.map Prod.fst := List.mem_map.mpr ⟨_, indexed.complete id cell stands inside, rfl⟩
    obtain ⟨entry, done, _⟩ := asked cell known
    obtain ⟨same, answered⟩ := answer cell entry done
    obtain ⟨gone, again, taken⟩ := judges.taken cell inside
    cases answered.symm.trans again
    have member := (taken id).mpr ⟨stands, doomed⟩
    refine ⟨entry, List.mem_filter.mpr ⟨Attempt.mem_each _ _ _ each cell entry known done, ?_⟩, member⟩
    simpa using List.ne_nil_of_mem member
  · have keys := Attempt.each_image _ Prod.fst (fun cell entry done => (answer cell entry done).1) _ _ each
    have order : (cells.map Prod.fst).Pairwise fun first later => ∃ a b, s.Lowest first a ∧ s.Lowest later b ∧ a < b :=
      List.pairwise_map.mpr indexed.order
    rw [← keys, List.pairwise_map] at order
    exact order.filter _

theorem casualties_struck (p : Property) (affected : List (Cell × List EntityId))
    (casualties : Casualties s lost affected) :
    s.Struck lost p { s.remove (affected.flatMap Prod.snd) with
      events := s.events ++ affected.map fun entry =>
        ⟨.blocked, s.catalog.propertyGlyph p ++ " triggered", [entry.1]⟩ } := by
  have mem_gone (id : EntityId) : id ∈ affected.flatMap Prod.snd ↔ lost id := by
    rw [List.mem_flatMap]
    constructor
    · rintro ⟨entry, member, inside⟩
      exact (((casualties.taken entry member).2 id).mp inside).2
    · exact casualties.complete id
  refine ⟨fun id doomed => ?_, fun id spared => ?_, ⟨affected.map Prod.fst, ?_, fun cell => ?_, ?_⟩, rfl⟩
  · have member := (mem_gone id).mpr doomed
    exact ⟨(EntityMap.get_erase_all _ _ id).trans (if_pos member), (EntityMap.get_erase_all _ _ id).trans (if_pos member)⟩
  · have stays := mt (mem_gone id).mp spared
    exact ⟨(EntityMap.get_erase_all _ _ id).trans (if_neg stays), (EntityMap.get_erase_all _ _ id).trans (if_neg stays)⟩
  · rw [List.map_map]
    rfl
  · rw [List.mem_map]
    constructor
    · rintro ⟨entry, member, rfl⟩
      obtain ⟨filled, taken⟩ := casualties.taken entry member
      obtain ⟨id, inside⟩ := List.exists_mem_of_ne_nil _ filled
      obtain ⟨stands, doomed⟩ := (taken id).mp inside
      exact ⟨id, doomed, stands⟩
    · rintro ⟨id, doomed, stands⟩
      obtain ⟨entry, member, inside⟩ := casualties.complete id doomed
      have here := (((casualties.taken entry member).2 id).mp inside).1
      exact ⟨entry, member, Option.some.inj (here.symm.trans stands)⟩
  · exact List.pairwise_map.mpr casualties.order

theorem strike_struck (placed : ∀ id, s.positions.contains id = s.definitions.contains id) (p : Property)
    (judges : Judges s losses lost) : ∃ t, strike losses p s = .ok t ∧ s.Struck lost p t := by
  obtain ⟨cells, occupied, indexed⟩ := s.occupied_indexed placed
  obtain ⟨struck, each, casualties⟩ := judges_casualties s losses lost judges cells indexed
  refine ⟨_, ?_, casualties_struck s lost p _ casualties⟩
  rw [strike, occupied, Attempt.ok_bind, each, Attempt.ok_bind]
  dsimp only
  rw [State.report_all_eq]
  rfl

end Strike

section Stable

variable (s t u : State) (grounded : s.Grounded)
include grounded

theorem sink_judges : Judges s drowned s.Drowns := by
  refine ⟨fun cell board => ?_, fun id drowns => ?_⟩
  · have living (id : EntityId) (here : id ∈ s.entitiesAt cell) : s.Alive id :=
      s.standing_alive grounded.placed id cell ((s.mem_entities_at_iff cell id).mp here)
    obtain ⟨gone, done⟩ : ∃ gone, drowned s (s.entitiesAt cell) = .ok gone :=
      drowned_answers { s with rules := [] } grounded (s.entitiesAt cell) living
    refine ⟨gone, done, fun id => ?_⟩
    simp only [drowned_ok s _ gone done id, State.mem_entities_at_iff]
    refine and_congr_right fun stands => ?_
    have decided := s.has_decided grounded .sink id (s.standing_alive grounded.placed id cell stands)
    constructor
    · rintro ⟨sinks, victims, kind⟩
      exact ⟨cell, stands, board, sinks, victims, kind.imp_right And.left⟩
    · rintro ⟨place, here, _, sinks, victims, kind⟩
      cases stands.symm.trans here
      refine ⟨sinks, victims, ?_⟩
      rcases decided with yes | no
      · exact .inl yes
      · exact kind.imp_right fun floats => ⟨floats, no⟩
  · obtain ⟨cell, stands, board, _⟩ := drowns
    exact ⟨cell, stands, board⟩

theorem melt_judges : Judges s melted s.Melts := by
  refine ⟨fun cell board => ?_, fun id melts => ?_⟩
  · have living (id : EntityId) (here : id ∈ s.entitiesAt cell) : s.Alive id :=
      s.standing_alive grounded.placed id cell ((s.mem_entities_at_iff cell id).mp here)
    obtain ⟨gone, done⟩ : ∃ gone, melted s (s.entitiesAt cell) = .ok gone :=
      melted_answers { s with rules := [] } grounded (s.entitiesAt cell) living
    refine ⟨gone, done, fun id => ?_⟩
    simp only [melted_ok s _ gone done id, State.mem_entities_at_iff]
    refine and_congr_right fun stands => ?_
    constructor
    · rintro ⟨melts, other, here, different, burns⟩
      exact ⟨cell, stands, board, melts, other, different, here, burns⟩
    · rintro ⟨place, here, _, melts, other, different, beside, burns⟩
      cases stands.symm.trans here
      exact ⟨melts, other, beside, different, burns⟩
  · obtain ⟨cell, stands, board, _⟩ := melts
    exact ⟨cell, stands, board⟩

theorem sink_struck : ∃ t, sink s = .ok t ∧ s.Struck s.Drowns .sink t :=
  strike_struck s drowned s.Drowns grounded.placed .sink (sink_judges s grounded)

theorem melt_struck : ∃ t, melt s = .ok t ∧ s.Struck s.Melts .melt t :=
  strike_struck s melted s.Melts grounded.placed .melt (melt_judges s grounded)

end Stable

end Hazards

namespace State

section Struck

variable (s t : State) (lost : EntityId → Prop) (p : Property) (struck : s.Struck lost p t)
include struck

theorem struck_nothing (spared : ∀ id, ¬ lost id) : t = s := by
  have definitions := EntityMap.eq_of_get t.definitions s.definitions fun id => (struck.kept id (spared id)).1
  have positions := EntityMap.eq_of_get t.positions s.positions fun id => (struck.kept id (spared id)).2
  obtain ⟨cells, told, where_lost, _⟩ := struck.told
  have none : cells = [] := by
    refine List.eq_nil_iff_forall_not_mem.mpr fun cell member => ?_
    obtain ⟨id, doomed, _⟩ := (where_lost cell).mp member
    exact spared id doomed
  rw [none, List.map_nil, List.append_nil] at told
  have rest := struck.rest
  rw [definitions, positions, told] at rest
  exact rest

theorem struck_stands (id : EntityId) (cell : Cell) (stands : t.positions.get? id = some cell) :
    ¬ lost id ∧ s.positions.get? id = some cell ∧ ∀ q, t.has q id = s.has q id := by
  have spared : ¬ lost id := fun doomed => by
    rw [(struck.gone id doomed).2] at stands
    cases stands
  obtain ⟨definition, position⟩ := struck.kept id spared
  refine ⟨spared, position ▸ stands, fun q => ?_⟩
  have rest := struck.rest
  have catalog : t.catalog = s.catalog := by rw [rest]
  have effects : t.effects = s.effects := by rw [rest]
  rw [has, has, s.definition_alike t id catalog definition]
  refine congrArg _ (funext fun d => ?_)
  rw [behaves, behaves, granted, granted, effects]

theorem struck_board (cell : Cell) : t.onBoard cell = s.onBoard cell := by
  rw [struck.rest]
  rfl

theorem struck_grounded (grounded : s.Grounded) : t.Grounded := by
  have catalog : t.catalog = s.catalog := by rw [struck.rest]
  refine ⟨fun id => ?_, fun id definition stored => ?_, fun _ member => nomatch member⟩
  · by_cases doomed : lost id
    · obtain ⟨definition, position⟩ := struck.gone id doomed
      show (t.positions.get? id).isSome = (t.definitions.get? id).isSome
      rw [definition, position]
      rfl
    · obtain ⟨definition, position⟩ := struck.kept id doomed
      have placed : (s.positions.get? id).isSome = (s.definitions.get? id).isSome := grounded.placed id
      rw [← definition, ← position] at placed
      exact placed
  · have spared : ¬ lost id := fun doomed => by
      rw [(struck.gone id doomed).1] at stored
      cases stored
    rw [(struck.kept id spared).1] at stored
    exact catalog ▸ grounded.known id definition stored

end Struck

end State

namespace Hazards

theorem struck_settled (s t u : State) (sunk : s.Struck s.Drowns .sink t) (melted : t.Struck t.Melts .melt u)
    (id : EntityId) : ¬ u.Drowns id ∧ ¬ u.Melts id := by
  have board (cell : Cell) : u.onBoard cell = t.onBoard cell := t.struck_board u _ _ melted cell
  have cooled := t.struck_stands u _ _ melted
  constructor
  · rintro ⟨cell, _, inside, ⟨sink, here, sinks⟩, ⟨victim, beside, floats, heavy⟩, _⟩
    obtain ⟨_, here, same⟩ := cooled sink cell here
    obtain ⟨spared, here, before⟩ := s.struck_stands t _ _ sunk sink cell here
    obtain ⟨_, beside, alike⟩ := cooled victim cell beside
    obtain ⟨_, beside, sooner⟩ := s.struck_stands t _ _ sunk victim cell beside
    rw [same, before] at sinks
    rw [alike, sooner] at floats heavy
    rw [board, s.struck_board t _ _ sunk] at inside
    exact spared ⟨cell, here, inside, ⟨sink, here, sinks⟩, ⟨victim, beside, floats, heavy⟩, .inl sinks⟩
  · rintro ⟨cell, here, inside, melts, other, different, beside, burns⟩
    obtain ⟨spared, here, same⟩ := cooled id cell here
    obtain ⟨_, beside, alike⟩ := cooled other cell beside
    rw [same] at melts
    rw [alike] at burns
    rw [board] at inside
    exact spared ⟨cell, here, inside, melts, other, different, beside, burns⟩

theorem hazards_take_their_own (s : State) (placed : ∀ id, s.positions.contains id = s.definitions.contains id)
    (known : ∀ id definition, s.definitions.get? id = some definition → s.catalog.contains definition = true) :
    (∃ t, sink s = .ok t ∧ s.Struck s.Drowns .sink t) ∧ (∃ t, melt s = .ok t ∧ s.Struck s.Melts .melt t) ∧
      ∃ t u, sink s = .ok t ∧ melt t = .ok u ∧ sink u = .ok u ∧ melt u = .ok u := by
  have grounded : s.Grounded := ⟨placed, known, fun _ member => nomatch member⟩
  obtain ⟨t, sinks, sunk⟩ := sink_struck s grounded
  have afloat := s.struck_grounded t s.Drowns .sink sunk grounded
  obtain ⟨u, melts, melted⟩ := melt_struck t afloat
  have cooled := t.struck_grounded u t.Melts .melt melted afloat
  have settled := struck_settled s t u sunk melted
  obtain ⟨v, again, still⟩ := sink_struck u cooled
  obtain ⟨w, anew, cold⟩ := melt_struck u cooled
  cases u.struck_nothing v u.Drowns .sink still fun id => (settled id).1
  cases u.struck_nothing w u.Melts .melt cold fun id => (settled id).2
  exact ⟨⟨t, sinks, sunk⟩, melt_struck s grounded, t, u, sinks, melts, again, anew⟩

def cauldronTiles : List Tile :=
  [⟨1, "obj-fire", ⟨0, 1⟩⟩, ⟨2, "obj-water", ⟨0, 0⟩⟩, ⟨3, "obj-rock", ⟨0, 0⟩⟩, ⟨4, "obj-gate", ⟨1, 0⟩⟩,
    ⟨5, "obj-water", ⟨1, 0⟩⟩, ⟨6, "obj-volcano", ⟨2, 0⟩⟩, ⟨7, "obj-tree", ⟨2, 0⟩⟩, ⟨8, "obj-fire", ⟨3, 0⟩⟩,
    ⟨9, "obj-fire", ⟨0, 1⟩⟩, ⟨10, "obj-water", ⟨4, 0⟩⟩, ⟨11, "obj-rock", ⟨4, 0⟩⟩]

def cauldron : State :=
  .ofTiles ⟨4, 2⟩ cauldronTiles ⟨[("gate", [.float]), ("tree", [.melt]), ("fire", [.hot, .melt])], []⟩ none

theorem cauldron_cools :
    ∃ t u, sink cauldron = .ok t ∧ cauldron.Struck cauldron.Drowns .sink t ∧ melt t = .ok u ∧ sink u = .ok u ∧
      melt u = .ok u ∧ u.definitions.ids = [4, 5, 6, 8, 10, 11] ∧
      u.events.map Event.cells = [[⟨0, 0⟩], [⟨0, 1⟩], [⟨2, 0⟩]] := by
  obtain ⟨⟨t, sinks, sunk⟩, _, again, u, same, melts, still, cold⟩ := hazards_take_their_own cauldron
    (State.of_tiles_placed _ _ _ _) (State.of_tiles_known _ _ _ _ (by decide))
  cases sinks.symm.trans same
  have ran : (sink cauldron >>= melt) = .ok u := by rw [sinks, Attempt.ok_bind, melts]
  refine ⟨t, u, sinks, sunk, melts, still, cold, ?_, ?_⟩
  · exact Except.ok.inj (congrArg (Except.map fun u : State => u.definitions.ids) ran.symm)
  · exact Except.ok.inj (congrArg (Except.map fun u : State => u.events.map Event.cells) ran.symm)

end Hazards

end KanjiPuzzle
