import KanjiPuzzle.Proofs.Chain
import KanjiPuzzle.Proofs.Phases

set_option autoImplicit false

/- What a phase can do. Nothing is asked of the state here: whenever a phase answers, it has rewritten its own part of
   the state and left the rest, so every phase keeps the level, the catalog, the starts and the count of moves. -/
namespace KanjiPuzzle

theorem Catalog.get_of_mem (c : Catalog) (d : Definition) (member : d ∈ c.definitions) : c.get d.id = .ok d := by
  have found : c.definitions.find? (·.id == d.id) = some d := by
    have distinct := c.distinct
    generalize c.definitions = definitions at member distinct ⊢
    induction definitions with
    | nil => cases member
    | cons first rest ih =>
        obtain ⟨unique, later⟩ := List.nodup_cons.mp distinct
        rw [List.find?_cons]
        rcases List.mem_cons.mp member with rfl | inside
        · rw [beq_self_eq_true]
        · have other : first.id ≠ d.id := fun same => unique (same ▸ List.mem_map.mpr ⟨d, inside, rfl⟩)
          rw [beq_false_of_ne other]
          exact ih inside later
  rw [Catalog.get, Catalog.find?, found]

namespace EntityMap

variable {α : Type}

def appended : EntityMap α → EntityId → List α → EntityMap α
  | m, _, [] => m
  | m, next, a :: rest => appended (m.insert next a) (next + 1) rest

theorem get_appended (as : List α) (m : EntityMap α) (next id : Int) :
    (m.appended next as).get? id =
      if next ≤ id ∧ id < next + as.length then as[(id - next).toNat]? else m.get? id := by
  induction as generalizing m next with
  | nil =>
      rw [appended, if_neg]
      simp only [List.length_nil]
      omega
  | cons a rest ih =>
      rw [appended, ih, get_insert, List.length_cons]
      by_cases here : next = id
      · have first : (id - next).toNat = 0 := by omega
        rw [if_neg (by omega), if_pos here, if_pos (by omega), first]
        rfl
      · rw [if_neg here]
        by_cases later : next + 1 ≤ id ∧ id < next + 1 + rest.length
        · have further : (id - next).toNat = (id - (next + 1)).toNat + 1 := by omega
          rw [if_pos later, if_pos (by omega), further, List.getElem?_cons_succ]
        · rw [if_neg later, if_neg (by omega)]

end EntityMap

namespace State

theorem judgement_ok (s : State) (id : EntityId) (judge : Definition → Bool) (verdict : Bool)
    (judged : (s.definitionOf id >>= fun d => .ok (judge d)) = Except.ok verdict) :
    ∃ d, s.definitionOf id = .ok d ∧ judge d = verdict := by
  obtain ⟨d, defined, judged⟩ := Attempt.bind_ok _ _ _ judged
  exact ⟨d, defined, Except.ok.inj judged⟩

theorem listed_alive (s : State) (id : EntityId) (definition : DefinitionId)
    (listed : s.definitionIdOf id = .ok definition) : s.Alive id := by
  rw [definitionIdOf] at listed
  split at listed
  case h_1 stored => exact s.alive_of_get id _ stored
  case h_2 => cases listed

theorem stands_of_cell (s : State) (id : EntityId) (cell : Cell) (stands : s.cellOf id = .ok cell) :
    s.positions.get? id = some cell := by
  rw [cellOf] at stands
  split at stands
  case h_1 found => exact found.trans (congrArg some (Except.ok.inj stands))
  case h_2 => cases stands

theorem definition_alive (s : State) (id : EntityId) (d : Definition) (defined : s.definitionOf id = .ok d) :
    s.Alive id := by
  obtain ⟨definition, listed, _⟩ := Attempt.bind_ok _ _ _ defined
  exact s.listed_alive id definition listed

structure Embodies (s : State) (id : EntityId) (d : Definition) (noun : Noun) : Prop where
  defined : s.definitionOf id = .ok d
  isObject : d.isObject = true
  named : d.noun? = some noun

structure Destined (s : State) (id : EntityId) (d : Definition) (source target : Noun) (object : Definition) : Prop where
  embodies : s.Embodies id d source
  transforms : s.effects.targetOf? source = some target
  other : target ≠ source
  found : s.catalog.objectFor? target = some object

def Retold (s t : State) : Prop := ∃ won events, t = { s with won := won, events := events }

def Recast (s t : State) : Prop :=
  ∃ player goal won events, t = { s with player := player, goal := goal, won := won, events := events }

def Thinned (s t : State) : Prop := ∃ gone events, t = { s.remove gone with events := events }

structure Redefines (s : State) (definitions : EntityMap DefinitionId) : Prop where
  same : ∀ id, definitions.contains id = s.definitions.contains id
  carrier : ∀ id, s.isCarrier id = .ok true → isCarrier { s with definitions := definitions } id = .ok true

def Reread (s t : State) : Prop :=
  ∃ rules definitions events, s.Redefines definitions ∧
    t = { s with rules := rules, effects := Effects.ofRules rules, definitions := definitions, events := events }

structure Numbered (s : State) : Prop where
  first : 1 ≤ s.nextId
  living : ∀ id, s.Alive id → 1 ≤ id ∧ id < s.nextId

def Inside (s : State) : Prop := ∀ id cell, s.positions.get? id = some cell → s.onBoard cell = true

structure Upkeep (s t : State) : Prop where
  extent : t.extent = s.extent
  catalog : t.catalog = s.catalog
  starts : t.starts = s.starts
  moves : t.moves = s.moves
  fresh : s.nextId ≤ t.nextId
  survivor : ∀ id, id < s.nextId → t.Alive id → s.Alive id ∧ (s.isCarrier id = .ok true → t.isCarrier id = .ok true)
  numbered : s.Numbered → t.Numbered
  inside : s.Inside → t.Inside

theorem upkeep_trans (s t u : State) (first : s.Upkeep t) (second : t.Upkeep u) : s.Upkeep u := by
  refine ⟨second.extent.trans first.extent, second.catalog.trans first.catalog, second.starts.trans first.starts,
    second.moves.trans first.moves, Int.le_trans first.fresh second.fresh, fun id old alive => ?_,
    fun numbered => second.numbered (first.numbered numbered), fun inside => second.inside (first.inside inside)⟩
  obtain ⟨middle, later⟩ := second.survivor id (Int.lt_of_lt_of_le old first.fresh) alive
  obtain ⟨start, sooner⟩ := first.survivor id old middle
  exact ⟨start, fun carrier => later (sooner carrier)⟩

theorem recast_refl (s : State) : s.Recast s := ⟨s.player, s.goal, s.won, s.events, rfl⟩

theorem recast_trans (s t u : State) (first : s.Recast t) (second : t.Recast u) : s.Recast u := by
  obtain ⟨_, _, _, _, rfl⟩ := first
  obtain ⟨player, goal, won, events, rfl⟩ := second
  exact ⟨player, goal, won, events, rfl⟩

theorem recast_alive (s t : State) (recast : s.Recast t) (id : EntityId) : t.Alive id ↔ s.Alive id := by
  obtain ⟨_, _, _, _, rfl⟩ := recast
  exact Iff.rfl

theorem recast_holder (s : State) (role : Role) (id : Option EntityId) : s.Recast (s.withHolder role id) := by
  cases role
  · exact ⟨id, s.goal, s.won, s.events, rfl⟩
  · exact ⟨s.player, id, s.won, s.events, rfl⟩

theorem retold_refl (s : State) : s.Retold s := ⟨s.won, s.events, rfl⟩

theorem retold_report (s : State) (e : Event) : s.Retold (s.report e) := ⟨s.won, _, rfl⟩

theorem retold_recast (s t : State) (retold : s.Retold t) : s.Recast t := by
  obtain ⟨won, events, rfl⟩ := retold
  exact ⟨s.player, s.goal, won, events, rfl⟩

theorem retold_holder (s t : State) (retold : s.Retold t) (role : Role) : t.holder role = s.holder role := by
  obtain ⟨_, _, rfl⟩ := retold
  cases role <;> rfl

theorem recast_upkeep (s t : State) (recast : s.Recast t) : s.Upkeep t := by
  obtain ⟨_, _, _, _, rfl⟩ := recast
  exact ⟨rfl, rfl, rfl, rfl, Int.le_refl _, fun _ _ alive => ⟨alive, fun carrier => carrier⟩,
    fun numbered => ⟨numbered.first, numbered.living⟩, fun inside => inside⟩

theorem remove_alive_iff (s : State) (gone : List EntityId) (id : EntityId) :
    (s.remove gone).Alive id ↔ id ∉ gone ∧ s.Alive id := by
  rw [Alive, remove, EntityMap.contains_erase_all, Bool.and_eq_true, Bool.not_eq_true', decide_eq_false_iff_not]
  exact Iff.rfl

theorem remove_alive (s : State) (gone : List EntityId) (id : EntityId) (alive : (s.remove gone).Alive id) :
    s.Alive id ∧ (s.remove gone).definitionOf id = s.definitionOf id := by
  obtain ⟨stays, before⟩ := (s.remove_alive_iff gone id).mp alive
  refine ⟨before, ?_⟩
  rw [definitionOf, definitionOf, definitionIdOf, definitionIdOf, remove, EntityMap.get_erase_all, if_neg stays]

theorem remove_upkeep (s : State) (gone : List EntityId) : s.Upkeep (s.remove gone) := by
  refine ⟨rfl, rfl, rfl, rfl, Int.le_refl _, fun id _ alive => ?_,
    fun numbered => ⟨numbered.first, fun id alive => ?_⟩, fun inside id cell stands => ?_⟩
  · obtain ⟨before, same⟩ := s.remove_alive gone id alive
    refine ⟨before, fun carrier => ?_⟩
    rw [isCarrier, same]
    exact carrier
  · exact numbered.living id (s.remove_alive gone id alive).1
  · rw [remove, EntityMap.get_erase_all] at stands
    by_cases erased : id ∈ gone
    · rw [if_pos erased] at stands
      cases stands
    · rw [if_neg erased] at stands
      exact inside id cell stands

theorem thinned_upkeep (s t : State) (thinned : s.Thinned t) : s.Upkeep t := by
  obtain ⟨gone, events, rfl⟩ := thinned
  have removed := s.remove_upkeep gone
  exact ⟨rfl, rfl, rfl, rfl, removed.fresh, removed.survivor,
    fun numbered => ⟨(removed.numbered numbered).first, (removed.numbered numbered).living⟩, removed.inside⟩

theorem reread_upkeep (s t : State) (reread : s.Reread t) : s.Upkeep t := by
  obtain ⟨rules, definitions, events, redefines, rfl⟩ := reread
  have before (id : EntityId) (alive : definitions.contains id = true) : s.Alive id := (redefines.same id).symm.trans alive
  exact ⟨rfl, rfl, rfl, rfl, Int.le_refl _, fun id _ alive => ⟨before id alive, redefines.carrier id⟩,
    fun numbered => ⟨numbered.first, fun id alive => numbered.living id (before id alive)⟩, fun inside => inside⟩

end State

namespace Movement

theorem run_upkeep (s t : State) (id : EntityId) (d : Direction) (done : run s id d = .ok (some t)) : s.Upkeep t := by
  obtain ⟨scene, _, chain, rfl⟩ := run_ok s t id d done
  refine ⟨rfl, rfl, rfl, rfl, Int.le_refl _, fun _ _ alive => ⟨alive, fun carrier => carrier⟩,
    fun numbered => ⟨numbered.first, numbered.living⟩, fun inside => ?_⟩
  refine chain_keeps s d.offset
    (fun scene => ∀ id cell, scene.positions.get? id = some cell → s.onBoard cell = true) ?_ _ _ _ scene chain inside
  intro scene mover origin before _ entered id cell stands
  rw [get_settle] at stands
  by_cases same : mover = id
  · rw [if_pos same] at stands
    cases stands
    exact entered
  · rw [if_neg same] at stands
    exact before id cell stands

end Movement

namespace Fusion

theorem pairing_in_ok (s : State) (taken : List EntityId) (id : EntityId) (first : Definition × Noun) (cell : Cell)
    (p : Pairing) (paired : pairingIn? s taken id first cell = .ok (some p)) :
    p.first = id ∧ p.cell = cell ∧ s.onBoard cell = true ∧
      Attempt.first? (isPartner s taken id) (s.entitiesAt cell) = .ok (some p.second) ∧
      ∃ second recipe output, fusible? s p.second = .ok (some second) ∧
        s.catalog.recipeFor? first.2 second.2 = some recipe ∧ s.catalog.get recipe.output = .ok output ∧
        p.output = output.id ∧ p.message = first.1.glyph ++ " + " ++ second.1.glyph ++ " → " ++ output.glyph := by
  rw [pairingIn?] at paired
  by_cases inside : s.onBoard cell = true
  · rw [if_pos inside] at paired
    obtain ⟨found, partner, paired⟩ := Attempt.bind_ok _ _ _ paired
    cases found with
    | none => cases paired
    | some other =>
        obtain ⟨fuses, fusible, paired⟩ := Attempt.bind_ok _ _ _ paired
        cases fuses with
        | none => cases paired
        | some second =>
            dsimp only at paired
            cases accepted : s.catalog.recipeFor? first.2 second.2 with
            | none =>
                rw [accepted] at paired
                cases paired
            | some recipe =>
                rw [accepted] at paired
                obtain ⟨output, known, paired⟩ := Attempt.bind_ok _ _ _ paired
                cases paired
                exact ⟨rfl, rfl, inside, partner, second, recipe, output, fusible, accepted, known, rfl, rfl⟩
  · rw [if_neg inside] at paired
    cases paired

theorem first_pairing_ok (s : State) (taken : List EntityId) (id : EntityId) (first : Definition × Noun)
    (cells : List Cell) (p : Pairing) (paired : firstPairing? s taken id first cells = .ok (some p)) :
    ∃ cell ∈ cells, pairingIn? s taken id first cell = .ok (some p) := by
  induction cells with
  | nil => cases paired
  | cons cell rest ih =>
      obtain ⟨pairing, here, paired⟩ := Attempt.bind_ok _ _ _ paired
      cases pairing with
      | none =>
          obtain ⟨other, member, there⟩ := ih paired
          exact ⟨other, List.mem_cons_of_mem cell member, there⟩
      | some q =>
          cases paired
          exact ⟨cell, List.mem_cons_self, here⟩

theorem add_pairing_ok (s : State) (found next : List Pairing) (id : EntityId)
    (added : addPairing s found id = .ok next) :
    next = found ∨ ∃ p first origin cell, next = found ++ [p] ∧ id ∉ used found ∧ fusible? s id = .ok (some first) ∧
      s.cellOf id = .ok origin ∧ cell ∈ neighbours origin ∧
      pairingIn? s (used found) id first cell = .ok (some p) := by
  rw [addPairing] at added
  by_cases taken : id ∈ used found
  · rw [if_pos taken] at added
    cases added
    exact .inl rfl
  · rw [if_neg taken] at added
    obtain ⟨fuses, fusible, added⟩ := Attempt.bind_ok _ _ _ added
    cases fuses with
    | none =>
        cases added
        exact .inl rfl
    | some first =>
        obtain ⟨origin, stands, added⟩ := Attempt.bind_ok _ _ _ added
        obtain ⟨pairing, paired, added⟩ := Attempt.bind_ok _ _ _ added
        cases pairing with
        | none =>
            cases added
            exact .inl rfl
        | some p =>
            cases added
            obtain ⟨cell, member, here⟩ := first_pairing_ok s (used found) id first (neighbours origin) p paired
            exact .inr ⟨p, first, origin, cell, rfl, taken, fusible, stands, member, here⟩

theorem pairings_inside (s : State) (found : List Pairing) (chosen : pairings s = .ok found) :
    ∀ p ∈ found, s.onBoard p.cell = true := by
  refine Attempt.through_keeps (fun found => ∀ p ∈ found, s.onBoard p.cell = true) (addPairing s) s.definitions.ids ?_
    [] found (by simp) chosen
  intro found next id _ inside added
  rcases add_pairing_ok s found next id added with rfl | ⟨p, first, _, cell, rfl, _, _, _, _, paired⟩
  · exact inside
  · obtain ⟨_, rfl, entered, _⟩ := pairing_in_ok s (used found) id first cell p paired
    exact List.forall_mem_append.mpr ⟨inside, List.forall_mem_singleton.mpr entered⟩

theorem spawn_all_eq (pairings : List Pairing) (s : State) :
    pairings.foldl spawn s = { s with
      definitions := s.definitions.appended s.nextId (pairings.map Pairing.output)
      positions := s.positions.appended s.nextId (pairings.map Pairing.cell)
      nextId := s.nextId + pairings.length
      events := s.events ++ pairings.map fun p => ⟨.fusion, p.message, [p.cell]⟩ } := by
  induction pairings generalizing s with
  | nil => simp [EntityMap.appended]
  | cons p rest ih =>
      have next : s.nextId + 1 + rest.length = s.nextId + (p :: rest).length := by
        rw [List.length_cons, Int.natCast_succ, Int.add_assoc, Int.add_comm 1]
      rw [List.foldl_cons, ih, ← next]
      simp [spawn, EntityMap.appended]

theorem spawn_upkeep (s : State) (p : Pairing) (entered : s.onBoard p.cell = true) : s.Upkeep (spawn s p) := by
  have alive_iff (id : EntityId) : (spawn s p).Alive id ↔ s.nextId = id ∨ s.Alive id := by
    rw [State.Alive, spawn, EntityMap.contains_insert, Bool.or_eq_true, decide_eq_true_eq]
    exact Iff.rfl
  refine ⟨rfl, rfl, rfl, rfl, Int.le_of_lt (Int.lt_succ s.nextId), fun id old alive => ?_,
    fun numbered => ⟨?_, fun id alive => ?_⟩, fun inside id cell stands => ?_⟩
  · have other : s.nextId ≠ id := (Int.ne_of_lt old).symm
    refine ⟨((alive_iff id).mp alive).resolve_left other, fun carrier => ?_⟩
    rw [State.isCarrier, State.definitionOf, State.definitionIdOf, spawn, EntityMap.get_insert, if_neg other]
    exact carrier
  · exact Int.le_trans numbered.first (Int.le_of_lt (Int.lt_succ s.nextId))
  · rcases (alive_iff id).mp alive with newest | old
    · exact newest ▸ ⟨numbered.first, Int.lt_succ s.nextId⟩
    · have bounds := numbered.living id old
      exact ⟨bounds.1, Int.lt_trans bounds.2 (Int.lt_succ s.nextId)⟩
  · rw [spawn, EntityMap.get_insert] at stands
    by_cases newest : s.nextId = id
    · rw [if_pos newest] at stands
      cases stands
      exact entered
    · rw [if_neg newest] at stands
      exact inside id cell stands

theorem spawn_all_upkeep (s : State) (pairings : List Pairing) (entered : ∀ p ∈ pairings, s.onBoard p.cell = true) :
    s.Upkeep (pairings.foldl spawn s) := by
  induction pairings generalizing s with
  | nil => exact s.recast_upkeep s s.recast_refl
  | cons p rest ih =>
      have spawned := spawn_upkeep s p (entered p List.mem_cons_self)
      exact s.upkeep_trans _ _ spawned (ih (spawn s p) fun q member => entered q (List.mem_cons_of_mem p member))

theorem run_upkeep (s t : State) (done : run s = .ok t) : s.Upkeep t := by
  obtain ⟨found, chosen, done⟩ := Attempt.bind_ok _ _ _ done
  cases done
  exact s.upkeep_trans _ _ (s.remove_upkeep (used found)) (spawn_all_upkeep _ found (pairings_inside s found chosen))

end Fusion

namespace Transform

theorem change_made (s : State) (id : EntityId) (c : Change) (changed : change? s id = .ok (some c)) :
    c.id = id ∧ ∃ d object, s.Destined id d c.source c.target object ∧ c.definition = object.id ∧
      c.message = d.glyph ++ " → " ++ object.glyph ∧ s.positions.get? id = some c.cell := by
  obtain ⟨d, defined, changed⟩ := Attempt.bind_ok _ _ _ changed
  split at changed
  case h_2 => cases changed
  case h_1 source isObject noun =>
    split at changed
    case h_1 => cases changed
    case h_2 target transforms =>
      split at changed
      case isTrue => cases changed
      case isFalse other =>
        split at changed
        case h_1 => cases changed
        case h_2 object found =>
          obtain ⟨cell, stands, changed⟩ := Attempt.bind_ok _ _ _ changed
          cases changed
          exact ⟨rfl, d, object, ⟨⟨defined, isObject, noun⟩, transforms, other, found⟩, rfl, rfl,
            s.stands_of_cell id cell stands⟩

theorem change_ok (s : State) (id : EntityId) (c : Change) (changed : change? s id = .ok (some c)) :
    c.id = id ∧ ∃ object, s.catalog.get c.definition = .ok object ∧ object.isCarrier = true := by
  obtain ⟨same, _, object, destined, becomes, _⟩ := change_made s id c changed
  have fits := List.find?_some destined.found
  rw [Catalog.isObjectFor, Bool.and_eq_true] at fits
  refine ⟨same, object, ?_, ?_⟩
  · rw [becomes]
    exact s.catalog.get_of_mem object (List.mem_of_find?_eq_some destined.found)
  · rw [Definition.isCarrier, eq_of_beq fits.2]
    rfl

theorem apply_definitions (s : State) (changes : List Change) :
    (apply s changes).definitions =
      (changes.map fun c => (c.id, c.definition)).foldl (fun m entry => m.insert entry.1 entry.2) s.definitions := by
  rw [List.foldl_map]
  rfl

theorem apply_get (s : State) (changes : List Change) (id : EntityId) (definition : DefinitionId)
    (found : (apply s changes).definitions.get? id = some definition) :
    (∃ c ∈ changes, c.id = id ∧ c.definition = definition) ∨ s.definitions.get? id = some definition := by
  rw [apply_definitions] at found
  refine (EntityMap.get_fold_insert _ _ id definition found).imp_left fun member => ?_
  obtain ⟨c, listed, same⟩ := List.mem_map.mp member
  cases same
  exact ⟨c, listed, rfl, rfl⟩

theorem apply_same (s : State) (changes : List Change) (living : ∀ c ∈ changes, s.Alive c.id) (id : EntityId) :
    (apply s changes).definitions.contains id = s.definitions.contains id := by
  rw [apply]
  rw [show (∀ c ∈ changes, s.Alive c.id) = ∀ c ∈ changes, s.definitions.contains c.id = true from rfl] at living
  generalize s.definitions = definitions at living ⊢
  induction changes generalizing definitions with
  | nil => rfl
  | cons c rest ih =>
      have kept (id : EntityId) : (definitions.insert c.id c.definition).contains id = definitions.contains id :=
        definitions.contains_insert_present c.id id c.definition (living c List.mem_cons_self)
      refine (ih (definitions.insert c.id c.definition) ?_).trans (kept id)
      exact fun other member => (kept other.id).trans (living other (List.mem_cons_of_mem c member))

theorem apply_redefines (s : State) (changes : List Change)
    (sources : ∀ c ∈ changes, ∃ id, s.Alive id ∧ change? s id = .ok (some c)) :
    s.Redefines (apply s changes).definitions := by
  have living : ∀ c ∈ changes, s.Alive c.id := by
    intro c member
    obtain ⟨id, alive, changed⟩ := sources c member
    exact (change_ok s id c changed).1 ▸ alive
  have same := apply_same s changes living
  refine ⟨same, fun id carrier => ?_⟩
  obtain ⟨d, defined, carries⟩ := s.judgement_ok id Definition.isCarrier true carrier
  obtain ⟨definition, stored⟩ := Option.isSome_iff_exists.mp ((same id).trans (s.definition_alive id d defined))
  rw [State.isCarrier, State.definitionOf, State.definitionIdOf, stored]
  rcases apply_get s changes id definition stored with ⟨c, listed, _, rfl⟩ | kept
  · obtain ⟨source, _, changed⟩ := sources c listed
    obtain ⟨_, object, known, carries⟩ := change_ok s source c changed
    simp only [known, carries, bind, Except.bind]
  · rw [State.definitionOf, State.definitionIdOf, kept] at defined
    rw [defined]
    exact congrArg Except.ok carries

theorem summary_kind (summaries : List Summary) (e : Event) (member : e ∈ summaries.map Summary.event) :
    e.kind = .transform := by
  obtain ⟨summary, _, rfl⟩ := List.mem_map.mp member
  rfl

theorem run_changes (s t : State) (announce : Bool) (done : run s announce = .ok t) :
    ∃ changes, (changes.map Change.id).Pairwise (· < ·) ∧
      (∀ c, c ∈ changes ↔ ∃ id, s.Alive id ∧ change? s id = .ok (some c)) ∧
      t = { apply s changes with events := s.events ++
        if announce then (changes.foldl (fun summaries c => addChange c summaries) []).map Summary.event else [] } := by
  rw [run] at done
  by_cases idle : s.effects.transforms.isEmpty = true
  · rw [if_pos idle] at done
    cases done
    refine ⟨[], .nil, fun c => iff_of_false List.not_mem_nil ?_, by simp [apply]⟩
    rintro ⟨id, _, changed⟩
    obtain ⟨_, _, _, destined, _⟩ := change_made s id c changed
    have transforms := destined.transforms
    rw [Effects.targetOf?, List.isEmpty_iff.mp idle] at transforms
    cases transforms
  · rw [if_neg idle] at done
    obtain ⟨changes, looked, done⟩ := Attempt.bind_ok _ _ _ done
    dsimp only at done
    rw [State.report_all_eq] at done
    cases done
    refine ⟨changes.filterMap id, ?_, fun c => ?_, rfl⟩
    · exact s.definitions.ids_ascending.sublist
        (Attempt.each_found _ Change.id (fun id c changed => (change_made s id c changed).1) _ _ looked)
    · simp only [List.mem_filterMap, id_eq, exists_eq_right, s.alive_iff]
      refine ⟨Attempt.each_mem _ _ _ looked (some c), fun asked => ?_⟩
      obtain ⟨id, listed, changed⟩ := asked
      exact Attempt.mem_each _ _ _ looked id (some c) listed changed

theorem run_ok (s t : State) (announce : Bool) (done : run s announce = .ok t) :
    ∃ changes told, (∀ c, c ∈ changes ↔ ∃ id, s.Alive id ∧ change? s id = .ok (some c)) ∧
      (∀ e ∈ told, announce = true ∧ e.kind = .transform) ∧ t = { apply s changes with events := s.events ++ told } := by
  obtain ⟨changes, _, asked, made⟩ := run_changes s t announce done
  refine ⟨changes, _, asked, ?_, made⟩
  cases announce with
  | true => exact fun e member => ⟨rfl, summary_kind _ e member⟩
  | false => simp

theorem run_redefines (s t : State) (announce : Bool) (done : run s announce = .ok t) :
    ∃ definitions events, s.Redefines definitions ∧ t = { s with definitions := definitions, events := events } := by
  obtain ⟨changes, told, sources, _, rfl⟩ := run_ok s t announce done
  exact ⟨_, _, apply_redefines s changes fun c => (sources c).mp, rfl⟩

end Transform

theorem Reading.run_reread (s t : State) (announce : Bool) (done : Reading.run s announce = .ok t) : s.Reread t := by
  obtain ⟨b, _, done⟩ := Attempt.bind_ok _ _ _ done
  obtain ⟨definitions, events, redefines, rfl⟩ := Transform.run_redefines _ t announce done
  exact ⟨b.rules, definitions, events, ⟨redefines.same, redefines.carrier⟩, rfl⟩

theorem Hazards.strike_thinned (losses : State → List EntityId → Attempt (List EntityId)) (p : Property) (s t : State)
    (done : Hazards.strike losses p s = .ok t) : s.Thinned t := by
  obtain ⟨cells, _, done⟩ := Attempt.bind_ok _ _ _ done
  obtain ⟨struck, _, done⟩ := Attempt.bind_ok _ _ _ done
  dsimp only at done
  rw [State.report_all_eq] at done
  cases done
  exact ⟨_, _, rfl⟩

theorem Victory.run_retold (s t : State) (done : Victory.run s = .ok t) : s.Retold t := by
  rw [Victory.run] at done
  by_cases won : s.won = true
  · rw [if_pos won] at done
    cases done
    exact s.retold_refl
  · rw [if_neg won] at done
    obtain ⟨found, _, done⟩ := Attempt.bind_ok _ _ _ done
    cases found with
    | none =>
        cases done
        exact s.retold_refl
    | some cell =>
        cases done
        exact ⟨true, _, rfl⟩

namespace Turn

theorem report_change_retold (before : List Rule) (s : State) : s.Retold (reportChange before s) := by
  rw [reportChange]
  by_cases same : Rule.setSignature s.rules = Rule.setSignature before
  · rw [if_pos same]
    exact s.retold_refl
  · rw [if_neg same]
    exact s.retold_report _

theorem report_silence_retold (d : Direction) (s : State) : s.Retold (reportSilence d s) := by
  rw [reportSilence]
  by_cases silent : s.events.isEmpty = true
  · rw [if_pos silent]
    exact s.retold_report _
  · rw [if_neg silent]
    exact s.retold_refl

end Turn

end KanjiPuzzle
