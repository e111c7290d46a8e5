import KanjiPuzzle.Proofs.Answers
import KanjiPuzzle.Turn.Play

set_option autoImplicit false

/- What is only shown: glyphs and labels, the name and the hint of a level, the messages of events. -/
namespace KanjiPuzzle

def Definition.plain (d : Definition) : Definition := { d with glyph := "", label := "" }

@[simp] theorem Definition.plain_is_object (d : Definition) : d.plain.isObject = d.isObject := rfl

@[simp] theorem Definition.plain_noun (d : Definition) : d.plain.noun? = d.noun? := rfl

theorem Definition.map_plain_id (ds : List Definition) : (ds.map plain).map Definition.id = ds.map Definition.id := by
  rw [List.map_map]
  rfl

def Catalog.plain (c : Catalog) : Catalog where
  definitions := c.definitions.map Definition.plain
  recipes := c.recipes
  distinct := Definition.map_plain_id c.definitions ▸ c.distinct
  outputs_known := fun r member => by
    obtain ⟨d, listed, same⟩ := c.outputs_known r member
    exact ⟨d.plain, List.mem_map_of_mem listed, same⟩

def Heading.plain (h : Heading) : Heading := ⟨h.id, "", .null⟩

def Event.plain (e : Event) : Event := { e with message := "" }

def State.plain (s : State) : State :=
  { s with heading := s.heading.plain, catalog := s.catalog.plain, events := s.events.map Event.plain }

namespace Catalog

theorem plain_plain (c : Catalog) : c.plain.plain = c.plain := by
  have again : (c.definitions.map Definition.plain).map Definition.plain = c.definitions.map Definition.plain := by
    rw [List.map_map]
    rfl
  simp only [plain, again]

theorem find_plain (c : Catalog) (id : DefinitionId) : c.plain.find? id = (c.find? id).map Definition.plain :=
  List.find?_map

theorem get_plain (c : Catalog) (id : DefinitionId) : c.plain.get id = (c.get id).map Definition.plain := by
  rw [get, get, find_plain]
  cases c.find? id <;> rfl

theorem object_for_plain (c : Catalog) (noun : Noun) :
    c.plain.objectFor? noun = (c.objectFor? noun).map Definition.plain :=
  List.find?_map

theorem recipe_for_plain (c : Catalog) (a b : Noun) : c.plain.recipeFor? a b = c.recipeFor? a b := rfl

end Catalog

namespace State

@[simp] theorem plain_definitions (s : State) : s.plain.definitions = s.definitions := rfl

@[simp] theorem plain_positions (s : State) : s.plain.positions = s.positions := rfl

@[simp] theorem plain_rules (s : State) : s.plain.rules = s.rules := rfl

@[simp] theorem plain_effects (s : State) : s.plain.effects = s.effects := rfl

@[simp] theorem plain_won (s : State) : s.plain.won = s.won := rfl

@[simp] theorem cell_of_plain (s : State) (id : EntityId) : s.plain.cellOf id = s.cellOf id := rfl

@[simp] theorem on_board_plain (s : State) (cell : Cell) : s.plain.onBoard cell = s.onBoard cell := rfl

@[simp] theorem entities_at_plain (s : State) (cell : Cell) : s.plain.entitiesAt cell = s.entitiesAt cell := rfl

@[simp] theorem occupied_cells_plain (s : State) : s.plain.occupiedCells = s.occupiedCells := rfl

theorem plain_plain (s : State) : s.plain.plain = s.plain := by
  have again : (s.events.map Event.plain).map Event.plain = s.events.map Event.plain := by
    rw [List.map_map]
    rfl
  simp only [plain, again, Catalog.plain_plain]
  rfl

theorem plain_report (s : State) (e : Event) : (s.report e).plain = s.plain.report e.plain := by
  simp [plain, report]

theorem report_alike (s t : State) (e : Event) (same : s.plain = t.plain) :
    (s.report e).plain = (t.report e).plain := by
  rw [plain_report, plain_report, same]

theorem retold_alike (s t : State) (kind : EventKind) (told message : String) (same : s.plain = t.plain) :
    ({ s with events := [⟨kind, told, []⟩] } : State).plain = ({ t with events := [⟨kind, message, []⟩] } : State).plain :=
  congrArg (fun u : State => { u with events := [⟨kind, "", []⟩] }) same

theorem plain_report_all (s : State) (es : List Event) : (s.reportAll es).plain = s.plain.reportAll (es.map Event.plain) := by
  induction es generalizing s with
  | nil => rfl
  | cons e rest ih => exact (ih (s.report e)).trans (congrArg (·.reportAll (rest.map Event.plain)) (plain_report s e))

theorem definition_of_plain (s : State) (id : EntityId) :
    s.plain.definitionOf id = (s.definitionOf id).map Definition.plain := by
  rw [definitionOf, definitionOf]
  cases found : s.definitionIdOf id with
  | error cause => exact congrArg (· >>= s.plain.catalog.get) found
  | ok definition => exact (congrArg (· >>= s.plain.catalog.get) found).trans (s.catalog.get_plain definition)

theorem judge_plain {α : Type} (s : State) (id : EntityId) (judge blind : Definition → α)
    (same : ∀ d, judge d.plain = blind d) :
    (do .ok (judge (← s.plain.definitionOf id)) : Attempt α) = (do .ok (blind (← s.definitionOf id))) := by
  rw [definition_of_plain]
  cases s.definitionOf id with
  | error cause => rfl
  | ok d => exact congrArg Except.ok (same d)

theorem has_plain (s : State) (p : Property) : s.plain.has p = s.has p :=
  funext fun id => judge_plain s id _ _ fun _ => rfl

theorem has_grant_plain (s : State) (p : Property) : s.plain.hasGrant p = s.hasGrant p :=
  funext fun id => judge_plain s id _ _ fun _ => rfl

theorem is_pushable_plain (s : State) (id : EntityId) : s.plain.isPushable id = s.isPushable id :=
  judge_plain s id _ _ fun _ => rfl

theorem is_blocking_plain (s : State) (id : EntityId) : s.plain.isBlocking id = s.isBlocking id :=
  judge_plain s id _ _ fun _ => rfl

theorem is_win_contact_plain (s : State) : s.plain.isWinContact = s.isWinContact :=
  funext fun id => judge_plain s id _ _ fun _ => rfl

end State

theorem TokenBoard.place_plain (c : Catalog) (b : TokenBoard) (tile : Tile) : b.place c.plain tile = b.place c tile := by
  rw [place, place, Catalog.get_plain]
  cases c.get tile.definition with
  | error cause => rfl
  | ok d =>
      have token : record tile.id d.plain tile.cell b.cells = record tile.id d tile.cell b.cells := by
        induction b.cells with
        | nil => rfl
        | cons entry rest ih => rw [record, record, ih]; rfl
      simp only [Except.map, bind, Except.bind, token]

theorem State.tokens_plain (s : State) : s.plain.tokens = s.tokens := by
  refine Attempt.through_congr _ _ s.definitions.ids (fun b id _ => ?_) _
  exact congrArg (s.tileOf id >>= ·) (funext fun tile => b.place_plain s.catalog tile)

namespace Movement

theorem clear_plain (s : State) (push : EntityId → Scene → Course Scene) (id : EntityId) :
    clear s.plain push id = clear s push id := by
  funext scene occupant
  rw [clear, clear, State.is_win_contact_plain, State.is_pushable_plain, State.is_blocking_plain]
  rfl

theorem follow_plain (s : State) (drag : EntityId → Scene → Course Scene) (pushing : List EntityId) :
    follow s.plain drag pushing = follow s drag pushing := by
  funext scene follower
  rw [follow, follow, State.has_plain]

theorem advance_plain (s : State) (o : Offset) (budget : Nat) : advance s.plain o budget = advance s o budget := by
  induction budget with
  | zero => rfl
  | succ less ih =>
      funext pushing id scene
      rw [advance, advance, ih, clear_plain, follow_plain]
      rfl

theorem run_plain (s : State) (id : EntityId) (d : Direction) :
    run s.plain id d = (run s id d).map (Option.map State.plain) := by
  rw [run, run, advance_plain, State.plain_positions]
  cases s.positions.get? id with
  | none => rfl
  | some cell =>
      have effort : budget s.plain = budget s := rfl
      simp only [effort]
      cases advance s d.offset (budget s) [] id ⟨s.positions, []⟩ with
      | ok scene => rfl
      | error halt => cases halt <;> rfl

end Movement

namespace Roles

theorem carriers_of_plain (s : State) (noun : Noun) : carriersOf s.plain noun = carriersOf s noun := by
  refine congrArg (Attempt.select · s.definitions.ids) (funext fun id => ?_)
  exact s.judge_plain id (fun d => d.noun? == some noun) _ fun _ => rfl

theorem price_plain (s : State) (p : Property) : price s.plain p = price s p := by
  funext id
  rw [price, price, State.cell_of_plain]
  cases s.cellOf id with
  | error cause => rfl
  | ok cell =>
      exact s.judge_plain id
        (fun d => (if d.isObject then 0 else 100) + (if (grantRules s p).any (·.cells.contains cell) then 20 else 0) +
          (if s.rules.any (·.cells.contains cell) then 5 else 0)) _ fun _ => rfl

theorem first_carrier_plain (s : State) (p : Property) : firstCarrier s.plain p = firstCarrier s p := by
  rw [firstCarrier, firstCarrier, State.has_grant_plain, price_plain, State.plain_definitions]

theorem with_holder_plain (s : State) (role : Role) (id : Option EntityId) :
    (s.withHolder role id).plain = s.plain.withHolder role id := by
  cases role <;> rfl

theorem holder_plain (s : State) (role : Role) : s.plain.holder role = s.holder role := by
  cases role <;> rfl

theorem has_grant_rule_plain (s : State) (p : Property) : hasGrantRule s.plain p = hasGrantRule s p := rfl

theorem kept_plain (s : State) (role : Role) : kept? s.plain role = kept? s role := by
  rw [kept?, kept?, holder_plain, has_grant_rule_plain, State.plain_definitions]

theorem refresh_role_plain (s : State) (role : Role) :
    refreshRole s.plain role = (refreshRole s role).map State.plain := by
  rw [refreshRole, refreshRole, kept_plain, first_carrier_plain, has_grant_rule_plain]
  cases kept? s role with
  | some id => exact congrArg Except.ok (with_holder_plain s role (some id)).symm
  | none =>
      by_cases granted : hasGrantRule s role.property = true
      · rw [if_pos granted, if_pos granted]
        cases firstCarrier s role.property with
        | error cause => rfl
        | ok found => exact congrArg Except.ok (with_holder_plain s role found).symm
      · rw [if_neg granted, if_neg granted]
        exact congrArg Except.ok (with_holder_plain s role none).symm

theorem refresh_plain (s : State) : refresh s.plain = (refresh s).map State.plain := by
  rw [refresh, refresh, refresh_role_plain]
  cases refreshRole s .player with
  | error cause => rfl
  | ok t => exact refresh_role_plain t .goal

theorem climb_plain (s : State) (candidates : List EntityId) (rungs : List (Cell → Bool → Bool)) :
    climb s.plain candidates rungs = climb s candidates rungs := by
  induction rungs with
  | nil => rfl
  | cons rung rest ih =>
      rw [climb, climb, ih]
      rfl

theorem captor_plain (s : State) (r : Rule) (excluded : Option EntityId) :
    captor s.plain r excluded = captor s r excluded := by
  simp only [captor, carriers_of_plain, climb_plain]

theorem is_walker_plain (s : State) (noun : Noun) : isWalker s.plain noun = isWalker s noun :=
  funext fun id => s.judge_plain id (fun d => d.noun? == some noun && s.moved id) _ fun _ => rfl

theorem slot_choice_plain (s : State) (role : Role) : slotChoice s.plain role = slotChoice s role := by
  have anchor : anchor? s.plain role = anchor? s role := by
    rw [anchor?, anchor?, holder_plain]
    rfl
  have choice (r : Rule) : slotChoice? s.plain role r = slotChoice? s role r := by
    funext walker
    rw [slotChoice?, slotChoice?, carriers_of_plain, anchor]
    rfl
  have choices : slotChoicesFor s.plain role = slotChoicesFor s role := by
    funext r
    simp only [slotChoicesFor, is_walker_plain, choice]
    rfl
  rw [slotChoice, slotChoice, choices]
  rfl

end Roles

namespace Hazards

theorem drowned_plain (s : State) : drowned s.plain = drowned s := by
  funext ids
  simp only [drowned, State.has_plain]

theorem melted_plain (s : State) : melted s.plain = melted s := by
  funext ids
  simp only [melted, State.has_plain]

end Hazards

namespace Victory

theorem winning_cell_plain (s : State) : winningCell? s.plain = winningCell? s := by
  have reach : reaches s.plain = reaches s := by
    funext ids id
    rw [reaches, reaches, State.is_win_contact_plain]
  have clear : clears s.plain = clears s := by
    funext ids id
    rw [clears, clears, State.has_plain, reach]
  simp only [winningCell?, reach, clear]
  rfl

end Victory

end KanjiPuzzle
