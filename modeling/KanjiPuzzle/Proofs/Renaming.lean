import KanjiPuzzle.Proofs.Nameless
import KanjiPuzzle.Turn.Play

set_option autoImplicit false

/- Other numbers for the entities of a game, in the order of the old ones. Every map, list and question by which a turn
   looks at a game gives the renamed game the renamed answer, or fails for the renamed cause. -/
namespace KanjiPuzzle

structure Renaming where
  image : EntityId → EntityId
  increasing : ∀ a b, a < b → image a < image b

namespace Renaming

variable (f : Renaming)

@[simp] theorem less_iff (a b : EntityId) : f.image a < f.image b ↔ a < b := by
  constructor
  · intro less
    rcases Int.lt_trichotomy a b with before | same | after
    · exact before
    · rw [same] at less
      exact absurd less (Int.lt_irrefl _)
    · exact absurd (f.increasing b a after) (Int.lt_asymm less)
  · exact f.increasing a b

@[simp] theorem same_iff (a b : EntityId) : f.image a = f.image b ↔ a = b := by
  constructor
  · intro same
    rcases Int.lt_trichotomy a b with before | equal | after
    · exact absurd same (Int.ne_of_lt (f.increasing a b before))
    · exact equal
    · exact absurd same.symm (Int.ne_of_lt (f.increasing b a after))
  · exact congrArg f.image

@[simp] theorem mem_iff (id : EntityId) (ids : List EntityId) : f.image id ∈ ids.map f.image ↔ id ∈ ids := by
  simp

def fault : Fault → Fault
  | .noEntity id => .noEntity (f.image id)
  | cause => cause

end Renaming

namespace EntityMap

variable {α : Type} (f : Renaming)

def renamed (m : EntityMap α) (f : Renaming) : EntityMap α where
  entries := m.entries.map fun entry => (f.image entry.1, entry.2)
  ascending := List.pairwise_map.mpr (m.ascending.imp fun less => f.increasing _ _ less)

theorem eq_of_entries (m n : EntityMap α) (same : m.entries = n.entries) : m = n := by
  cases m
  cases n
  cases same
  rfl

theorem lookup_renamed (id : EntityId) (entries : List (EntityId × α)) :
    lookup (f.image id) (entries.map fun entry => (f.image entry.1, entry.2)) = lookup id entries := by
  induction entries with
  | nil => rfl
  | cons head rest ih => simp only [List.map_cons, lookup, f.same_iff, ih]

@[simp] theorem get_renamed (m : EntityMap α) (id : EntityId) : (m.renamed f).get? (f.image id) = m.get? id :=
  lookup_renamed f id m.entries

@[simp] theorem contains_renamed (m : EntityMap α) (id : EntityId) :
    (m.renamed f).contains (f.image id) = m.contains id := by
  rw [contains, contains, get_renamed]

@[simp] theorem ids_renamed (m : EntityMap α) : (m.renamed f).ids = m.ids.map f.image := by
  rw [ids, ids, renamed, List.map_map, List.map_map]
  rfl

@[simp] theorem size_renamed (m : EntityMap α) : (m.renamed f).size = m.size := List.length_map _

theorem put_renamed (id : EntityId) (value : α) (entries : List (EntityId × α)) :
    put (f.image id) value (entries.map fun entry => (f.image entry.1, entry.2)) =
      (put id value entries).map fun entry => (f.image entry.1, entry.2) := by
  induction entries with
  | nil => rfl
  | cons head rest ih =>
      simp only [List.map_cons, put, f.less_iff, f.same_iff, ih]
      by_cases less : id < head.1
      · rw [if_pos less, if_pos less]
        rfl
      · rw [if_neg less, if_neg less]
        by_cases same : id = head.1
        · rw [if_pos same, if_pos same]
          rfl
        · rw [if_neg same, if_neg same]
          rfl

theorem insert_renamed (m : EntityMap α) (id : EntityId) (value : α) :
    (m.renamed f).insert (f.image id) value = (m.insert id value).renamed f :=
  eq_of_entries _ _ (put_renamed f id value m.entries)

theorem erase_renamed (m : EntityMap α) (id : EntityId) : (m.renamed f).erase (f.image id) = (m.erase id).renamed f := by
  apply eq_of_entries
  simp only [erase, renamed, List.filter_map, Function.comp_def, ne_eq, f.same_iff]

theorem erase_all_renamed (m : EntityMap α) (gone : List EntityId) :
    (m.renamed f).eraseAll (gone.map f.image) = (m.eraseAll gone).renamed f := by
  rw [eraseAll, eraseAll, List.foldl_map]
  induction gone generalizing m with
  | nil => rfl
  | cons id rest ih => rw [List.foldl_cons, List.foldl_cons, erase_renamed, ih]

end EntityMap

namespace Attempt

def both {ε ε' α β : Type} (e : ε → ε') (g : α → β) : Except ε α → Except ε' β
  | .ok a => .ok (g a)
  | .error cause => .error (e cause)

theorem bind_both {ε ε' α α' β β' : Type} (e : ε → ε') (h : α → α') (g : β → β') (x : Except ε α) (k : α → Except ε β)
    (k' : α' → Except ε' β') (same : ∀ a, k' (h a) = both e g (k a)) : (both e h x >>= k') = both e g (x >>= k) := by
  cases x with
  | error cause => rfl
  | ok a => exact same a

variable {α α' β β' σ σ' : Type} (e : Fault → Fault) (h : α → α')

theorem each_both (g : β → β') (k : α → Attempt β) (k' : α' → Attempt β') (same : ∀ a, k' (h a) = both e g (k a))
    (as : List α) : each k' (as.map h) = both e (List.map g) (each k as) := by
  induction as with
  | nil => rfl
  | cons a rest ih =>
      rw [List.map_cons, each, each, same, ih]
      apply bind_both
      intro b
      apply bind_both
      intro bs
      rfl

theorem select_both (test : α → Attempt Bool) (test' : α' → Attempt Bool) (same : ∀ a, test' (h a) = both e id (test a))
    (as : List α) : select test' (as.map h) = both e (List.map h) (select test as) := by
  induction as with
  | nil => rfl
  | cons a rest ih =>
      rw [List.map_cons, select, select, same, ih]
      apply bind_both
      intro keep
      apply bind_both
      intro kept
      cases keep with
      | true => rfl
      | false => rfl

theorem first_both (test : α → Attempt Bool) (test' : α' → Attempt Bool) (same : ∀ a, test' (h a) = both e id (test a))
    (as : List α) : first? test' (as.map h) = both e (Option.map h) (first? test as) := by
  induction as with
  | nil => rfl
  | cons a rest ih =>
      rw [List.map_cons, first?, first?, same]
      apply bind_both
      intro verdict
      cases verdict with
      | true => rfl
      | false => exact ih

theorem exists_both (test : α → Attempt Bool) (test' : α' → Attempt Bool)
    (same : ∀ a, test' (h a) = both e id (test a)) (as : List α) :
    exists? test' (as.map h) = both e id (exists? test as) := by
  rw [exists?, exists?, first_both e h test test' same]
  apply bind_both
  intro found
  cases found with
  | none => rfl
  | some a => rfl

theorem through_both (look : σ → σ') (step : σ → α → Attempt σ) (step' : σ' → α' → Attempt σ')
    (same : ∀ s a, step' (look s) (h a) = both e look (step s a)) (as : List α) (s : σ) :
    through step' (look s) (as.map h) = both e look (through step s as) := by
  induction as generalizing s with
  | nil => rfl
  | cons a rest ih =>
      rw [List.map_cons, through, through, same]
      apply bind_both
      exact ih

end Attempt

theorem least_map {α β : Type} (h : α → β) (less : α → α → Bool) (less' : β → β → Bool)
    (same : ∀ a b, less' (h a) (h b) = less a b) (as : List α) : least? less' (as.map h) = (least? less as).map h := by
  have from_best (best : α) (rest : List α) : leastFrom less' (h best) (rest.map h) = h (leastFrom less best rest) := by
    induction rest generalizing best with
    | nil => rfl
    | cons a later ih =>
        rw [List.map_cons, leastFrom, leastFrom, same]
        by_cases smaller : less a best = true
        · rw [if_pos smaller, if_pos smaller, ih]
        · rw [if_neg smaller, if_neg smaller, ih]
  cases as with
  | nil => rfl
  | cons a rest => exact congrArg some (from_best a rest)

theorem keyed_less_renamed (f : Renaming) (a b : Nat × EntityId) :
    keyedLess (a.1, f.image a.2) (b.1, f.image b.2) = keyedLess a b := by
  simp only [keyedLess, f.less_iff]

namespace TokenBoard

def renamedTokens (f : Renaming) (t : CellTokens) : CellTokens :=
  { t with
    nouns := t.nouns.map fun token => (f.image token.1, token.2)
    properties := t.properties.map fun token => (f.image token.1, token.2) }

def renamed (b : TokenBoard) (f : Renaming) : TokenBoard :=
  ⟨b.extent, b.cells.map fun entry => (entry.1, renamedTokens f entry.2)⟩

theorem add_renamed (f : Renaming) (t : CellTokens) (id : EntityId) (d : Definition) :
    (renamedTokens f t).add (f.image id) d = renamedTokens f (t.add id d) := by
  cases named : d.noun? <;> cases said : d.property? <;> simp [CellTokens.add, renamedTokens, named, said]

theorem record_renamed (f : Renaming) (id : EntityId) (d : Definition) (cell : Cell) (cells : List (Cell × CellTokens)) :
    record (f.image id) d cell (cells.map fun entry => (entry.1, renamedTokens f entry.2)) =
      (record id d cell cells).map fun entry => (entry.1, renamedTokens f entry.2) := by
  induction cells with
  | nil => exact congrArg (fun tokens => [(cell, tokens)]) (add_renamed f .empty id d)
  | cons head rest ih =>
      simp only [List.map_cons, record, ih, add_renamed]
      by_cases same : head.1 = cell
      · rw [if_pos same, if_pos same]
        rfl
      · rw [if_neg same, if_neg same]
        rfl

theorem place_renamed (f : Renaming) (catalog : Catalog) (b : TokenBoard) (tile : Tile) :
    place catalog (b.renamed f) ⟨f.image tile.id, tile.definition, tile.cell⟩ =
      Attempt.both f.fault (TokenBoard.renamed · f) (place catalog b tile) := by
  rw [place, place]
  have inside : (b.renamed f).extent.contains tile.cell = b.extent.contains tile.cell := rfl
  rw [inside]
  cases b.extent.contains tile.cell with
  | false => rfl
  | true =>
      rw [if_pos rfl, if_pos rfl, Catalog.get]
      cases catalog.find? tile.definition with
      | none => rfl
      | some d =>
          have tokens := record_renamed f tile.id d tile.cell b.cells
          exact congrArg (fun cells => Except.ok (TokenBoard.mk b.extent cells)) tokens

theorem rules_renamed (f : Renaming) (b : TokenBoard) : (b.renamed f).rules = b.rules := by
  have same : (b.renamed f).nameless = b.nameless := by
    simp [renamed, nameless, renamedTokens, CellTokens.nameless, Function.comp_def]
  rw [← nameless_rules, same, nameless_rules]

end TokenBoard

namespace State

def renamed (s : State) (f : Renaming) : State :=
  { s with
    definitions := s.definitions.renamed f
    positions := s.positions.renamed f
    starts := s.starts.renamed f
    nextId := f.image s.nextId
    player := s.player.map f.image
    goal := s.goal.map f.image }

variable (s : State) (f : Renaming)

@[simp] theorem renamed_definitions : (s.renamed f).definitions = s.definitions.renamed f := rfl

@[simp] theorem renamed_positions : (s.renamed f).positions = s.positions.renamed f := rfl

@[simp] theorem renamed_starts : (s.renamed f).starts = s.starts.renamed f := rfl

@[simp] theorem renamed_player : (s.renamed f).player = s.player.map f.image := rfl

@[simp] theorem renamed_goal : (s.renamed f).goal = s.goal.map f.image := rfl

@[simp] theorem renamed_catalog : (s.renamed f).catalog = s.catalog := rfl

@[simp] theorem renamed_rules : (s.renamed f).rules = s.rules := rfl

@[simp] theorem renamed_effects : (s.renamed f).effects = s.effects := rfl

@[simp] theorem renamed_on_board (cell : Cell) : (s.renamed f).onBoard cell = s.onBoard cell := rfl

theorem holder_renamed (role : Role) : (s.renamed f).holder role = (s.holder role).map f.image := by
  cases role with
  | player => rfl
  | goal => rfl

theorem with_holder_renamed (role : Role) (id : Option EntityId) :
    (s.renamed f).withHolder role (id.map f.image) = (s.withHolder role id).renamed f := by
  cases role with
  | player => rfl
  | goal => rfl

theorem report_all_renamed (es : List Event) : (s.renamed f).reportAll es = (s.reportAll es).renamed f := by
  induction es generalizing s with
  | nil => rfl
  | cons e rest ih => exact ih (s.report e)

theorem remove_renamed (gone : List EntityId) : (s.renamed f).remove (gone.map f.image) = (s.remove gone).renamed f := by
  rw [remove, remove, renamed_definitions, renamed_positions, EntityMap.erase_all_renamed, EntityMap.erase_all_renamed]
  rfl

theorem cell_of_renamed (id : EntityId) :
    (s.renamed f).cellOf (f.image id) = Attempt.both f.fault (fun cell => cell) (s.cellOf id) := by
  rw [cellOf, cellOf, renamed_positions, EntityMap.get_renamed]
  cases s.positions.get? id with
  | none => rfl
  | some cell => rfl

theorem definition_id_of_renamed (id : EntityId) :
    (s.renamed f).definitionIdOf (f.image id) = Attempt.both f.fault (fun d => d) (s.definitionIdOf id) := by
  rw [definitionIdOf, definitionIdOf, renamed_definitions, EntityMap.get_renamed]
  cases s.definitions.get? id with
  | none => rfl
  | some definition => rfl

theorem get_both (c : Catalog) (definition : DefinitionId) :
    c.get definition = Attempt.both f.fault (fun d => d) (c.get definition) := by
  rw [Catalog.get]
  cases c.find? definition with
  | none => rfl
  | some d => rfl

theorem definition_of_renamed (id : EntityId) :
    (s.renamed f).definitionOf (f.image id) = Attempt.both f.fault (fun d => d) (s.definitionOf id) := by
  rw [definitionOf, definitionOf, definition_id_of_renamed]
  apply Attempt.bind_both
  exact get_both f s.catalog

theorem judge_renamed {α β : Type} (g : α → β) (judge : Definition → α) (judge' : Definition → β)
    (same : ∀ d, judge' d = g (judge d)) (id : EntityId) :
    (do .ok (judge' (← (s.renamed f).definitionOf (f.image id))) : Attempt β) =
      Attempt.both f.fault g (do .ok (judge (← s.definitionOf id))) := by
  rw [definition_of_renamed]
  apply Attempt.bind_both
  intro d
  exact congrArg Except.ok (same d)

theorem beq_map_image (holder : Option EntityId) (id : EntityId) :
    (holder.map f.image == some (f.image id)) = (holder == some id) := by
  cases holder with
  | none => rfl
  | some other =>
      rw [Bool.eq_iff_iff]
      simp

theorem pushable_renamed (id : EntityId) (d : Definition) :
    (s.renamed f).pushable (f.image id) d = s.pushable id d := by
  rw [pushable, pushable, renamed_player, beq_map_image]
  rfl

theorem has_renamed (p : Property) (id : EntityId) :
    (s.renamed f).has p (f.image id) = Attempt.both f.fault (fun verdict => verdict) (s.has p id) :=
  s.judge_renamed f (fun verdict => verdict) (fun d => s.behaves d p) _ (fun _ => rfl) id

theorem has_grant_renamed (p : Property) (id : EntityId) :
    (s.renamed f).hasGrant p (f.image id) = Attempt.both f.fault (fun verdict => verdict) (s.hasGrant p id) :=
  s.judge_renamed f (fun verdict => verdict) (fun d => s.granted d p) _ (fun _ => rfl) id

theorem is_pushable_renamed (id : EntityId) :
    (s.renamed f).isPushable (f.image id) = Attempt.both f.fault (fun verdict => verdict) (s.isPushable id) :=
  s.judge_renamed f (fun verdict => verdict) (s.pushable id) _ (s.pushable_renamed f id) id

theorem is_blocking_renamed (id : EntityId) :
    (s.renamed f).isBlocking (f.image id) = Attempt.both f.fault (fun verdict => verdict) (s.isBlocking id) := by
  apply s.judge_renamed f
  intro d
  rw [blocking, blocking, pushable_renamed]
  rfl

theorem is_win_contact_renamed (id : EntityId) :
    (s.renamed f).isWinContact (f.image id) = Attempt.both f.fault (fun verdict => verdict) (s.isWinContact id) := by
  apply s.judge_renamed f
  intro d
  rw [winContact, winContact, renamed_goal, beq_map_image]
  rfl

theorem moved_renamed (id : EntityId) : (s.renamed f).moved (f.image id) = s.moved id := by
  simp only [moved, renamed_starts, renamed_positions, EntityMap.get_renamed]

theorem entities_at_renamed (cell : Cell) : (s.renamed f).entitiesAt cell = (s.entitiesAt cell).map f.image := by
  rw [entitiesAt, entitiesAt, renamed_positions, EntityMap.renamed, List.filter_map, List.map_map, List.map_map]
  rfl

theorem add_occupant_renamed (cell : Cell) (id : EntityId) (cells : List (Cell × List EntityId)) :
    addOccupant cell (f.image id) (cells.map fun entry => (entry.1, entry.2.map f.image)) =
      (addOccupant cell id cells).map fun entry => (entry.1, entry.2.map f.image) := by
  induction cells with
  | nil => rfl
  | cons head rest ih =>
      simp only [List.map_cons, addOccupant, ih]
      by_cases same : head.1 = cell
      · rw [if_pos same, if_pos same, List.map_cons, List.map_append]
        rfl
      · rw [if_neg same, if_neg same]
        rfl

theorem occupied_renamed :
    (s.renamed f).occupiedCells =
      Attempt.both f.fault (List.map fun entry => (entry.1, entry.2.map f.image)) s.occupiedCells := by
  rw [occupiedCells, occupiedCells, renamed_definitions, EntityMap.ids_renamed,
    Attempt.each_both f.fault f.image (fun entry : EntityId × Cell => (f.image entry.1, entry.2))
      (fun id => do .ok (id, ← s.cellOf id))]
  · apply Attempt.bind_both
    intro placed
    apply congrArg Except.ok
    rw [List.filter_map]
    have inside : (fun entry : EntityId × Cell => (s.renamed f).onBoard entry.2) ∘
        (fun entry : EntityId × Cell => (f.image entry.1, entry.2)) = fun entry => s.onBoard entry.2 := rfl
    rw [inside]
    generalize placed.filter (fun entry => s.onBoard entry.2) = entries
    have gather (cells : List (Cell × List EntityId)) :
        (entries.map fun entry : EntityId × Cell => (f.image entry.1, entry.2)).foldl
            (fun cells entry => addOccupant entry.2 entry.1 cells) (cells.map fun entry => (entry.1, entry.2.map f.image)) =
          (entries.foldl (fun cells entry => addOccupant entry.2 entry.1 cells) cells).map
            fun entry => (entry.1, entry.2.map f.image) := by
      induction entries generalizing cells with
      | nil => rfl
      | cons entry rest ih => rw [List.map_cons, List.foldl_cons, List.foldl_cons, add_occupant_renamed, ih]
    exact gather []
  · intro id
    rw [cell_of_renamed]
    apply Attempt.bind_both
    intro cell
    rfl

theorem tokens_renamed :
    (s.renamed f).tokens = Attempt.both f.fault (TokenBoard.renamed · f) s.tokens := by
  have tile (id : EntityId) : (s.renamed f).tileOf (f.image id) =
      Attempt.both f.fault (fun tile : Tile => ⟨f.image tile.id, tile.definition, tile.cell⟩) (s.tileOf id) := by
    rw [tileOf, tileOf, definition_id_of_renamed, cell_of_renamed]
    apply Attempt.bind_both
    intro definition
    apply Attempt.bind_both
    intro cell
    rfl
  rw [tokens, tokens, renamed_definitions, EntityMap.ids_renamed]
  refine Attempt.through_both f.fault f.image (TokenBoard.renamed · f)
    (fun b id => do b.place s.catalog (← s.tileOf id)) _ ?_ s.definitions.ids (TokenBoard.empty s.extent)
  intro b id
  rw [tile]
  apply Attempt.bind_both
  exact TokenBoard.place_renamed f s.catalog b

end State

end KanjiPuzzle
