import KanjiPuzzle.Board.Tokens
import KanjiPuzzle.Catalog.Standard
import KanjiPuzzle.Proofs.Soundness
import KanjiPuzzle.Turn.Movement

set_option autoImplicit false

/- Chains that succeed, as derivations. An entity that goes one cell on clears its new cell, stands in it, and is
   followed. What one step keeps, a whole chain keeps. -/
namespace KanjiPuzzle

namespace Cell

def advance (c : Cell) (o : Offset) (steps : Nat) : Cell := ⟨c.x + o.dx * steps, c.y + o.dy * steps⟩

theorem advance_zero (c : Cell) (o : Offset) : c.advance o 0 = c := by
  simp [advance]

theorem advance_succ (c : Cell) (o : Offset) (steps : Nat) : (c.advance o steps).shift o = c.advance o (steps + 1) := by
  simp only [advance, shift, Cell.mk.injEq, Int.natCast_add, Int.mul_add, Int.natCast_one, Int.mul_one]
  omega

theorem advance_one (c : Cell) (o : Offset) : c.advance o 1 = c.shift o := by
  rw [← advance_succ, advance_zero]

theorem shift_injective (a b : Cell) (o : Offset) (same : a.shift o = b.shift o) : a = b := by
  rw [← back_shift a o, ← back_shift b o, same]

theorem advance_injective (c : Cell) (d : Direction) (m n : Nat) (same : c.advance d.offset m = c.advance d.offset n) :
    m = n := by
  cases d <;> simp only [advance, Direction.offset, Cell.mk.injEq] at same <;> omega

end Cell

def State.ofTiles (extent : Extent) (tiles : List Tile) (effects : Effects) (player : Option EntityId) : State where
  heading := ⟨"", "", .null⟩
  extent := extent
  catalog := .standard
  definitions := .ofList (tiles.map fun tile => (tile.id, tile.definition))
  positions := .ofList (tiles.map fun tile => (tile.id, tile.cell))
  starts := .empty
  nextId := tiles.length + 1
  rules := []
  effects := effects
  player := player
  goal := none
  moves := 0
  won := false
  events := []

namespace State

section OfTiles

variable (extent : Extent) (tiles : List Tile) (effects : Effects) (player : Option EntityId)

theorem of_tiles_placed (id : EntityId) :
    (ofTiles extent tiles effects player).positions.contains id =
      (ofTiles extent tiles effects player).definitions.contains id := by
  refine Bool.eq_iff_iff.mpr ?_
  rw [ofTiles, EntityMap.contains_of_list_iff, EntityMap.contains_of_list_iff, List.map_map, List.map_map]
  exact Iff.rfl

theorem of_tiles_known (listed : ∀ tile ∈ tiles, Catalog.standard.contains tile.definition = true) (id : EntityId)
    (definition : DefinitionId) (stored : (ofTiles extent tiles effects player).definitions.get? id = some definition) :
    (ofTiles extent tiles effects player).catalog.contains definition = true := by
  obtain ⟨tile, member, same⟩ := List.mem_map.mp (EntityMap.get_of_list _ id definition stored)
  cases same
  exact listed tile member

theorem of_tiles_fresh (few : ∀ tile ∈ tiles, tile.id ≤ tiles.length) (id : EntityId)
    (alive : (ofTiles extent tiles effects player).Alive id) : id < (ofTiles extent tiles effects player).nextId := by
  rw [Alive, ofTiles, EntityMap.contains_of_list_iff, List.map_map] at alive
  obtain ⟨tile, member, rfl⟩ := List.mem_map.mp alive
  exact Int.lt_add_one_of_le (few tile member)

end OfTiles

end State

namespace Movement

theorem ask_ok {α : Type} (a : Attempt α) (b : α) (answered : ask a = .ok b) : a = .ok b := by
  cases a with
  | error f => cases answered
  | ok c => cases answered; rfl

theorem get_settle (scene : Scene) (id other : EntityId) (cell : Cell) :
    (scene.settle id cell).positions.get? other = if id = other then some cell else scene.positions.get? other :=
  EntityMap.get_insert scene.positions id other cell

theorem mem_others_iff (scene : Scene) (cell : Cell) (id other : EntityId) :
    other ∈ scene.others cell id ↔ scene.positions.get? other = some cell ∧ other ≠ id := by
  simp only [Scene.others, List.mem_map, List.mem_filter, Bool.and_eq_true, decide_eq_true_eq]
  constructor
  · rintro ⟨⟨key, value⟩, ⟨member, rfl, different⟩, rfl⟩
    exact ⟨(EntityMap.mem_entries_iff _ _ _).mp member, different⟩
  · rintro ⟨found, different⟩
    exact ⟨(other, cell), ⟨(EntityMap.mem_entries_iff _ _ _).mpr found, rfl, different⟩, rfl⟩

theorem others_nodup (scene : Scene) (cell : Cell) (id : EntityId) : (scene.others cell id).Nodup := by
  apply List.Nodup.sublist (List.filter_sublist.map Prod.fst)
  exact scene.positions.ids_ascending.imp fun {a b} (less : a < b) => Int.ne_of_lt less

def followers (s : State) (o : Offset) (origin : Cell) (id : EntityId) (scene : Scene) : List EntityId :=
  if s.onBoard (origin.back o) then scene.others (origin.back o) id else []

def Passes (s : State) (id occupant : EntityId) : Prop :=
  (s.player = some id ∧ s.isWinContact occupant = .ok true) ∨ s.isBlocking occupant = .ok false

def Stays (s : State) (pushing : List EntityId) (scene : Scene) (follower : EntityId) : Prop :=
  follower ∈ scene.moved ∨ follower ∈ pushing ∨ s.has .pull follower = .ok false

-- What a chain is made of: an entity goes one cell on, the occupants of its new cell are cleared for it, and the
-- entities behind follow. The lists are those of the moment when they were made, so a listed entity may be elsewhere
-- by the time its turn comes.
inductive Task where
  | go (id : EntityId)
  | clear (id : EntityId) (occupants : List EntityId)
  | follow (entities : List EntityId)

inductive Chain (s : State) (o : Offset) : List EntityId → Task → Scene → Scene → Prop where
  | go (pushing : List EntityId) (id : EntityId) (origin : Cell) (scene cleared final : Scene)
      (free : id ∉ pushing) (placed : scene.positions.get? id = some origin)
      (inside : s.onBoard (origin.shift o) = true)
      (clears : Chain s o (id :: pushing) (.clear id (scene.others (origin.shift o) id)) scene cleared)
      (follows : Chain s o pushing (.follow (followers s o origin id (cleared.settle id (origin.shift o))))
        (cleared.settle id (origin.shift o)) final) :
      Chain s o pushing (.go id) scene final
  | clear (pushing : List EntityId) (id : EntityId) (scene : Scene) : Chain s o pushing (.clear id []) scene scene
  | pass (pushing : List EntityId) (id occupant : EntityId) (rest : List EntityId) (scene final : Scene)
      (passes : Passes s id occupant) (later : Chain s o pushing (.clear id rest) scene final) :
      Chain s o pushing (.clear id (occupant :: rest)) scene final
  | push (pushing : List EntityId) (id occupant : EntityId) (rest : List EntityId) (scene next final : Scene)
      (met : s.player = some id → s.isWinContact occupant = .ok false) (pushed : s.isPushable occupant = .ok true)
      (moves : Chain s o pushing (.go occupant) scene next) (later : Chain s o pushing (.clear id rest) next final) :
      Chain s o pushing (.clear id (occupant :: rest)) scene final
  | follow (pushing : List EntityId) (scene : Scene) : Chain s o pushing (.follow []) scene scene
  | stay (pushing : List EntityId) (follower : EntityId) (rest : List EntityId) (scene final : Scene)
      (stays : Stays s pushing scene follower) (later : Chain s o pushing (.follow rest) scene final) :
      Chain s o pushing (.follow (follower :: rest)) scene final
  | drag (pushing : List EntityId) (follower : EntityId) (rest : List EntityId) (scene next final : Scene)
      (unmoved : follower ∉ scene.moved) (idle : follower ∉ pushing) (pulls : s.has .pull follower = .ok true)
      (moves : Chain s o pushing (.go follower) scene next) (later : Chain s o pushing (.follow rest) next final) :
      Chain s o pushing (.follow (follower :: rest)) scene final

theorem meet_ok (s : State) (push : EntityId → Scene → Course Scene) (occupant : EntityId) (scene next : Scene)
    (completed : (do
      if ← ask (s.isPushable occupant) then push occupant scene
      else if ← ask (s.isBlocking occupant) then .error .refused
      else .ok scene) = .ok next) :
    (s.isBlocking occupant = .ok false ∧ next = scene) ∨
      (s.isPushable occupant = .ok true ∧ push occupant scene = .ok next) := by
  obtain ⟨pushable, asked, completed⟩ := Attempt.bind_ok _ _ _ completed
  cases pushable with
  | true => exact .inr ⟨ask_ok _ _ asked, completed⟩
  | false =>
      obtain ⟨blocking, blocked, completed⟩ := Attempt.bind_ok _ _ _ completed
      cases blocking with
      | true => cases completed
      | false => exact .inl ⟨ask_ok _ _ blocked, (Except.ok.inj completed).symm⟩

theorem clear_ok (s : State) (push : EntityId → Scene → Course Scene) (id occupant : EntityId) (scene next : Scene)
    (cleared : clear s push id scene occupant = .ok next) :
    (Passes s id occupant ∧ next = scene) ∨
      ((s.player = some id → s.isWinContact occupant = .ok false) ∧ s.isPushable occupant = .ok true ∧
        push occupant scene = .ok next) := by
  rw [clear] at cleared
  dsimp only at cleared
  by_cases playing : s.player = some id
  · rw [if_pos playing] at cleared
    obtain ⟨passed, contact, cleared⟩ := Attempt.bind_ok _ _ _ cleared
    have asked := ask_ok _ _ contact
    cases passed with
    | true => exact .inl ⟨.inl ⟨playing, asked⟩, (Except.ok.inj cleared).symm⟩
    | false =>
        rcases meet_ok s push occupant scene next cleared with ⟨open_cell, same⟩ | ⟨pushed, moves⟩
        · exact .inl ⟨.inr open_cell, same⟩
        · exact .inr ⟨fun _ => asked, pushed, moves⟩
  · rw [if_neg playing] at cleared
    rcases meet_ok s push occupant scene next cleared with ⟨open_cell, same⟩ | ⟨pushed, moves⟩
    · exact .inl ⟨.inr open_cell, same⟩
    · exact .inr ⟨fun player => absurd player playing, pushed, moves⟩

theorem follow_ok (s : State) (drag : EntityId → Scene → Course Scene) (pushing : List EntityId)
    (follower : EntityId) (scene next : Scene) (followed : follow s drag pushing scene follower = .ok next) :
    (Stays s pushing scene follower ∧ next = scene) ∨
      (follower ∉ scene.moved ∧ follower ∉ pushing ∧ s.has .pull follower = .ok true ∧
        drag follower scene = .ok next) := by
  rw [follow] at followed
  by_cases busy : follower ∈ scene.moved ∨ follower ∈ pushing
  · rw [if_pos busy] at followed
    exact .inl ⟨busy.elim .inl fun waiting => .inr (.inl waiting), (Except.ok.inj followed).symm⟩
  · rw [if_neg busy] at followed
    obtain ⟨pulls, asked, followed⟩ := Attempt.bind_ok _ _ _ followed
    have idle := not_or.mp busy
    cases pulls with
    | true => exact .inr ⟨idle.1, idle.2, ask_ok _ _ asked, followed⟩
    | false => exact .inl ⟨.inr (.inr (ask_ok _ _ asked)), (Except.ok.inj followed).symm⟩

theorem chain_of_clear (s : State) (o : Offset) (push : EntityId → Scene → Course Scene) (pushing : List EntityId)
    (id : EntityId) (sound : ∀ occupant scene next, push occupant scene = .ok next → Chain s o pushing (.go occupant) scene next)
    (occupants : List EntityId) (scene final : Scene)
    (completed : occupants.foldlM (clear s push id) scene = .ok final) :
    Chain s o pushing (.clear id occupants) scene final := by
  induction occupants generalizing scene with
  | nil =>
      cases completed
      exact .clear pushing id _
  | cons occupant rest ih =>
      rw [List.foldlM_cons] at completed
      obtain ⟨next, cleared, later⟩ := Attempt.bind_ok _ _ _ completed
      rcases clear_ok s push id occupant scene next cleared with ⟨passes, rfl⟩ | ⟨met, pushed, moves⟩
      · exact .pass pushing id occupant rest next final passes (ih next later)
      · exact .push pushing id occupant rest scene next final met pushed (sound occupant scene next moves)
          (ih next later)

theorem chain_of_follow (s : State) (o : Offset) (drag : EntityId → Scene → Course Scene) (pushing : List EntityId)
    (sound : ∀ follower scene next, drag follower scene = .ok next → Chain s o pushing (.go follower) scene next)
    (list : List EntityId) (scene final : Scene) (completed : list.foldlM (follow s drag pushing) scene = .ok final) :
    Chain s o pushing (.follow list) scene final := by
  induction list generalizing scene with
  | nil =>
      cases completed
      exact .follow pushing _
  | cons follower rest ih =>
      rw [List.foldlM_cons] at completed
      obtain ⟨next, followed, later⟩ := Attempt.bind_ok _ _ _ completed
      rcases follow_ok s drag pushing follower scene next followed with ⟨stays, rfl⟩ | ⟨unmoved, idle, pulls, moves⟩
      · exact .stay pushing follower rest next final stays (ih next later)
      · exact .drag pushing follower rest scene next final unmoved idle pulls (sound follower scene next moves)
          (ih next later)

theorem chain_of_advance (s : State) (o : Offset) (budget : Nat) (pushing : List EntityId) (id : EntityId)
    (scene final : Scene) (completed : advance s o budget pushing id scene = .ok final) :
    Chain s o pushing (.go id) scene final := by
  induction budget generalizing pushing id scene final with
  | zero => cases completed
  | succ budget ih =>
      rw [advance] at completed
      by_cases waiting : id ∈ pushing
      · rw [if_pos waiting] at completed
        cases completed
      · rw [if_neg waiting] at completed
        cases placed : scene.positions.get? id with
        | none =>
            rw [placed] at completed
            cases completed
        | some origin =>
            rw [placed] at completed
            dsimp only at completed
            by_cases inside : s.onBoard (origin.shift o) = true
            · rw [if_pos inside] at completed
              obtain ⟨cleared, clearing, completed⟩ := Attempt.bind_ok _ _ _ completed
              have clears := chain_of_clear s o _ (id :: pushing) id (ih (id :: pushing)) _ scene cleared clearing
              refine .go pushing id origin scene cleared final waiting placed inside clears ?_
              by_cases behind : s.onBoard (origin.back o) = true
              · rw [if_pos behind] at completed
                rw [followers, if_pos behind]
                exact chain_of_follow s o _ pushing (ih pushing) _ _ final completed
              · rw [if_neg behind] at completed
                rw [followers, if_neg behind, ← Except.ok.inj completed]
                exact .follow pushing _
            · rw [if_neg inside] at completed
              cases completed

theorem run_ok (s next : State) (id : EntityId) (d : Direction) (done : run s id d = .ok (some next)) :
    ∃ scene, advance s d.offset (budget s) [] id ⟨s.positions, []⟩ = .ok scene ∧
      Chain s d.offset [] (.go id) ⟨s.positions, []⟩ scene ∧ next = { s with positions := scene.positions } := by
  rw [run] at done
  cases placed : s.positions.get? id with
  | none => simp [placed] at done
  | some origin =>
      rw [placed] at done
      cases chain : advance s d.offset (budget s) [] id ⟨s.positions, []⟩ with
      | ok scene =>
          rw [chain] at done
          refine ⟨scene, rfl, chain_of_advance s d.offset _ [] id _ scene chain, ?_⟩
          simpa using done.symm
      | error halt => cases halt <;> simp [chain] at done

theorem chain_waiting (s : State) (o : Offset) (pushing : List EntityId) (task : Task) (scene final : Scene)
    (chain : Chain s o pushing task scene final) (id : EntityId) (waiting : id ∈ pushing) :
    final.positions.get? id = scene.positions.get? id ∧ final.moved.count id = scene.moved.count id := by
  induction chain with
  | clear => exact ⟨rfl, rfl⟩
  | follow => exact ⟨rfl, rfl⟩
  | pass _ _ _ _ _ _ _ _ ih => exact ih waiting
  | stay _ _ _ _ _ _ _ ih => exact ih waiting
  | push _ _ _ _ _ _ _ _ _ _ _ movesIh laterIh =>
      exact ⟨(laterIh waiting).1.trans (movesIh waiting).1, (laterIh waiting).2.trans (movesIh waiting).2⟩
  | drag _ _ _ _ _ _ _ _ _ _ _ movesIh laterIh =>
      exact ⟨(laterIh waiting).1.trans (movesIh waiting).1, (laterIh waiting).2.trans (movesIh waiting).2⟩
  | go pushing mover origin _ cleared _ free placed inside _ _ clearsIh followsIh =>
      have different : mover ≠ id := fun same => free (same ▸ waiting)
      obtain ⟨clearedCell, clearedCount⟩ := clearsIh (List.mem_cons_of_mem mover waiting)
      obtain ⟨finalCell, finalCount⟩ := followsIh waiting
      rw [finalCell, get_settle, if_neg different, clearedCell, finalCount]
      simp [Scene.settle, List.count_cons_of_ne different, clearedCount]

theorem chain_keeps (s : State) (o : Offset) (P : Scene → Prop)
    (step : ∀ scene id origin, P scene → scene.positions.get? id = some origin → s.onBoard (origin.shift o) = true →
      P (scene.settle id (origin.shift o)))
    (pushing : List EntityId) (task : Task) (scene final : Scene) (chain : Chain s o pushing task scene final)
    (before : P scene) : P final := by
  induction chain with
  | clear => exact before
  | follow => exact before
  | pass _ _ _ _ _ _ _ _ ih => exact ih before
  | stay _ _ _ _ _ _ _ ih => exact ih before
  | push _ _ _ _ _ _ _ _ _ _ _ movesIh laterIh => exact laterIh (movesIh before)
  | drag _ _ _ _ _ _ _ _ _ _ _ movesIh laterIh => exact laterIh (movesIh before)
  | go pushing id origin scene cleared _ _ placed inside clears _ clearsIh followsIh =>
      have still := (chain_waiting s o _ _ _ _ clears id List.mem_cons_self).1
      exact followsIh (step cleared id origin (clearsIh before) (still.trans placed) inside)

def Tracked (s : State) (o : Offset) (scene : Scene) : Prop :=
  ∀ id, scene.positions.get? id = (s.positions.get? id).map fun start => start.advance o (scene.moved.count id)

theorem tracked_settle (s : State) (o : Offset) (scene : Scene) (id : EntityId) (origin : Cell)
    (tracked : Tracked s o scene) (placed : scene.positions.get? id = some origin) :
    Tracked s o (scene.settle id (origin.shift o)) := by
  intro other
  rw [get_settle]
  by_cases same : id = other
  · subst same
    obtain ⟨start, stood, here⟩ := Option.map_eq_some_iff.mp ((tracked id).symm.trans placed)
    rw [if_pos rfl, stood, ← here, Cell.advance_succ]
    simp [Scene.settle]
  · rw [if_neg same, tracked other]
    simp [Scene.settle, List.count_cons_of_ne same]

theorem chain_tracked (s : State) (o : Offset) (pushing : List EntityId) (task : Task) (scene final : Scene)
    (chain : Chain s o pushing task scene final) (tracked : Tracked s o scene) : Tracked s o final :=
  chain_keeps s o (Tracked s o) (fun scene id origin before placed _ => tracked_settle s o scene id origin before placed)
    pushing task scene final chain tracked

theorem tracked_start (s : State) (o : Offset) : Tracked s o ⟨s.positions, []⟩ := by
  intro id
  cases s.positions.get? id <;> simp [Cell.advance_zero]

theorem chain_count_le (s : State) (o : Offset) (pushing : List EntityId) (task : Task) (scene final : Scene)
    (chain : Chain s o pushing task scene final) (id : EntityId) : scene.moved.count id ≤ final.moved.count id := by
  refine chain_keeps s o (fun later => scene.moved.count id ≤ later.moved.count id) ?_ pushing task scene final chain
    (Nat.le_refl _)
  intro later mover origin before _ _
  exact Nat.le_trans before List.count_le_count_cons

theorem chain_go_count (s : State) (o : Offset) (pushing : List EntityId) (id : EntityId) (scene final : Scene)
    (chain : Chain s o pushing (.go id) scene final) : scene.moved.count id < final.moved.count id := by
  cases chain with
  | go _ _ origin _ cleared _ _ _ _ clears follows =>
      have before := chain_count_le s o _ _ _ _ clears id
      have after := chain_count_le s o _ _ _ _ follows id
      simp only [Scene.settle, List.count_cons_self] at after
      omega

end Movement

end KanjiPuzzle
