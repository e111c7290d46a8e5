import KanjiPuzzle.Proofs.Renaming

set_option autoImplicit false

/- The phases of a turn under a renaming. Wherever entities are taken in order, compared or counted, the renamed game
   takes, compares and counts the renamed ones; the numbers of new entities are what a renaming has to keep in step. -/
namespace KanjiPuzzle

namespace Renaming

variable (f : Renaming)

-- From this number on the new numbers follow one another as the old ones do.
def StepsFrom (next : EntityId) : Prop := ∀ count : Nat, f.image (next + count) = f.image next + count

theorem steps_later (next : EntityId) (later : Nat) (steps : f.StepsFrom next) : f.StepsFrom (next + later) := by
  intro count
  have both := steps (later + count)
  have one := steps later
  rw [Int.natCast_add, ← Int.add_assoc, ← Int.add_assoc] at both
  rw [both, one]

def Commutes (phase : State → Attempt State) : Prop :=
  ∀ s, phase (s.renamed f) = Attempt.both f.fault (State.renamed · f) (phase s)

theorem commutes_then (first second : State → Attempt State) (one : f.Commutes first) (two : f.Commutes second) :
    f.Commutes fun s => first s >>= second := by
  intro s
  dsimp only
  rw [one s]
  apply Attempt.bind_both
  exact two

end Renaming

namespace Movement

def Scene.renamed (scene : Scene) (f : Renaming) : Scene := ⟨scene.positions.renamed f, scene.moved.map f.image⟩

def haltRenamed (f : Renaming) : Halt → Halt
  | .fault cause => .fault (f.fault cause)
  | halt => halt

variable (s : State) (f : Renaming)

theorem ask_renamed {α : Type} (a b : Attempt α) (same : b = Attempt.both f.fault (fun answer => answer) a) :
    ask b = Attempt.both (haltRenamed f) (fun answer => answer) (ask a) := by
  rw [same]
  cases a with
  | error cause => rfl
  | ok answer => rfl

theorem others_renamed (scene : Scene) (cell : Cell) (id : EntityId) :
    (scene.renamed f).others cell (f.image id) = (scene.others cell id).map f.image := by
  simp only [Scene.others, Scene.renamed, EntityMap.renamed, List.filter_map, List.map_map, Function.comp_def, ne_eq,
    f.same_iff]

theorem settle_renamed (scene : Scene) (id : EntityId) (cell : Cell) :
    (scene.renamed f).settle (f.image id) cell = (scene.settle id cell).renamed f := by
  rw [Scene.settle, Scene.settle, Scene.renamed, EntityMap.insert_renamed]
  rfl

theorem fold_renamed (step step' : Scene → EntityId → Course Scene)
    (same : ∀ scene id, step' (scene.renamed f) (f.image id) =
      Attempt.both (haltRenamed f) (Scene.renamed · f) (step scene id)) (ids : List EntityId) (scene : Scene) :
    (ids.map f.image).foldlM step' (scene.renamed f) =
      Attempt.both (haltRenamed f) (Scene.renamed · f) (ids.foldlM step scene) := by
  induction ids generalizing scene with
  | nil => rfl
  | cons id rest ih =>
      rw [List.map_cons, List.foldlM_cons, List.foldlM_cons, same]
      apply Attempt.bind_both
      exact ih

section Step

variable (go go' : EntityId → Scene → Course Scene)
  (same : ∀ id scene, go' (f.image id) (scene.renamed f) =
    Attempt.both (haltRenamed f) (Scene.renamed · f) (go id scene))
include same

theorem meet_renamed (scene : Scene) (occupant : EntityId) (passed : Bool) :
    (do
      if passed then .ok (scene.renamed f)
      else if ← ask ((s.renamed f).isPushable (f.image occupant)) then go' (f.image occupant) (scene.renamed f)
      else if ← ask ((s.renamed f).isBlocking (f.image occupant)) then .error .refused
      else .ok (scene.renamed f)) =
      Attempt.both (haltRenamed f) (Scene.renamed · f) (do
        if passed then .ok scene
        else if ← ask (s.isPushable occupant) then go occupant scene
        else if ← ask (s.isBlocking occupant) then .error .refused
        else .ok scene) := by
  cases passed with
  | true => rfl
  | false =>
      rw [ask_renamed f _ _ (s.is_pushable_renamed f occupant), ask_renamed f _ _ (s.is_blocking_renamed f occupant)]
      apply Attempt.bind_both
      intro pushable
      cases pushable with
      | true => exact same occupant scene
      | false =>
          apply Attempt.bind_both
          intro blocking
          cases blocking with
          | true => rfl
          | false => rfl

theorem clear_renamed (id : EntityId) (scene : Scene) (occupant : EntityId) :
    clear (s.renamed f) go' (f.image id) (scene.renamed f) (f.image occupant) =
      Attempt.both (haltRenamed f) (Scene.renamed · f) (clear s go id scene occupant) := by
  have playing : (s.renamed f).player = some (f.image id) ↔ s.player = some id := by simp
  rw [clear, clear]
  by_cases mine : s.player = some id
  · rw [if_pos mine, if_pos (playing.mpr mine), ask_renamed f _ _ (s.is_win_contact_renamed f occupant)]
    apply Attempt.bind_both
    exact meet_renamed s f go go' same scene occupant
  · rw [if_neg mine, if_neg (mt playing.mp mine)]
    exact meet_renamed s f go go' same scene occupant false

theorem follow_renamed (pushing : List EntityId) (scene : Scene) (follower : EntityId) :
    follow (s.renamed f) go' (pushing.map f.image) (scene.renamed f) (f.image follower) =
      Attempt.both (haltRenamed f) (Scene.renamed · f) (follow s go pushing scene follower) := by
  have busy : (f.image follower ∈ (scene.renamed f).moved ∨ f.image follower ∈ pushing.map f.image) ↔
      follower ∈ scene.moved ∨ follower ∈ pushing := by
    rw [Scene.renamed, f.mem_iff, f.mem_iff]
  rw [follow, follow]
  by_cases bound : follower ∈ scene.moved ∨ follower ∈ pushing
  · rw [if_pos bound, if_pos (busy.mpr bound)]
    rfl
  · rw [if_neg bound, if_neg (mt busy.mp bound), ask_renamed f _ _ (s.has_renamed f .pull follower)]
    apply Attempt.bind_both
    intro pulls
    cases pulls with
    | true => exact same follower scene
    | false => rfl

end Step

theorem advance_renamed (o : Offset) (budget : Nat) (pushing : List EntityId) (id : EntityId) (scene : Scene) :
    advance (s.renamed f) o budget (pushing.map f.image) (f.image id) (scene.renamed f) =
      Attempt.both (haltRenamed f) (Scene.renamed · f) (advance s o budget pushing id scene) := by
  induction budget generalizing pushing id scene with
  | zero => rfl
  | succ less ih =>
      have stands : (scene.renamed f).positions.get? (f.image id) = scene.positions.get? id :=
        scene.positions.get_renamed f id
      have queued : f.image id ∈ pushing.map f.image ↔ id ∈ pushing := f.mem_iff id pushing
      rw [advance, advance, stands]
      by_cases waiting : id ∈ pushing
      · rw [if_pos waiting, if_pos (queued.mpr waiting)]
        rfl
      rw [if_neg waiting, if_neg (mt queued.mp waiting)]
      cases scene.positions.get? id with
      | none => rfl
      | some origin =>
          dsimp only
          rw [s.renamed_on_board, s.renamed_on_board, others_renamed]
          cases s.onBoard (origin.shift o) with
          | false => rfl
          | true =>
              have clears := clear_renamed s f (advance s o less (id :: pushing)) _ (ih (id :: pushing)) id
              rw [List.map_cons] at clears
              rw [if_pos rfl, if_pos rfl, fold_renamed f _ _ clears]
              apply Attempt.bind_both
              intro cleared
              rw [settle_renamed, others_renamed]
              cases s.onBoard (origin.back o) with
              | false => rfl
              | true => exact fold_renamed f _ _ (follow_renamed s f _ _ (ih pushing) pushing) _ _

theorem run_renamed (id : EntityId) (d : Direction) :
    run (s.renamed f) (f.image id) d = Attempt.both f.fault (Option.map (State.renamed · f)) (run s id d) := by
  have effort : budget (s.renamed f) = budget s := by
    rw [budget, s.renamed_positions, EntityMap.size_renamed]
    rfl
  have start : Scene.mk (s.renamed f).positions [] = Scene.renamed ⟨s.positions, []⟩ f := rfl
  rw [run, run, s.renamed_positions, EntityMap.get_renamed, effort]
  cases s.positions.get? id with
  | none => rfl
  | some cell =>
      have chain := advance_renamed s f d.offset (budget s) [] id ⟨s.positions, []⟩
      rw [List.map_nil] at chain
      dsimp only
      rw [← s.renamed_positions, start, chain]
      cases advance s d.offset (budget s) [] id ⟨s.positions, []⟩ with
      | ok scene => rfl
      | error halt =>
          cases halt with
          | refused => rfl
          | fault cause => rfl
          | exhausted => rfl

end Movement

namespace Fusion

def Pairing.renamed (p : Pairing) (f : Renaming) : Pairing := { p with first := f.image p.first, second := f.image p.second }

variable (s : State) (f : Renaming)

theorem used_renamed (found : List Pairing) : used (found.map (Pairing.renamed · f)) = (used found).map f.image := by
  rw [used, used, List.flatMap_map, List.map_flatMap]
  rfl

theorem fusible_renamed (id : EntityId) :
    fusible? (s.renamed f) (f.image id) = Attempt.both f.fault (fun source => source) (fusible? s id) :=
  s.judge_renamed f (fun source => source)
    (fun d => if d.isObject then d.noun?.map fun noun => (d, noun) else none) _ (fun _ => rfl) id

theorem is_partner_renamed (taken : List EntityId) (id other : EntityId) :
    isPartner (s.renamed f) (taken.map f.image) (f.image id) (f.image other) =
      Attempt.both f.fault (fun verdict => verdict) (isPartner s taken id other) := by
  have out : (f.image other = f.image id ∨ f.image other ∈ taken.map f.image) ↔ other = id ∨ other ∈ taken := by
    rw [f.same_iff, f.mem_iff]
  rw [isPartner, isPartner, fusible_renamed]
  by_cases apart : other = id ∨ other ∈ taken
  · rw [if_pos apart, if_pos (out.mpr apart)]
    rfl
  · rw [if_neg apart, if_neg (mt out.mp apart)]
    apply Attempt.bind_both
    intro source
    rfl

theorem pairing_in_renamed (taken : List EntityId) (id : EntityId) (first : Definition × Noun) (cell : Cell) :
    pairingIn? (s.renamed f) (taken.map f.image) (f.image id) first cell =
      Attempt.both f.fault (Option.map (Pairing.renamed · f)) (pairingIn? s taken id first cell) := by
  rw [pairingIn?, pairingIn?, s.renamed_on_board, s.entities_at_renamed]
  cases s.onBoard cell with
  | false => rfl
  | true =>
      rw [if_pos rfl, if_pos rfl,
        Attempt.first_both f.fault f.image (isPartner s taken id) _ (is_partner_renamed s f taken id)]
      apply Attempt.bind_both
      intro partner
      cases partner with
      | none => rfl
      | some other =>
          dsimp only [Option.map]
          rw [fusible_renamed]
          apply Attempt.bind_both
          intro source
          cases source with
          | none => rfl
          | some second =>
              dsimp only
              rw [s.renamed_catalog]
              cases s.catalog.recipeFor? first.2 second.2 with
              | none => rfl
              | some recipe =>
                  dsimp only
                  have known := State.get_both f s.catalog recipe.output
                  cases answer : s.catalog.get recipe.output with
                  | error cause =>
                      rw [answer] at known
                      exact congrArg Except.error (Except.error.inj known)
                  | ok output => rfl

theorem first_pairing_renamed (taken : List EntityId) (id : EntityId) (first : Definition × Noun) (cells : List Cell) :
    firstPairing? (s.renamed f) (taken.map f.image) (f.image id) first cells =
      Attempt.both f.fault (Option.map (Pairing.renamed · f)) (firstPairing? s taken id first cells) := by
  induction cells with
  | nil => rfl
  | cons cell rest ih =>
      rw [firstPairing?, firstPairing?, pairing_in_renamed]
      apply Attempt.bind_both
      intro found
      cases found with
      | none => exact ih
      | some pairing => rfl

theorem add_pairing_renamed (found : List Pairing) (id : EntityId) :
    addPairing (s.renamed f) (found.map (Pairing.renamed · f)) (f.image id) =
      Attempt.both f.fault (List.map (Pairing.renamed · f)) (addPairing s found id) := by
  have out : f.image id ∈ used (found.map (Pairing.renamed · f)) ↔ id ∈ used found := by
    rw [used_renamed, f.mem_iff]
  rw [addPairing, addPairing]
  by_cases taken : id ∈ used found
  · rw [if_pos taken, if_pos (out.mpr taken)]
    rfl
  · rw [if_neg taken, if_neg (mt out.mp taken), fusible_renamed]
    apply Attempt.bind_both
    intro source
    cases source with
    | none => rfl
    | some first =>
        dsimp only
        rw [s.cell_of_renamed]
        apply Attempt.bind_both
        intro cell
        rw [used_renamed, first_pairing_renamed]
        apply Attempt.bind_both
        intro chosen
        cases chosen with
        | none => rfl
        | some pairing =>
            apply congrArg Except.ok
            rw [List.map_append]
            rfl

theorem pairings_renamed :
    pairings (s.renamed f) = Attempt.both f.fault (List.map (Pairing.renamed · f)) (pairings s) := by
  rw [pairings, pairings, s.renamed_definitions, EntityMap.ids_renamed]
  exact Attempt.through_both f.fault f.image (List.map (Pairing.renamed · f)) (addPairing s) _
    (add_pairing_renamed s f) s.definitions.ids []

theorem spawn_renamed (p : Pairing) (step : f.image (s.nextId + 1) = f.image s.nextId + 1) :
    spawn (s.renamed f) (p.renamed f) = (spawn s p).renamed f := by
  have number : (s.renamed f).nextId = f.image s.nextId := rfl
  rw [spawn, spawn, number, s.renamed_definitions, s.renamed_positions, EntityMap.insert_renamed,
    EntityMap.insert_renamed, ← step]
  rfl

theorem spawn_all_renamed (found : List Pairing) (steps : f.StepsFrom s.nextId) :
    (found.map (Pairing.renamed · f)).foldl spawn (s.renamed f) = (found.foldl spawn s).renamed f := by
  induction found generalizing s with
  | nil => rfl
  | cons p rest ih =>
      rw [List.map_cons, List.foldl_cons, List.foldl_cons, spawn_renamed s f p (steps 1)]
      exact ih (spawn s p) (f.steps_later s.nextId 1 steps)

theorem run_renamed (steps : f.StepsFrom s.nextId) :
    run (s.renamed f) = Attempt.both f.fault (State.renamed · f) (run s) := by
  rw [run, run, pairings_renamed]
  apply Attempt.bind_both
  intro found
  rw [used_renamed, s.remove_renamed]
  exact congrArg Except.ok (spawn_all_renamed (s.remove (used found)) f found steps)

end Fusion

namespace Transform

def Change.renamed (c : Change) (f : Renaming) : Change := { c with id := f.image c.id }

variable (s : State) (f : Renaming)

theorem change_renamed (id : EntityId) :
    change? (s.renamed f) (f.image id) = Attempt.both f.fault (Option.map (Change.renamed · f)) (change? s id) := by
  rw [change?, change?, s.definition_of_renamed]
  apply Attempt.bind_both
  intro d
  cases d.isObject with
  | false => rfl
  | true =>
      cases d.noun? with
      | none => rfl
      | some source =>
          dsimp only
          rw [s.renamed_effects, s.renamed_catalog]
          cases s.effects.targetOf? source with
          | none => rfl
          | some target =>
              dsimp only
              by_cases idle : target = source
              · rw [if_pos idle, if_pos idle]
                rfl
              · rw [if_neg idle, if_neg idle]
                cases s.catalog.objectFor? target with
                | none => rfl
                | some object =>
                    dsimp only
                    rw [s.cell_of_renamed]
                    apply Attempt.bind_both
                    intro cell
                    rfl

theorem apply_renamed (changes : List Change) :
    apply (s.renamed f) (changes.map (Change.renamed · f)) = (apply s changes).renamed f := by
  have inserted (m : EntityMap DefinitionId) : (changes.map (Change.renamed · f)).foldl
      (fun definitions c => definitions.insert c.id c.definition) (m.renamed f) =
        (changes.foldl (fun definitions c => definitions.insert c.id c.definition) m).renamed f := by
    induction changes generalizing m with
    | nil => rfl
    | cons c rest ih =>
        rw [List.map_cons, List.foldl_cons, List.foldl_cons, Change.renamed, EntityMap.insert_renamed, ih]
  rw [apply, apply, s.renamed_definitions, inserted]
  rfl

theorem summaries_renamed (changes : List Change) (summaries : List Summary) :
    (changes.map (Change.renamed · f)).foldl (fun summaries c => addChange c summaries) summaries =
      changes.foldl (fun summaries c => addChange c summaries) summaries := by
  have blind (c : Change) (summaries : List Summary) : addChange (c.renamed f) summaries = addChange c summaries := by
    induction summaries with
    | nil => rfl
    | cons summary rest ih => rw [addChange, addChange, ih, Change.renamed]
  induction changes generalizing summaries with
  | nil => rfl
  | cons c rest ih => rw [List.map_cons, List.foldl_cons, List.foldl_cons, blind, ih]

theorem run_renamed (announce : Bool) : f.Commutes fun s => run s announce := by
  intro s
  dsimp only
  rw [run, run, s.renamed_effects]
  cases s.effects.transforms.isEmpty with
  | true => rfl
  | false =>
      rw [if_neg Bool.false_ne_true, if_neg Bool.false_ne_true, s.renamed_definitions, EntityMap.ids_renamed,
        Attempt.each_both f.fault f.image (Option.map (Change.renamed · f)) (change? s) _ (change_renamed s f)]
      apply Attempt.bind_both
      intro found
      have changes : (found.map (Option.map (Change.renamed · f))).filterMap id =
          (found.filterMap id).map (Change.renamed · f) := by
        rw [List.filterMap_map, List.map_filterMap]
        rfl
      rw [changes]
      dsimp only
      rw [summaries_renamed, apply_renamed, State.report_all_renamed]
      rfl

end Transform

theorem Reading.run_renamed (f : Renaming) (announce : Bool) : f.Commutes fun s => Reading.run s announce := by
  intro s
  dsimp only
  rw [run, run, s.tokens_renamed]
  apply Attempt.bind_both
  intro board
  rw [TokenBoard.rules_renamed]
  exact Transform.run_renamed f announce (s.withRules board.rules)

end KanjiPuzzle
