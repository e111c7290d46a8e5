import KanjiPuzzle.Proofs.LineScan
import KanjiPuzzle.Proofs.OneLine
import Mathlib.Algebra.Order.BigOperators.Group.Finset

set_option autoImplicit false

/- Chains end. A call that waits for room keeps its entity from waiting a second time, and one that has made room has
   taken one of the steps that the board has cells for; so the budget is never used up. -/
namespace KanjiPuzzle.Movement

def Ends {α : Type} (c : Course α) : Prop := c ≠ .error .exhausted

theorem ends_ok {α : Type} (a : α) : Ends (.ok a : Course α) := by
  simp [Ends]

theorem ends_fault {α : Type} (cause : Fault) : Ends (.error (.fault cause) : Course α) := by
  simp [Ends]

theorem ends_refused {α : Type} : Ends (.error .refused : Course α) := by
  simp [Ends]

theorem ends_bind {α β : Type} (c : Course α) (f : α → Course β) (first : Ends c)
    (later : ∀ a, c = .ok a → Ends (f a)) : Ends (c >>= f) := by
  cases answer : c with
  | error halt =>
      rw [answer] at first
      exact fun same => first (congrArg Except.error (Except.error.inj same))
  | ok a => exact later a answer

theorem ends_fold (P : Scene → Prop) (act : Scene → EntityId → Course Scene) (ids : List EntityId)
    (ends : ∀ scene id, P scene → Ends (act scene id))
    (keeps : ∀ scene next id, P scene → act scene id = .ok next → P next) (scene : Scene) (start : P scene) :
    Ends (ids.foldlM act scene) := by
  induction ids generalizing scene with
  | nil => exact ends_ok scene
  | cons id rest ih =>
      rw [List.foldlM_cons]
      apply ends_bind _ _ (ends scene id start)
      intro next answer
      exact ih next (keeps scene next id start answer)

def Delegates (task : (EntityId → Scene → Course Scene) → Course Scene) (id : EntityId) (scene : Scene) : Prop :=
  (∃ c, Ends c ∧ ∀ call, task call = c) ∨ ∀ call, task call = call id scene

theorem delegates_meet (s : State) (scene : Scene) (occupant : EntityId) :
    Delegates (fun push => do
      if ← ask (s.isPushable occupant) then push occupant scene
      else if ← ask (s.isBlocking occupant) then .error .refused
      else .ok scene) occupant scene := by
  cases s.isPushable occupant with
  | error cause => exact .inl ⟨.error (.fault cause), ends_fault cause, fun _ => rfl⟩
  | ok pushable =>
      cases pushable with
      | true => exact .inr fun _ => rfl
      | false =>
          cases s.isBlocking occupant with
          | error cause => exact .inl ⟨.error (.fault cause), ends_fault cause, fun _ => rfl⟩
          | ok blocking =>
              cases blocking with
              | true => exact .inl ⟨.error .refused, ends_refused, fun _ => rfl⟩
              | false => exact .inl ⟨.ok scene, ends_ok scene, fun _ => rfl⟩

theorem delegates_clear (s : State) (id : EntityId) (scene : Scene) (occupant : EntityId) :
    Delegates (fun push => clear s push id scene occupant) occupant scene := by
  simp only [clear]
  by_cases playing : s.player = some id
  · simp only [if_pos playing]
    cases s.isWinContact occupant with
    | error cause => exact .inl ⟨.error (.fault cause), ends_fault cause, fun _ => rfl⟩
    | ok contact =>
        cases contact with
        | true => exact .inl ⟨.ok scene, ends_ok scene, fun _ => rfl⟩
        | false => exact delegates_meet s scene occupant
  · simp only [if_neg playing]
    exact delegates_meet s scene occupant

theorem delegates_follow (s : State) (pushing : List EntityId) (scene : Scene) (follower : EntityId) :
    Delegates (fun drag => follow s drag pushing scene follower) follower scene := by
  simp only [follow]
  by_cases busy : follower ∈ scene.moved ∨ follower ∈ pushing
  · simp only [if_pos busy]
    exact .inl ⟨.ok scene, ends_ok scene, fun _ => rfl⟩
  · simp only [if_neg busy]
    cases s.has .pull follower with
    | error cause => exact .inl ⟨.error (.fault cause), ends_fault cause, fun _ => rfl⟩
    | ok pulls =>
        cases pulls with
        | true => exact .inr fun _ => rfl
        | false => exact .inl ⟨.ok scene, ends_ok scene, fun _ => rfl⟩

theorem ends_delegated (task : (EntityId → Scene → Course Scene) → Course Scene) (id : EntityId) (scene : Scene)
    (delegates : Delegates task id scene) (call : EntityId → Scene → Course Scene) (ends : Ends (call id scene)) :
    Ends (task call) := by
  rcases delegates with ⟨c, settled, same⟩ | same
  · rwa [same call]
  · rwa [same call]

def Firm {α : Type} (c e : Course α) : Prop := c = .error .exhausted ∨ c = e

theorem firm_refl {α : Type} (c : Course α) : Firm c c := .inr rfl

theorem firm_bind {α β : Type} (c e : Course α) (f g : α → Course β) (first : Firm c e) (later : ∀ a, Firm (f a) (g a)) :
    Firm (c >>= f) (e >>= g) := by
  rcases first with rfl | rfl
  · exact .inl rfl
  · cases c with
    | error halt => exact .inr rfl
    | ok a => exact later a

theorem firm_fold (act more : Scene → EntityId → Course Scene) (firm : ∀ scene id, Firm (act scene id) (more scene id))
    (ids : List EntityId) (scene : Scene) : Firm (ids.foldlM act scene) (ids.foldlM more scene) := by
  induction ids generalizing scene with
  | nil => exact firm_refl _
  | cons id rest ih =>
      rw [List.foldlM_cons, List.foldlM_cons]
      exact firm_bind _ _ _ _ (firm scene id) ih

theorem firm_delegated (task : (EntityId → Scene → Course Scene) → Course Scene) (id : EntityId) (scene : Scene)
    (delegates : Delegates task id scene) (call more : EntityId → Scene → Course Scene)
    (firm : Firm (call id scene) (more id scene)) : Firm (task call) (task more) := by
  rcases delegates with ⟨c, _, same⟩ | same
  · exact .inr ((same call).trans (same more).symm)
  · rwa [same call, same more]

theorem advance_waiting (s : State) (o : Offset) (budget : Nat) (pushing : List EntityId) (id : EntityId) (scene : Scene)
    (waiting : id ∈ pushing) : advance s o (budget + 1) pushing id scene = .error .refused := by
  rw [advance, if_pos waiting]

theorem advance_placeless (s : State) (o : Offset) (budget : Nat) (pushing : List EntityId) (id : EntityId)
    (scene : Scene) (free : id ∉ pushing) (placeless : scene.positions.get? id = none) :
    advance s o (budget + 1) pushing id scene = .error (.fault (.noEntity id)) := by
  rw [advance, if_neg free, placeless]

theorem advance_firm (s : State) (o : Offset) (budget : Nat) (pushing : List EntityId) (id : EntityId) (scene : Scene) :
    Firm (advance s o budget pushing id scene) (advance s o (budget + 1) pushing id scene) := by
  induction budget generalizing pushing id scene with
  | zero => exact .inl rfl
  | succ budget ih =>
      by_cases waiting : id ∈ pushing
      · rw [advance_waiting s o _ _ _ _ waiting, advance_waiting s o _ _ _ _ waiting]
        exact firm_refl _
      · cases placed : scene.positions.get? id with
        | none =>
            rw [advance_placeless s o _ _ _ _ waiting placed, advance_placeless s o _ _ _ _ waiting placed]
            exact firm_refl _
        | some origin =>
            by_cases inside : s.onBoard (origin.shift o) = true
            · rw [advance_eq s o budget pushing id origin scene waiting placed inside,
                advance_eq s o (budget + 1) pushing id origin scene waiting placed inside]
              apply firm_bind
              · apply firm_fold
                intro next occupant
                exact firm_delegated _ occupant next (delegates_clear s id next occupant) _ _ (ih (id :: pushing) occupant next)
              · intro cleared
                apply firm_fold
                intro next follower
                exact firm_delegated _ follower next (delegates_follow s pushing next follower) _ _ (ih pushing follower next)
            · rw [advance_outside s o budget pushing id origin scene waiting placed inside,
                advance_outside s o (budget + 1) pushing id origin scene waiting placed inside]
              exact firm_refl _

theorem advance_more (s : State) (o : Offset) (budget more : Nat) (pushing : List EntityId) (id : EntityId)
    (scene : Scene) (ends : Ends (advance s o budget pushing id scene)) :
    advance s o (budget + more) pushing id scene = advance s o budget pushing id scene := by
  induction more with
  | zero => rfl
  | succ more ih =>
      have firm := advance_firm s o (budget + more) pushing id scene
      rw [ih] at firm
      exact (firm.resolve_left ends).symm

def span (s : State) : Nat := s.extent.width.toNat + s.extent.height.toNat

theorem steps_le_span (s : State) (d : Direction) (start : Cell) (steps : Nat)
    (first : s.onBoard (start.shift d.offset) = true) (last : s.onBoard (start.advance d.offset steps) = true) :
    steps ≤ span s := by
  rw [State.onBoard, Extent.contains_iff] at first last
  cases d <;> simp only [Cell.shift, Cell.advance, Direction.offset, span] at first last ⊢ <;> omega

theorem moved_length_le (s : State) (d : Direction) (scene : Scene) (onFoot : OnFoot s d.offset scene) :
    scene.moved.length ≤ s.positions.size * span s := by
  have placed : scene.moved.toFinset ⊆ s.positions.ids.toFinset := by
    intro id member
    obtain ⟨start, stood, _⟩ := onFoot id (List.mem_toFinset.mp member)
    exact List.mem_toFinset.mpr (s.positions.mem_ids_of_get id start stood)
  have few : ∀ id ∈ scene.moved.toFinset, scene.moved.count id ≤ span s := by
    intro id member
    obtain ⟨start, _, first, last⟩ := onFoot id (List.mem_toFinset.mp member)
    exact steps_le_span s d start _ first last
  calc scene.moved.length
      = ∑ id ∈ scene.moved.toFinset, scene.moved.count id := scene.moved.sum_toFinset_count_eq_length.symm
    _ ≤ scene.moved.toFinset.card * span s := Finset.sum_le_card_nsmul _ _ _ few
    _ ≤ s.positions.ids.toFinset.card * span s := Nat.mul_le_mul_right _ (Finset.card_le_card placed)
    _ ≤ s.positions.ids.length * span s := Nat.mul_le_mul_right _ (List.toFinset_card_le _)
    _ = s.positions.size * span s := by rw [EntityMap.ids, List.length_map, EntityMap.size]

def idle (s : State) (pushing : List EntityId) : Nat := (s.positions.ids.toFinset \ pushing.toFinset).card

theorem idle_push (s : State) (pushing : List EntityId) (id : EntityId) (start : Cell)
    (stood : s.positions.get? id = some start) (free : id ∉ pushing) : idle s (id :: pushing) < idle s pushing := by
  have listed := s.positions.mem_ids_of_get id start stood
  rw [idle, idle, List.toFinset_cons, Finset.sdiff_insert]
  apply Finset.card_erase_lt_of_mem
  simp [listed, free]

def depth (s : State) (pushing : List EntityId) (scene : Scene) : Nat :=
  s.positions.size * span s - scene.moved.length + idle s pushing

structure Underway (s : State) (o : Offset) (since : Nat) (scene : Scene) : Prop where
  tracked : Tracked s o scene
  onFoot : OnFoot s o scene
  later : since ≤ scene.moved.length

theorem chain_underway (s : State) (o : Offset) (since : Nat) (pushing : List EntityId) (task : Task)
    (scene final : Scene) (chain : Chain s o pushing task scene final) (underway : Underway s o since scene) :
    Underway s o since final := by
  obtain ⟨tracked, onFoot⟩ := chain_on_foot s o pushing task scene final chain underway.tracked underway.onFoot
  refine ⟨tracked, onFoot, ?_⟩
  refine chain_keeps s o (fun later => since ≤ later.moved.length) ?_ pushing task scene final chain underway.later
  intro later id origin before _ _
  exact Nat.le_succ_of_le before

theorem underway_settle (s : State) (o : Offset) (since : Nat) (scene : Scene) (id : EntityId) (origin : Cell)
    (underway : Underway s o since scene) (placed : scene.positions.get? id = some origin)
    (inside : s.onBoard (origin.shift o) = true) : Underway s o (since + 1) (scene.settle id (origin.shift o)) :=
  ⟨tracked_settle s o scene id origin underway.tracked placed,
    on_foot_settle s o scene id origin underway.tracked underway.onFoot placed inside, Nat.succ_le_succ underway.later⟩

section Calls

variable (s : State) (o : Offset) (budget since : Nat) (pushing : List EntityId)
  (calls : ∀ id scene, Underway s o since scene → Ends (advance s o budget pushing id scene))
include calls

theorem clearing_ends (id : EntityId) (occupants : List EntityId) (scene : Scene) (underway : Underway s o since scene) :
    Ends (occupants.foldlM (clear s (advance s o budget pushing) id) scene) := by
  apply ends_fold (Underway s o since) _ occupants ?_ ?_ scene underway
  · intro next occupant underway
    exact ends_delegated _ occupant next (delegates_clear s id next occupant) _ (calls occupant next underway)
  · intro next after occupant underway cleared
    rcases clear_ok s _ id occupant next after cleared with ⟨_, rfl⟩ | ⟨_, _, pushed⟩
    · exact underway
    · have chain := chain_of_advance s o budget pushing occupant next after pushed
      exact chain_underway s o since pushing _ next after chain underway

theorem following_ends (entities : List EntityId) (scene : Scene) (underway : Underway s o since scene) :
    Ends (entities.foldlM (follow s (advance s o budget pushing) pushing) scene) := by
  apply ends_fold (Underway s o since) _ entities ?_ ?_ scene underway
  · intro next follower underway
    exact ends_delegated _ follower next (delegates_follow s pushing next follower) _ (calls follower next underway)
  · intro next after follower underway followed
    rcases follow_ok s _ pushing follower next after followed with ⟨_, rfl⟩ | ⟨_, _, _, dragged⟩
    · exact underway
    · have chain := chain_of_advance s o budget pushing follower next after dragged
      exact chain_underway s o since pushing _ next after chain underway

end Calls

-- By induction on the budget. What is called while an entity waits has one entity fewer to call upon, and what is called
-- after it has gone on has one step fewer to take.
theorem advance_ends (s : State) (d : Direction) (budget : Nat) (pushing : List EntityId) (id : EntityId) (scene : Scene)
    (tracked : Tracked s d.offset scene) (onFoot : OnFoot s d.offset scene)
    (enough : depth s pushing scene < budget) : Ends (advance s d.offset budget pushing id scene) := by
  induction budget generalizing pushing id scene with
  | zero => exact absurd enough (Nat.not_lt_zero _)
  | succ budget ih =>
      by_cases waiting : id ∈ pushing
      · rw [advance_waiting s d.offset budget pushing id scene waiting]
        exact ends_refused
      cases placed : scene.positions.get? id with
      | none =>
          rw [advance_placeless s d.offset budget pushing id scene waiting placed]
          exact ends_fault _
      | some origin =>
          by_cases inside : s.onBoard (origin.shift d.offset) = true
          · rw [advance_eq s d.offset budget pushing id origin scene waiting placed inside]
            obtain ⟨start, stood, _⟩ := Option.map_eq_some_iff.mp ((tracked id).symm.trans placed)
            have set_out : Underway s d.offset scene.moved.length scene := ⟨tracked, onFoot, Nat.le_refl _⟩
            apply ends_bind
            · apply clearing_ends s d.offset budget scene.moved.length (id :: pushing) ?_ id _ scene set_out
              intro occupant next underway
              have later := underway.later
              have fewer := idle_push s pushing id start stood waiting
              apply ih (id :: pushing) occupant next underway.tracked underway.onFoot
              unfold depth at enough ⊢
              omega
            · intro cleared clearing
              have clears := chain_of_clear s d.offset _ (id :: pushing) id
                (chain_of_advance s d.offset budget (id :: pushing)) _ scene cleared clearing
              have still := (chain_waiting s d.offset _ _ _ _ clears id List.mem_cons_self).1.trans placed
              have settled := underway_settle s d.offset _ cleared id origin
                (chain_underway s d.offset _ _ _ scene cleared clears set_out) still inside
              apply following_ends s d.offset budget (scene.moved.length + 1) pushing ?_ _ _ settled
              intro follower next underway
              have later := underway.later
              have most := moved_length_le s d next underway.onFoot
              apply ih pushing follower next underway.tracked underway.onFoot
              unfold depth at enough ⊢
              omega
          · rw [advance_outside s d.offset budget pushing id origin scene waiting placed inside]
            exact ends_refused

theorem depth_start (s : State) : depth s [] ⟨s.positions, []⟩ ≤ s.positions.size * (span s + 1) := by
  have few : idle s [] ≤ s.positions.ids.length := by
    rw [idle, List.toFinset_nil, Finset.sdiff_empty]
    exact List.toFinset_card_le _
  rw [EntityMap.ids, List.length_map] at few
  rw [depth, Nat.mul_succ, List.length_nil, Nat.sub_zero]
  exact Nat.add_le_add_left few _

theorem budget_enough (s : State) : s.positions.size * (span s + 1) < budget s :=
  Nat.mul_lt_mul_of_lt_of_le (Nat.lt_succ_self _) (Nat.le_succ _) (Nat.succ_pos _)

theorem chains_end (s : State) (id : EntityId) (d : Direction) (calls : Nat)
    (enough : s.positions.size * (s.extent.width.toNat + s.extent.height.toNat + 1) < calls) :
    advance s d.offset calls [] id ⟨s.positions, []⟩ ≠ .error .exhausted ∧
      advance s d.offset calls [] id ⟨s.positions, []⟩ = advance s d.offset (budget s) [] id ⟨s.positions, []⟩ ∧
      ∀ scene, advance s d.offset calls [] id ⟨s.positions, []⟩ = .ok scene →
        scene.moved.length ≤ s.positions.size * (s.extent.width.toNat + s.extent.height.toNat) := by
  have ends := advance_ends s d (s.positions.size * (span s + 1) + 1) [] id ⟨s.positions, []⟩
    (tracked_start s d.offset) (on_foot_start s d.offset) (Nat.lt_succ_of_le (depth_start s))
  have alike (more : Nat) (beyond : s.positions.size * (span s + 1) < more) :
      advance s d.offset more [] id ⟨s.positions, []⟩ =
        advance s d.offset (s.positions.size * (span s + 1) + 1) [] id ⟨s.positions, []⟩ := by
    obtain ⟨rest, rfl⟩ := Nat.exists_eq_add_of_le (Nat.succ_le_of_lt beyond)
    exact advance_more s d.offset _ rest [] id _ ends
  refine ⟨?_, ?_, ?_⟩
  · rw [alike calls enough]
    exact ends
  · rw [alike calls enough, alike (budget s) (budget_enough s)]
  · intro scene completed
    have chain := chain_of_advance s d.offset calls [] id _ scene completed
    exact moved_length_le s d scene
      (chain_on_foot s d.offset [] _ _ scene chain (tracked_start s d.offset) (on_foot_start s d.offset)).2

theorem second_push_ends :
    let s := State.ofTiles ⟨4, 1⟩ [⟨1, "obj-tree", ⟨0, 0⟩⟩, ⟨2, "obj-human", ⟨1, 0⟩⟩, ⟨3, "txt-human", ⟨1, 0⟩⟩]
      ⟨[("tree", [.pull])], []⟩ (some 2)
    s.positions.size * (s.extent.width.toNat + s.extent.height.toNat + 1) < 19 ∧
      ∃ scene, advance s Direction.right.offset 19 [] 2 ⟨s.positions, []⟩ = .ok scene ∧
        advance s Direction.right.offset (budget s) [] 2 ⟨s.positions, []⟩ = .ok scene ∧
        scene.moved = [1, 3, 2, 2] ∧ scene.moved.length ≤ 15 := by
  intro s
  have enough : s.positions.size * (s.extent.width.toNat + s.extent.height.toNat + 1) < 19 := by decide
  have done : advance s Direction.right.offset 19 [] 2 ⟨s.positions, []⟩ =
      .ok ⟨⟨[(1, ⟨1, 0⟩), (2, ⟨3, 0⟩), (3, ⟨2, 0⟩)], by decide⟩, [1, 3, 2, 2]⟩ := by rfl
  obtain ⟨_, same, few⟩ := chains_end s 2 .right 19 enough
  exact ⟨enough, _, done, same.symm.trans done, rfl, few _ done⟩

end KanjiPuzzle.Movement
