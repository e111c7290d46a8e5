import KanjiPuzzle.Proofs.Closure

set_option autoImplicit false

/- What a movement leaves as it was. A chain keeps to the line of the entity that starts it: whom it names stands on
   that line, before and after, and whom it takes along was pushed or drawn. All the rest of the game stays. -/
namespace KanjiPuzzle

namespace Cell

def Aligned (d : Direction) (a b : Cell) : Prop :=
  match d with
  | .left | .right => a.y = b.y
  | .up | .down => a.x = b.x

theorem aligned_refl (d : Direction) (a : Cell) : Aligned d a a := by
  cases d <;> rfl

theorem aligned_advance (d : Direction) (a b : Cell) (steps : Nat) :
    Aligned d a (b.advance d.offset steps) ↔ Aligned d a b := by
  cases d <;> simp [Aligned, advance, Direction.offset]

theorem aligned_shift (d : Direction) (a b : Cell) : Aligned d a (b.shift d.offset) ↔ Aligned d a b := by
  rw [← advance_one, aligned_advance]

theorem aligned_back (d : Direction) (a b : Cell) : Aligned d a (b.back d.offset) ↔ Aligned d a b := by
  rw [← aligned_shift, shift_back]

end Cell

namespace Movement

def OnFoot (s : State) (o : Offset) (scene : Scene) : Prop :=
  ∀ id ∈ scene.moved, ∃ start, s.positions.get? id = some start ∧ s.onBoard (start.shift o) = true ∧
    s.onBoard (start.advance o (scene.moved.count id)) = true

theorem on_foot_settle (s : State) (o : Offset) (scene : Scene) (id : EntityId) (origin : Cell)
    (tracked : Tracked s o scene) (onFoot : OnFoot s o scene) (placed : scene.positions.get? id = some origin)
    (inside : s.onBoard (origin.shift o) = true) : OnFoot s o (scene.settle id (origin.shift o)) := by
  intro other member
  by_cases same : id = other
  · subst same
    obtain ⟨start, stood, here⟩ := Option.map_eq_some_iff.mp ((tracked id).symm.trans placed)
    have last : s.onBoard (start.advance o (scene.moved.count id + 1)) = true := by
      rwa [← Cell.advance_succ, here]
    apply Exists.intro start
    simp only [Scene.settle, List.count_cons_self]
    by_cases earlier : id ∈ scene.moved
    · obtain ⟨known, there, first, _⟩ := onFoot id earlier
      cases stood.symm.trans there
      exact ⟨stood, first, last⟩
    · rw [List.count_eq_zero_of_not_mem earlier, Cell.advance_one] at last
      rw [List.count_eq_zero_of_not_mem earlier, Cell.advance_one]
      exact ⟨stood, last, last⟩
  · have earlier := (List.mem_cons.mp member).resolve_left (Ne.symm same)
    simpa only [Scene.settle, List.count_cons_of_ne same] using onFoot other earlier

theorem chain_on_foot (s : State) (o : Offset) (pushing : List EntityId) (task : Task) (scene final : Scene)
    (chain : Chain s o pushing task scene final) (tracked : Tracked s o scene) (onFoot : OnFoot s o scene) :
    Tracked s o final ∧ OnFoot s o final := by
  apply chain_keeps s o (fun later => Tracked s o later ∧ OnFoot s o later) ?_ pushing task scene final chain
    ⟨tracked, onFoot⟩
  intro later id origin before placed inside
  exact ⟨tracked_settle s o later id origin before.1 placed,
    on_foot_settle s o later id origin before.1 before.2 placed inside⟩

theorem on_foot_start (s : State) (o : Offset) : OnFoot s o ⟨s.positions, []⟩ :=
  fun _ member => nomatch member

def Names : Task → EntityId → Prop
  | .go id, other => other = id
  | .clear _ occupants, other => other ∈ occupants
  | .follow entities, other => other ∈ entities

def OnLine (s : State) (d : Direction) (home : Cell) (id : EntityId) : Prop :=
  ∃ start, s.positions.get? id = some start ∧ Cell.Aligned d home start

-- Nobody leaves its line, so it does not matter when one looks.
theorem on_line_iff (s : State) (d : Direction) (home cell : Cell) (scene : Scene) (id : EntityId)
    (tracked : Tracked s d.offset scene) (stands : scene.positions.get? id = some cell) :
    OnLine s d home id ↔ Cell.Aligned d home cell := by
  obtain ⟨start, stood, here⟩ := Option.map_eq_some_iff.mp ((tracked id).symm.trans stands)
  rw [← here, Cell.aligned_advance]
  constructor
  · rintro ⟨known, there, aligned⟩
    cases stood.symm.trans there
    exact aligned
  · exact fun aligned => ⟨start, stood, aligned⟩

theorem others_on_line (s : State) (d : Direction) (home cell : Cell) (scene : Scene) (id other : EntityId)
    (tracked : Tracked s d.offset scene) (aligned : Cell.Aligned d home cell) (member : other ∈ scene.others cell id) :
    OnLine s d home other :=
  (on_line_iff s d home cell scene other tracked ((mem_others_iff scene cell id other).mp member).1).mpr aligned

theorem followers_on_line (s : State) (d : Direction) (home origin : Cell) (scene : Scene) (id follower : EntityId)
    (tracked : Tracked s d.offset scene) (aligned : Cell.Aligned d home origin)
    (member : follower ∈ followers s d.offset origin id scene) : OnLine s d home follower := by
  rw [followers] at member
  by_cases inside : s.onBoard (origin.back d.offset) = true
  · rw [if_pos inside] at member
    exact others_on_line s d home _ scene id follower tracked ((Cell.aligned_back d home origin).mpr aligned) member
  · rw [if_neg inside] at member
    cases member

def TakenAlong (s : State) (id : EntityId) : Prop := s.isPushable id = .ok true ∨ s.has .pull id = .ok true

def MayMove (s : State) : Task → EntityId → Prop
  | .go mover, id => id = mover ∨ TakenAlong s id
  | .clear _ _, id => TakenAlong s id
  | .follow _, id => TakenAlong s id

theorem taken_of_told (s : State) (head id : EntityId) (taken : TakenAlong s head) (told : MayMove s (.go head) id) :
    TakenAlong s id := by
  rcases told with rfl | other
  · exact taken
  · exact other

theorem chain_stays_in_line (s : State) (d : Direction) (home : Cell) (pushing : List EntityId) (task : Task)
    (scene final : Scene) (chain : Chain s d.offset pushing task scene final) (tracked : Tracked s d.offset scene)
    (named : ∀ id, Names task id → OnLine s d home id) (id : EntityId) (moved : id ∈ final.moved) :
    id ∈ scene.moved ∨ (OnLine s d home id ∧ MayMove s task id) := by
  induction chain with
  | clear => exact .inl moved
  | follow => exact .inl moved
  | pass _ _ head _ _ _ _ _ ih => exact ih tracked (fun other listed => named other (List.mem_cons_of_mem head listed)) moved
  | stay _ head _ _ _ _ _ ih => exact ih tracked (fun other listed => named other (List.mem_cons_of_mem head listed)) moved
  | push _ _ head _ scene next final _ pushed moves _ movesIh laterIh =>
      rcases laterIh (chain_tracked s d.offset _ _ _ _ moves tracked)
          (fun other listed => named other (List.mem_cons_of_mem head listed)) moved with before | now
      · have first := movesIh tracked (fun other same => same ▸ named head List.mem_cons_self) before
        exact first.imp_right (And.imp_right (taken_of_told s head id (.inl pushed)))
      · exact .inr now
  | drag _ head _ scene next final _ _ pulls moves _ movesIh laterIh =>
      rcases laterIh (chain_tracked s d.offset _ _ _ _ moves tracked)
          (fun other listed => named other (List.mem_cons_of_mem head listed)) moved with before | now
      · have first := movesIh tracked (fun other same => same ▸ named head List.mem_cons_self) before
        exact first.imp_right (And.imp_right (taken_of_told s head id (.inr pulls)))
      · exact .inr now
  | go pushing mover origin scene cleared final _ placed _ clears _ clearsIh followsIh =>
      have mover_on_line := named mover rfl
      have here := (on_line_iff s d home origin scene mover tracked placed).mp mover_on_line
      have ahead := (Cell.aligned_shift d home origin).mpr here
      have still := (chain_waiting s d.offset _ _ _ _ clears mover List.mem_cons_self).1.trans placed
      have settled := tracked_settle s d.offset cleared mover origin
        (chain_tracked s d.offset _ _ _ _ clears tracked) still
      rcases followsIh settled (fun other listed => followers_on_line s d home origin _ mover other settled here listed)
          moved with before | now
      · rcases List.mem_cons.mp before with rfl | middle
        · exact .inr ⟨mover_on_line, .inl rfl⟩
        · have first := clearsIh tracked
            (fun other listed => others_on_line s d home _ scene mover other tracked ahead listed) middle
          exact first.imp_right (And.imp_right .inr)
      · exact .inr (now.imp_right .inr)

structure StaysInLine (s next : State) (id : EntityId) (d : Direction) : Prop where
  rest : next = { s with positions := next.positions }
  placed : ∀ other, next.positions.contains other = s.positions.contains other
  goes : Displaced s next id
  line : ∀ other, Displaced s next other → ∃ home before steps, s.positions.get? id = some home ∧
    s.positions.get? other = some before ∧ Cell.Aligned d home before ∧ 0 < steps ∧
    next.positions.get? other = some (before.advance d.offset steps) ∧
    s.onBoard (before.advance d.offset steps) = true
  taken : ∀ other, Displaced s next other → other = id ∨ TakenAlong s other

theorem displaced_moved (s : State) (d : Direction) (scene : Scene) (tracked : Tracked s d.offset scene) (id : EntityId)
    (displaced : Displaced s { s with positions := scene.positions } id) : id ∈ scene.moved := by
  cases stood : s.positions.get? id with
  | none =>
      have nowhere := tracked id
      rw [stood, Option.map_none] at nowhere
      exact absurd (nowhere.trans stood.symm) displaced
  | some start => exact (displaced_iff_moved s d scene tracked id start stood).mp displaced

theorem movement_stays_in_line (s next : State) (id : EntityId) (d : Direction) (done : run s id d = .ok (some next)) :
    StaysInLine s next id d := by
  obtain ⟨scene, _, chain, rfl⟩ := run_ok s next id d done
  have start := tracked_start s d.offset
  obtain ⟨tracked, onFoot⟩ := chain_on_foot s d.offset [] _ _ scene chain start (on_foot_start s d.offset)
  have gone : id ∈ scene.moved :=
    List.count_pos_iff.mp (Nat.lt_of_le_of_lt (Nat.zero_le _) (chain_go_count s d.offset [] id _ scene chain))
  obtain ⟨home, stood, _⟩ := onFoot id gone
  have named : ∀ other, Names (.go id) other → OnLine s d home other := by
    rintro other rfl
    exact ⟨home, stood, Cell.aligned_refl d home⟩
  have along (other : EntityId) (displaced : Displaced s { s with positions := scene.positions } other) :=
    (chain_stays_in_line s d home [] _ _ scene chain start named other
      (displaced_moved s d scene tracked other displaced)).resolve_left List.not_mem_nil
  constructor
  · rfl
  · intro other
    rw [EntityMap.contains, EntityMap.contains, tracked other, Option.isSome_map]
  · exact (displaced_iff_moved s d scene tracked id home stood).mpr gone
  · intro other displaced
    have moved := displaced_moved s d scene tracked other displaced
    obtain ⟨before, there, _, inside⟩ := onFoot other moved
    obtain ⟨known, same, aligned⟩ := (along other displaced).1
    cases there.symm.trans same
    refine ⟨home, before, scene.moved.count other, stood, there, aligned, List.count_pos_iff.mpr moved, ?_, inside⟩
    rw [tracked other, there, Option.map_some]
  · exact fun other displaced => (along other displaced).2

theorem procession_stays_in_line :
    let s := State.ofTiles ⟨5, 2⟩ [⟨1, "obj-tree", ⟨0, 1⟩⟩, ⟨2, "obj-human", ⟨1, 1⟩⟩, ⟨3, "txt-human", ⟨1, 1⟩⟩,
      ⟨4, "obj-rock", ⟨2, 0⟩⟩] ⟨[("tree", [.pull])], []⟩ (some 2)
    ∃ next, run s 2 .right = .ok (some next) ∧ StaysInLine s next 2 .right ∧ Displaced s next 1 ∧ Displaced s next 3 ∧
      ¬ Displaced s next 4 ∧ next.positions.get? 2 = some ⟨3, 1⟩ := by
  intro s
  have done : run s 2 .right = .ok (some { s with
      positions := ⟨[(1, ⟨1, 1⟩), (2, ⟨3, 1⟩), (3, ⟨2, 1⟩), (4, ⟨2, 0⟩)], by decide⟩ }) := by rfl
  exact ⟨_, done, movement_stays_in_line s _ 2 .right done, by decide, by decide, by decide, rfl⟩

end Movement

end KanjiPuzzle
