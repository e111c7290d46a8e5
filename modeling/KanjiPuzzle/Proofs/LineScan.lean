import KanjiPuzzle.Proofs.Lines

set_option autoImplicit false

/- Movement where no two entities share a cell. There the chain is a scan of the player's line in both directions: ahead
   of it the run of what can be pushed, behind it the run of what pulls. -/
namespace KanjiPuzzle.Movement

theorem others_eq_singleton (scene : Scene) (cell : Cell) (id only : EntityId)
    (stands : scene.positions.get? only = some cell) (different : only ≠ id)
    (alone : ∀ other, scene.positions.get? other = some cell → other = only) : scene.others cell id = [only] := by
  have member (other : EntityId) : other ∈ scene.others cell id ↔ other = only := by
    rw [mem_others_iff]
    constructor
    · exact fun here => alone other here.1
    · rintro rfl
      exact ⟨stands, different⟩
  have distinct := others_nodup scene cell id
  cases listed : scene.others cell id with
  | nil =>
      have inside := (member only).mpr rfl
      rw [listed] at inside
      cases inside
  | cons first rest =>
      rw [listed] at member distinct
      have head := (member first).mp List.mem_cons_self
      cases rest with
      | nil => rw [head]
      | cons second later =>
          have next := (member second).mp (List.mem_cons_of_mem first List.mem_cons_self)
          exact absurd (head.trans next.symm) fun same => (List.nodup_cons.mp distinct).1 (same ▸ List.mem_cons_self)

theorem others_eq_nil (scene : Scene) (cell : Cell) (id : EntityId)
    (empty : ∀ other, other ≠ id → scene.positions.get? other ≠ some cell) : scene.others cell id = [] := by
  rw [List.eq_nil_iff_forall_not_mem]
  intro other member
  obtain ⟨stands, different⟩ := (mem_others_iff scene cell id other).mp member
  exact empty other different stands

theorem advance_eq (s : State) (o : Offset) (budget : Nat) (pushing : List EntityId) (id : EntityId) (origin : Cell)
    (scene : Scene) (free : id ∉ pushing) (placed : scene.positions.get? id = some origin)
    (inside : s.onBoard (origin.shift o) = true) :
    advance s o (budget + 1) pushing id scene =
      ((scene.others (origin.shift o) id).foldlM (clear s (advance s o budget (id :: pushing)) id) scene >>=
        fun cleared => (followers s o origin id (cleared.settle id (origin.shift o))).foldlM
          (follow s (advance s o budget pushing) pushing) (cleared.settle id (origin.shift o))) := by
  rw [advance, if_neg free, placed]
  dsimp only
  rw [if_pos inside]
  apply congrArg
  funext cleared
  rw [followers]
  split
  · rfl
  · rfl

theorem advance_outside (s : State) (o : Offset) (budget : Nat) (pushing : List EntityId) (id : EntityId) (origin : Cell)
    (scene : Scene) (free : id ∉ pushing) (placed : scene.positions.get? id = some origin)
    (outside : ¬ s.onBoard (origin.shift o) = true) :
    advance s o (budget + 1) pushing id scene = .error .refused := by
  rw [advance, if_neg free, placed]
  dsimp only
  rw [if_neg outside]

theorem clear_eq (s : State) (push : EntityId → Scene → Course Scene) (id occupant : EntityId) (scene : Scene)
    (met : s.player = some id → s.isWinContact occupant = .ok false) (pushable blocking : Bool)
    (pushed : s.isPushable occupant = .ok pushable) (blocked : s.isBlocking occupant = .ok blocking) :
    clear s push id scene occupant =
      if pushable then push occupant scene else if blocking then .error .refused else .ok scene := by
  rw [clear, pushed, blocked]
  by_cases playing : s.player = some id
  · rw [if_pos playing, met playing]
    rfl
  · rw [if_neg playing]
    rfl

theorem clear_goal (s : State) (push : EntityId → Scene → Course Scene) (id occupant : EntityId) (scene : Scene)
    (playing : s.player = some id) (contact : s.isWinContact occupant = .ok true) :
    clear s push id scene occupant = .ok scene := by
  rw [clear, if_pos playing, contact]
  rfl

theorem follow_stays (s : State) (drag : EntityId → Scene → Course Scene) (pushing : List EntityId) (scene : Scene)
    (list : List EntityId) (stay : ∀ follower ∈ list, Stays s pushing scene follower) :
    list.foldlM (follow s drag pushing) scene = .ok scene := by
  induction list with
  | nil => rfl
  | cons head rest ih =>
      have here : follow s drag pushing scene head = .ok scene := by
        rw [follow]
        by_cases bound : head ∈ scene.moved ∨ head ∈ pushing
        · rw [if_pos bound]
        · have idle := ((or_assoc.mpr (stay head List.mem_cons_self)).resolve_left bound)
          rw [if_neg bound, idle]
          rfl
      rw [List.foldlM_cons, here]
      exact ih fun follower member => stay follower (List.mem_cons_of_mem head member)

structure Shifted (s : State) (c : Cell) (d : Direction) (low high : Int) (scene : Scene) : Prop where
  moved : ∀ id, id ∈ scene.moved ↔ ∃ j, low ≤ j ∧ j ≤ high ∧ s.positions.get? id = some (c.ahead d j)
  gone : ∀ id j, low ≤ j → j ≤ high → s.positions.get? id = some (c.ahead d j) →
    scene.positions.get? id = some (c.ahead d (j + 1))
  kept : ∀ id, id ∉ scene.moved → scene.positions.get? id = s.positions.get? id

section Line

variable (s : State) (c : Cell) (d : Direction) (unstacked : s.Unstacked)

theorem shifted_start (high : Int) : Shifted s c d (high + 1) high ⟨s.positions, []⟩ := by
  refine ⟨fun id => ?_, fun id j low within => ?_, fun id _ => rfl⟩
  · constructor
    · exact fun member => nomatch member
    · rintro ⟨j, low, within, _⟩
      omega
  · omega

theorem shifted_unmoved (low high j : Int) (scene : Scene) (shifted : Shifted s c d low high scene) (id : EntityId)
    (stood : s.positions.get? id = some (c.ahead d j)) (before : j < low) : id ∉ scene.moved := by
  intro moved
  obtain ⟨i, above, _, here⟩ := (shifted.moved id).mp moved
  have same := Cell.ahead_injective c d i j (Option.some.inj (here.symm.trans stood))
  omega

include unstacked

theorem shifted_settle (low high : Int) (scene : Scene) (id : EntityId)
    (shifted : Shifted s c d (low + 1) high scene) (within : low ≤ high)
    (stood : s.positions.get? id = some (c.ahead d low)) :
    Shifted s c d low high (scene.settle id (c.ahead d (low + 1))) := by
  have own (j : Int) (here : s.positions.get? id = some (c.ahead d j)) : j = low :=
    Cell.ahead_injective c d j low (Option.some.inj (here.symm.trans stood))
  constructor
  · intro other
    constructor
    · intro member
      rcases List.mem_cons.mp member with rfl | earlier
      · exact ⟨low, Int.le_refl low, within, stood⟩
      · obtain ⟨j, above, below, here⟩ := (shifted.moved other).mp earlier
        exact ⟨j, by omega, below, here⟩
    · rintro ⟨j, above, below, here⟩
      by_cases first : j = low
      · subst first
        exact List.mem_cons.mpr (.inl (unstacked other id _ here stood))
      · exact List.mem_cons_of_mem id ((shifted.moved other).mpr ⟨j, by omega, below, here⟩)
  · intro other j above below here
    rw [get_settle]
    by_cases same : id = other
    · subst same
      rw [if_pos rfl, own j here]
    · have later : j ≠ low := fun first => same (unstacked id other _ stood (first ▸ here))
      rw [if_neg same]
      exact shifted.gone other j (by omega) below here
  · intro other member
    obtain ⟨different, unmoved⟩ := not_or.mp (mt List.mem_cons.mpr member)
    rw [get_settle, if_neg (Ne.symm different)]
    exact shifted.kept other unmoved

omit unstacked in
theorem shifted_vacated (low high : Int) (scene : Scene) (shifted : Shifted s c d low high scene) (within : low ≤ high)
    (id : EntityId) : scene.positions.get? id ≠ some (c.ahead d low) := by
  intro stands
  by_cases moved : id ∈ scene.moved
  · obtain ⟨j, above, below, stood⟩ := (shifted.moved id).mp moved
    have now := shifted.gone id j above below stood
    have same := Cell.ahead_injective c d (j + 1) low (Option.some.inj (now.symm.trans stands))
    omega
  · have stood := (shifted.kept id moved).symm.trans stands
    exact moved ((shifted.moved id).mpr ⟨low, Int.le_refl low, within, stood⟩)

omit unstacked in
theorem shifted_behind (low high : Int) (scene : Scene) (shifted : Shifted s c d low high scene) (id : EntityId) :
    scene.positions.get? id = some (c.ahead d (low - 1)) ↔ s.positions.get? id = some (c.ahead d (low - 1)) := by
  constructor
  · intro stands
    by_cases moved : id ∈ scene.moved
    · obtain ⟨j, above, below, stood⟩ := (shifted.moved id).mp moved
      have now := shifted.gone id j above below stood
      have same := Cell.ahead_injective c d (j + 1) (low - 1) (Option.some.inj (now.symm.trans stands))
      omega
    · exact (shifted.kept id moved).symm.trans stands
  · intro stood
    exact (shifted.kept id (shifted_unmoved s c d low high (low - 1) scene shifted id stood (by omega))).trans stood

omit unstacked in
theorem mem_followers_shifted (low high : Int) (scene : Scene) (shifted : Shifted s c d low high scene)
    (id follower : EntityId) (member : follower ∈ followers s d.offset (c.ahead d low) id scene) :
    s.onBoard (c.ahead d (low - 1)) = true ∧ s.positions.get? follower = some (c.ahead d (low - 1)) := by
  rw [followers, Cell.ahead_back] at member
  by_cases inside : s.onBoard (c.ahead d (low - 1)) = true
  · rw [if_pos inside] at member
    have stands := ((mem_others_iff scene _ id follower).mp member).1
    exact ⟨inside, (shifted_behind s c d low high scene shifted follower).mp stands⟩
  · rw [if_neg inside] at member
    cases member

structure Column (k i : Int) (id : EntityId) (pushing : List EntityId) : Prop where
  stood : s.positions.get? id = some (c.ahead d i)
  waiting : ∀ other ∈ pushing, ∃ j < i, s.positions.get? other = some (c.ahead d j)
  player : ∀ other, s.player = some other → ∃ j ≤ i, s.positions.get? other = some (c.ahead d j)
  met : s.player = some id → ∀ occupant, s.positions.get? occupant = some (c.ahead d (i + 1)) →
    s.isWinContact occupant = .ok false
  run : ∀ j, i < j → j ≤ k → ∃ occupant, s.positions.get? occupant = some (c.ahead d j) ∧
    s.isPushable occupant = .ok true ∧ s.isBlocking occupant = .ok true

omit unstacked in
theorem column_step (k i : Int) (id next : EntityId) (pushing : List EntityId) (column : Column s c d k i id pushing)
    (here : s.positions.get? next = some (c.ahead d (i + 1))) :
    next ∉ id :: pushing ∧ Column s c d k (i + 1) next (id :: pushing) := by
  have ordered (other : EntityId) (j : Int) (there : s.positions.get? other = some (c.ahead d j)) (behind : j ≤ i) :
      next ≠ other := by
    rintro rfl
    have same := Cell.ahead_injective c d (i + 1) j (Option.some.inj (here.symm.trans there))
    omega
  constructor
  · intro member
    rcases List.mem_cons.mp member with same | earlier
    · exact ordered id i column.stood (Int.le_refl i) same
    · obtain ⟨j, behind, there⟩ := column.waiting next earlier
      exact ordered next j there (Int.le_of_lt behind) rfl
  constructor
  · exact here
  · intro other member
    rcases List.mem_cons.mp member with rfl | earlier
    · exact ⟨i, by omega, column.stood⟩
    · obtain ⟨j, behind, there⟩ := column.waiting other earlier
      exact ⟨j, by omega, there⟩
  · intro other playing
    obtain ⟨j, behind, there⟩ := column.player other playing
    exact ⟨j, by omega, there⟩
  · intro playing
    obtain ⟨j, behind, there⟩ := column.player next playing
    exact absurd rfl (ordered next j there behind)
  · intro j above below
    exact column.run j (by omega) below

theorem clear_occupant (k i : Int) (id occupant : EntityId) (pushing : List EntityId)
    (column : Column s c d k i id pushing) (push : EntityId → Scene → Course Scene)
    (here : s.positions.get? occupant = some (c.ahead d (i + 1))) (pushable blocking : Bool)
    (pushed : s.isPushable occupant = .ok pushable) (blocked : s.isBlocking occupant = .ok blocking) :
    (Scene.others ⟨s.positions, []⟩ (c.ahead d (i + 1)) id).foldlM (clear s push id) ⟨s.positions, []⟩ =
      if pushable then push occupant ⟨s.positions, []⟩ else if blocking then .error .refused
      else .ok ⟨s.positions, []⟩ := by
  have different : occupant ≠ id := fun same =>
    (column_step s c d k i id occupant pushing column here).1 (same ▸ List.mem_cons_self)
  rw [others_eq_singleton _ _ id occupant here different fun other there => unstacked other occupant _ there here,
    List.foldlM_cons, clear_eq s push id occupant _ (fun playing => column.met playing occupant here) pushable blocking
      pushed blocked]
  exact bind_pure _

-- What has room ahead is cleared: everything pushed goes one cell on. By induction on how much is pushed.
theorem line_cleared (k : Int) (budget n : Nat) (i : Int) (id : EntityId) (pushing : List EntityId) (reach : i + n = k)
    (enough : n ≤ budget) (column : Column s c d k i id pushing)
    (stop : ∀ occupant, s.positions.get? occupant = some (c.ahead d (k + 1)) →
      s.isPushable occupant = .ok false ∧ s.isBlocking occupant = .ok false)
    (inside : ∀ j, i + 1 < j → j ≤ k + 1 → s.onBoard (c.ahead d j) = true) :
    ∃ scene, (Scene.others ⟨s.positions, []⟩ (c.ahead d (i + 1)) id).foldlM
        (clear s (advance s d.offset budget (id :: pushing)) id) ⟨s.positions, []⟩ = .ok scene ∧
      Shifted s c d (i + 1) k scene := by
  induction n generalizing budget i id pushing with
  | zero =>
      have last : i = k := by omega
      subst last
      refine ⟨⟨s.positions, []⟩, ?_, shifted_start s c d i⟩
      by_cases taken : ∃ occupant, s.positions.get? occupant = some (c.ahead d (i + 1))
      · obtain ⟨occupant, here⟩ := taken
        exact clear_occupant s c d unstacked i i id occupant pushing column _ here false false (stop occupant here).1
          (stop occupant here).2
      · rw [others_eq_nil _ _ id fun other _ there => taken ⟨other, there⟩]
        rfl
  | succ n ih =>
      obtain ⟨next, here, pushable, blocking⟩ := column.run (i + 1) (by omega) (by omega)
      obtain ⟨free, later⟩ := column_step s c d k i id next pushing column here
      obtain ⟨less, rfl⟩ : ∃ less, budget = less + 1 := ⟨budget - 1, by omega⟩
      obtain ⟨scene, cleared, shifted⟩ := ih less (i + 1) next (id :: pushing) (by omega) (by omega) later
        (fun j above below => inside j (by omega) below)
      have settled := shifted_settle s c d unstacked (i + 1) k scene next shifted (by omega) here
      have room : s.onBoard ((c.ahead d (i + 1)).shift d.offset) = true := by
        rw [Cell.ahead_shift]
        exact inside (i + 1 + 1) (by omega) (by omega)
      refine ⟨scene.settle next (c.ahead d (i + 1 + 1)), ?_, settled⟩
      rw [clear_occupant s c d unstacked k i id next pushing column _ here true true pushable blocking, if_pos rfl,
        advance_eq s d.offset less (id :: pushing) next (c.ahead d (i + 1)) _ free here room, Cell.ahead_shift, cleared]
      apply follow_stays
      intro follower member
      obtain ⟨_, there⟩ := mem_followers_shifted s c d (i + 1) k _ settled next follower member
      have same : i + 1 - 1 = i := by omega
      rw [same] at there
      exact .inr (.inl (List.mem_cons.mpr (.inl (unstacked follower id _ there column.stood))))

omit unstacked in
theorem barred_later (k i : Int) (solid : Prop) (barred : (∃ j, i < j ∧ j ≤ k ∧ ¬ s.onBoard (c.ahead d j) = true) ∨ solid)
    (room : s.onBoard (c.ahead d (i + 1)) = true) :
    (∃ j, i + 1 < j ∧ j ≤ k ∧ ¬ s.onBoard (c.ahead d j) = true) ∨ solid := by
  apply barred.imp_left
  intro bar
  obtain ⟨j, above, below, outside⟩ := bar
  have other : j ≠ i + 1 := fun same => outside (same ▸ room)
  exact ⟨j, by omega, below, outside⟩

theorem line_refused (k : Int) (budget n : Nat) (i : Int) (id : EntityId) (pushing : List EntityId) (reach : i + n = k)
    (column : Column s c d k i id pushing)
    (barred : (∃ j, i + 1 < j ∧ j ≤ k + 1 ∧ ¬ s.onBoard (c.ahead d j) = true) ∨
      ∃ occupant, s.positions.get? occupant = some (c.ahead d (k + 1)) ∧ s.isPushable occupant = .ok false ∧
        s.isBlocking occupant = .ok true) :
    ∃ halt, (halt = .refused ∨ halt = .exhausted) ∧
      (Scene.others ⟨s.positions, []⟩ (c.ahead d (i + 1)) id).foldlM
        (clear s (advance s d.offset budget (id :: pushing)) id) ⟨s.positions, []⟩ = .error halt := by
  induction n generalizing budget i id pushing with
  | zero =>
      have last : i = k := by omega
      subst last
      have blocked : ∃ occupant, s.positions.get? occupant = some (c.ahead d (i + 1)) ∧
          s.isPushable occupant = .ok false ∧ s.isBlocking occupant = .ok true := by
        apply barred.resolve_left
        rintro ⟨j, above, below, _⟩
        omega
      obtain ⟨occupant, here, fixed, solid⟩ := blocked
      exact ⟨.refused, .inl rfl,
        clear_occupant s c d unstacked i i id occupant pushing column _ here false true fixed solid⟩
  | succ n ih =>
      obtain ⟨next, here, pushable, blocking⟩ := column.run (i + 1) (by omega) (by omega)
      obtain ⟨free, later⟩ := column_step s c d k i id next pushing column here
      rw [clear_occupant s c d unstacked k i id next pushing column _ here true true pushable blocking, if_pos rfl]
      cases budget with
      | zero => exact ⟨.exhausted, .inr rfl, rfl⟩
      | succ less =>
          by_cases room : s.onBoard ((c.ahead d (i + 1)).shift d.offset) = true
          · have entered : s.onBoard (c.ahead d (i + 1 + 1)) = true := by rwa [Cell.ahead_shift] at room
            obtain ⟨halt, kind, halted⟩ := ih less (i + 1) next (id :: pushing) (by omega) later
              (barred_later s c d (k + 1) (i + 1) _ barred entered)
            apply Exists.intro halt
            rw [advance_eq s d.offset less (id :: pushing) next (c.ahead d (i + 1)) _ free here room, Cell.ahead_shift,
              halted]
            exact ⟨kind, rfl⟩
          · exact ⟨.refused, .inl rfl, advance_outside s d.offset less _ next _ _ free here room⟩

theorem sole_follower (k i : Int) (id puller : EntityId) (scene : Scene) (shifted : Shifted s c d i k scene)
    (gone : id ∈ scene.moved) (inside : s.onBoard (c.ahead d (i - 1)) = true)
    (there : s.positions.get? puller = some (c.ahead d (i - 1))) :
    puller ∉ scene.moved ∧ scene.positions.get? puller = some (c.ahead d (i - 1)) ∧
      followers s d.offset (c.ahead d i) id scene = [puller] := by
  have unmoved := shifted_unmoved s c d i k (i - 1) scene shifted puller there (by omega)
  have stands := (shifted.kept puller unmoved).trans there
  refine ⟨unmoved, stands, ?_⟩
  rw [followers, Cell.ahead_back, if_pos inside]
  apply others_eq_singleton scene _ id puller stands
  · intro same
    exact unmoved (same ▸ gone)
  · intro other here
    exact unstacked other puller _ ((shifted_behind s c d i k scene shifted other).mp here) there

-- What pulls behind an entity that has gone on is drawn after it, one after the other. By induction on how much.
theorem line_followed (k l : Int) (budget m : Nat) (i : Int) (id : EntityId) (scene : Scene) (reach : i - m = l)
    (enough : m ≤ budget) (within : i ≤ k) (shifted : Shifted s c d i k scene) (gone : id ∈ scene.moved)
    (anchored : s.onBoard (c.ahead d (k + 1)) = true)
    (run : ∀ j, l ≤ j → j < i → PullsAt s (c.ahead d j))
    (stop : s.onBoard (c.ahead d (l - 1)) = true → ∀ follower,
      s.positions.get? follower = some (c.ahead d (l - 1)) → s.has .pull follower = .ok false) :
    ∃ final, (followers s d.offset (c.ahead d i) id scene).foldlM (follow s (advance s d.offset budget []) []) scene =
        .ok final ∧ Shifted s c d l k final := by
  induction m generalizing budget i id scene with
  | zero =>
      have last : i = l := by omega
      subst last
      refine ⟨scene, follow_stays s _ [] scene _ fun follower member => ?_, shifted⟩
      obtain ⟨inside, there⟩ := mem_followers_shifted s c d i k scene shifted id follower member
      exact .inr (.inr (stop inside follower there))
  | succ m ih =>
      obtain ⟨inside, puller, there, pulls⟩ := run (i - 1) (by omega) (by omega)
      obtain ⟨less, rfl⟩ : ∃ less, budget = less + 1 := ⟨budget - 1, by omega⟩
      obtain ⟨unmoved, stands, behind⟩ := sole_follower s c d unstacked k i id puller scene shifted gone inside there
      have back : i - 1 + 1 = i := by omega
      have target : s.onBoard ((c.ahead d (i - 1)).shift d.offset) = true := by
        rw [Cell.ahead_shift, back]
        exact s.on_board_between c d (i - 1) i (k + 1) (by omega) (by omega) inside anchored
      have settled : Shifted s c d (i - 1) k (scene.settle puller (c.ahead d i)) := by
        have step := shifted_settle s c d unstacked (i - 1) k scene puller (back.symm ▸ shifted) (by omega) there
        rwa [back] at step
      obtain ⟨final, followed, finished⟩ := ih less (i - 1) puller (scene.settle puller (c.ahead d i)) (by omega) (by omega)
        (by omega) settled List.mem_cons_self (fun j above below => run j above (by omega))
      have goes : advance s d.offset (less + 1) [] puller scene = .ok final := by
        rw [advance_eq s d.offset less [] puller (c.ahead d (i - 1)) scene List.not_mem_nil stands target,
          Cell.ahead_shift, back, others_eq_nil scene _ puller fun other _ =>
            shifted_vacated s c d i k scene shifted within other]
        exact followed
      have drags : follow s (advance s d.offset (less + 1) []) [] scene puller = .ok final := by
        have idle : ¬ (puller ∈ scene.moved ∨ puller ∈ []) := not_or.mpr ⟨unmoved, List.not_mem_nil⟩
        rw [follow, if_neg idle, pulls]
        exact goes
      apply Exists.intro final
      rw [behind, List.foldlM_cons, drags]
      exact ⟨rfl, finished⟩

end Line

theorem budget_covers (s : State) :
    ∃ calls, budget s = calls + 1 ∧ s.extent.width.toNat + s.extent.height.toNat ≤ calls := by
  have enough : s.extent.width.toNat + s.extent.height.toNat + 2 ≤ budget s :=
    Nat.le_mul_of_pos_left _ (Nat.succ_pos _)
  exact ⟨budget s - 1, by omega, by omega⟩

section Player

variable (s : State) (e : EntityId) (c : Cell) (d : Direction) (unstacked : s.Unstacked)
  (known : ∀ id cell, s.positions.get? id = some cell → ∃ definition, s.definitionOf id = .ok definition)
  (player : s.player = some e) (stands : s.positions.get? e = some c) (k m : Nat)

include known in
theorem occupant_judged (id : EntityId) (cell : Cell) (here : s.positions.get? id = some cell) :
    ∃ pushable blocking contact pulling, s.isPushable id = .ok pushable ∧ s.isBlocking id = .ok blocking ∧
      s.isWinContact id = .ok contact ∧ s.has .pull id = .ok pulling ∧ (pushable = true → blocking = true) := by
  obtain ⟨definition, defined⟩ := known id cell here
  refine ⟨s.pushable id definition, s.blocking id definition, s.winContact id definition, s.behaves definition .pull,
    ?_, ?_, ?_, ?_, s.pushable_blocking id definition⟩
  · rw [State.isPushable, defined]
    rfl
  · rw [State.isBlocking, defined]
    rfl
  · rw [State.isWinContact, defined]
    rfl
  · rw [State.has, defined]
    rfl

theorem not_held (test : EntityId → Attempt Bool) (cell : Cell) (none : ¬ s.HoldsAt test cell) (id : EntityId)
    (here : s.positions.get? id = some cell) (verdict : Bool) (judged : test id = .ok verdict) :
    test id = .ok false := by
  cases verdict with
  | true => exact absurd ⟨id, here, judged⟩ none
  | false => exact judged

include known player stands in
theorem column_start (pushes : PushRun s c d k) (open_cell : ¬ s.HoldsAt s.isWinContact (c.ahead d 1)) :
    Column s c d k 0 e [] := by
  have stood : s.positions.get? e = some (c.ahead d 0) := by rwa [Cell.ahead_zero]
  constructor
  · exact stood
  · intro other member
    cases member
  · intro other playing
    cases player.symm.trans playing
    exact ⟨0, Int.le_refl 0, stood⟩
  · intro _ occupant here
    obtain ⟨_, _, contact, _, _, _, met, _, _⟩ := occupant_judged s known occupant _ here
    exact not_held s s.isWinContact _ open_cell occupant here contact met
  · intro j above below
    obtain ⟨occupant, here, pushed⟩ := pushes.run j (by omega) below
    obtain ⟨pushable, blocking, _, _, judged, blocked, _, _, solid⟩ := occupant_judged s known occupant _ here
    cases judged.symm.trans pushed
    cases solid rfl
    exact ⟨occupant, here, pushed, blocked⟩

include unstacked known player stands

theorem front_cleared (pushes : PushRun s c d k) (room : Room s c d k) (budget : Nat) (enough : k ≤ budget) :
    ∃ scene, (Scene.others ⟨s.positions, []⟩ (c.ahead d (0 + 1)) e).foldlM
        (clear s (advance s d.offset budget [e]) e) ⟨s.positions, []⟩ = .ok scene ∧ Shifted s c d (0 + 1) k scene := by
  by_cases goal : s.HoldsAt s.isWinContact (c.ahead d 1)
  · cases pushes.goal goal
    obtain ⟨occupant, here, contact⟩ := goal
    refine ⟨⟨s.positions, []⟩, ?_, shifted_start s c d 0⟩
    have different : occupant ≠ e := by
      rintro rfl
      have same := Cell.ahead_injective c d 1 0 ((Option.some.inj (here.symm.trans stands)).trans (c.ahead_zero d).symm)
      omega
    rw [Int.zero_add, others_eq_singleton _ _ e occupant here different fun other there =>
      unstacked other occupant _ there here, List.foldlM_cons, clear_goal s _ e occupant _ player contact]
    rfl
  · refine line_cleared s c d unstacked k budget k 0 e [] (Int.zero_add _) enough
      (column_start s e c d known player stands k pushes goal) ?_ (fun j above below => room.1 j (by omega) below)
    intro occupant here
    obtain ⟨pushable, blocking, _, _, pushed, blocked, _, _, _⟩ := occupant_judged s known occupant _ here
    constructor
    · exact not_held s s.isPushable _ (pushes.longest goal) occupant here pushable pushed
    · exact not_held s s.isBlocking _ (fun held => goal (room.2 held).2) occupant here blocking blocked

theorem front_refused (pushes : PushRun s c d k) (full : ¬ Room s c d k) (first : s.onBoard (c.ahead d 1) = true)
    (budget : Nat) :
    ∃ halt, (halt = .refused ∨ halt = .exhausted) ∧ (Scene.others ⟨s.positions, []⟩ (c.ahead d (0 + 1)) e).foldlM
        (clear s (advance s d.offset budget [e]) e) ⟨s.positions, []⟩ = .error halt := by
  have open_cell : ¬ s.HoldsAt s.isWinContact (c.ahead d 1) := by
    intro goal
    cases pushes.goal goal
    apply full
    constructor
    · intro j above below
      have same : j = 1 := by omega
      rw [same]
      exact first
    · intro _
      exact ⟨rfl, goal⟩
  apply line_refused s c d unstacked k budget k 0 e [] (Int.zero_add _)
    (column_start s e c d known player stands k pushes open_cell)
  by_cases outside : ∃ j : Int, 0 + 1 < j ∧ j ≤ k + 1 ∧ ¬ s.onBoard (c.ahead d j) = true
  · exact .inl outside
  · right
    apply Classical.byContradiction
    intro free
    apply full
    constructor
    · intro j above below
      by_cases next : j = 1
      · rw [next]
        exact first
      · exact Classical.byContradiction fun off => outside ⟨j, by omega, below, off⟩
    · rintro ⟨occupant, here, solid⟩
      obtain ⟨pushable, _, _, _, pushed, _, _, _, _⟩ := occupant_judged s known occupant _ here
      exact absurd ⟨occupant, here, not_held s s.isPushable _ (pushes.longest open_cell) occupant here pushable pushed,
        solid⟩ free

theorem line_goes (pushes : PushRun s c d k) (pulls : PullRun s c d m) (room : Room s c d k) :
    ∃ scene, run s e d = .ok (some { s with positions := scene.positions }) ∧ Shifted s c d (-m) k scene := by
  obtain ⟨calls, budgeted, enough⟩ := budget_covers s
  have first : s.onBoard (c.ahead d 1) = true := room.1 1 (Int.le_refl 1) (by omega)
  have last : s.onBoard (c.ahead d (k + 1)) = true := room.1 (k + 1) (by omega) (Int.le_refl _)
  have ahead := s.on_board_reach c d 1 (k + 1) first last
  have behind : m ≤ calls := by
    cases m with
    | zero => exact Nat.zero_le calls
    | succ n =>
        have far := s.on_board_reach c d (-(n + 1 : Nat)) 1 (pulls.run (n + 1 : Nat) (by omega) (Int.le_refl _)).1 first
        omega
  have stood : s.positions.get? e = some (c.ahead d 0) := by rwa [Cell.ahead_zero]
  obtain ⟨cleared, clearing, shifted⟩ := front_cleared s e c d unstacked known player stands k pushes room calls (by omega)
  obtain ⟨final, followed, finished⟩ := line_followed s c d unstacked k (-m) calls m 0 e
    (cleared.settle e (c.ahead d (0 + 1))) (by omega) behind (by omega)
    (shifted_settle s c d unstacked 0 k cleared e shifted (by omega) stood) List.mem_cons_self last
    (by
      intro j above below
      have held := pulls.run (-j) (by omega) (by omega)
      rwa [Int.neg_neg] at held)
    (by
      intro inside follower here
      have same : -(m : Int) - 1 = -(m + 1) := by omega
      rw [same] at inside here
      obtain ⟨_, _, _, pulling, _, _, _, judged, _⟩ := occupant_judged s known follower _ here
      exact not_held s (s.has .pull) _ (fun held => pulls.longest ⟨inside, held⟩) follower here pulling judged)
  apply Exists.intro final
  have inside : s.onBoard ((c.ahead d 0).shift d.offset) = true := by rwa [Cell.ahead_shift]
  rw [run, stands, budgeted, advance_eq s d.offset calls [] e (c.ahead d 0) _ List.not_mem_nil stood inside,
    Cell.ahead_shift, clearing]
  dsimp only [bind, Except.bind]
  rw [followed]
  exact ⟨rfl, finished⟩

theorem line_stops (pushes : PushRun s c d k) (full : ¬ Room s c d k) : run s e d = .ok none := by
  obtain ⟨calls, budgeted, _⟩ := budget_covers s
  have stood : s.positions.get? e = some (c.ahead d 0) := by rwa [Cell.ahead_zero]
  by_cases first : s.onBoard ((c.ahead d 0).shift d.offset) = true
  · have front := first
    rw [Cell.ahead_shift] at front
    obtain ⟨halt, kind, halted⟩ := front_refused s e c d unstacked known player stands k pushes full front calls
    rw [run, stands, budgeted, advance_eq s d.offset calls [] e (c.ahead d 0) _ List.not_mem_nil stood first,
      Cell.ahead_shift, halted]
    rcases kind with rfl | rfl
    · rfl
    · rfl
  · rw [run, stands, budgeted, advance_outside s d.offset calls [] e (c.ahead d 0) _ List.not_mem_nil stood first]

end Player

theorem movement_scans_line (s : State) (e : EntityId) (c : Cell) (d : Direction) (unstacked : s.Unstacked)
    (known : ∀ id cell, s.positions.get? id = some cell → ∃ definition, s.definitionOf id = .ok definition)
    (player : s.player = some e) (stands : s.positions.get? e = some c) :
    (∃ k, PushRun s c d k) ∧ (∃ m, PullRun s c d m) ∧
      ∀ k m, PushRun s c d k → PullRun s c d m →
        ((∃ next, run s e d = .ok (some next)) ↔ Room s c d k) ∧ (¬ Room s c d k → run s e d = .ok none) ∧
          ∀ next, run s e d = .ok (some next) → ShiftsLine s next c d k m := by
  refine ⟨push_run_exists s c d, pull_run_exists s c d, fun k m pushes pulls => ?_⟩
  have stops := line_stops s e c d unstacked known player stands k pushes
  have goes (next : State) (done : run s e d = .ok (some next)) : Room s c d k := by
    apply Classical.byContradiction
    intro full
    cases (stops full).symm.trans done
  refine ⟨⟨fun ⟨next, done⟩ => goes next done, fun room => ?_⟩, stops, fun next done => ?_⟩
  · obtain ⟨scene, done, _⟩ := line_goes s e c d unstacked known player stands k m pushes pulls room
    exact ⟨_, done⟩
  · obtain ⟨scene, moved, shifted⟩ :=
      line_goes s e c d unstacked known player stands k m pushes pulls (goes next done)
    cases done.symm.trans moved
    constructor
    · intro id j above below here
      exact shifted.gone id j above below here
    · intro id apart
      apply shifted.kept id
      intro member
      obtain ⟨j, above, below, here⟩ := (shifted.moved id).mp member
      exact apart j above below here
    · rfl

theorem line_goes_along :
    let s := State.ofTiles ⟨6, 1⟩ [⟨1, "obj-tree", ⟨0, 0⟩⟩, ⟨2, "obj-human", ⟨2, 0⟩⟩, ⟨3, "txt-human", ⟨3, 0⟩⟩,
      ⟨4, "txt-tree", ⟨4, 0⟩⟩, ⟨5, "obj-tree", ⟨1, 0⟩⟩, ⟨6, "obj-rock", ⟨5, 0⟩⟩] ⟨[("tree", [.pull])], []⟩ (some 2)
    ∃ next, run s 2 .right = .ok (some next) ∧ ShiftsLine s next ⟨2, 0⟩ .right 2 2 := by
  intro s
  have known (id : EntityId) (cell : Cell) (here : s.positions.get? id = some cell) :
      ∃ definition, s.definitionOf id = .ok definition := by
    have listed : ∀ entry ∈ s.positions.entries, (s.definitionOf entry.1).toOption.isSome = true := by decide +kernel
    have answers := listed (id, cell) ((s.positions.mem_entries_iff id cell).mpr here)
    cases answer : s.definitionOf id with
    | error f =>
        rw [answer] at answers
        cases answers
    | ok definition => exact ⟨definition, rfl⟩
  have pushes : PushRun s ⟨2, 0⟩ .right 2 := by
    constructor
    · decide +kernel
    · intro j above below
      obtain rfl | rfl : j = 1 ∨ j = 2 := by omega
      · decide +kernel
      · decide +kernel
    · decide +kernel
  have pulls : PullRun s ⟨2, 0⟩ .right 2 := by
    constructor
    · intro j above below
      obtain rfl | rfl : j = 1 ∨ j = 2 := by omega
      · decide +kernel
      · decide +kernel
    · decide +kernel
  have room : Room s ⟨2, 0⟩ .right 2 := by
    constructor
    · intro j above below
      obtain rfl | rfl | rfl : j = 1 ∨ j = 2 ∨ j = 3 := by omega
      · rfl
      · rfl
      · rfl
    · decide +kernel
  obtain ⟨goes, _, moves⟩ :=
    (movement_scans_line s 2 ⟨2, 0⟩ .right (by decide +kernel) known rfl rfl).2.2 2 2 pushes pulls
  obtain ⟨next, done⟩ := goes.mpr room
  exact ⟨next, done, moves next done⟩

end KanjiPuzzle.Movement
