import KanjiPuzzle.Proofs.WellFormed

set_option autoImplicit false

/- How long a role is held. It is given to an entity that a rule in force speaks of; from then on the holder stays for
   as long as it is alive and any rule at all grants the role. -/
namespace KanjiPuzzle

namespace State

def Carried (s : State) : Prop := ∀ role id, s.holder role = some id → s.isCarrier id = .ok true

theorem carried_alike (s t : State) (carried : s.Carried) (recast : s.Recast t)
    (holder : ∀ role, t.holder role = s.holder role) : t.Carried := by
  intro role id held
  have carrier := carried role id ((holder role).symm.trans held)
  obtain ⟨_, _, _, _, rfl⟩ := recast
  exact carrier

end State

namespace Turn

-- Some moves ago the entity was backed in the role, and it has held the role ever since.
def Tenured (first : State) (role : Role) (id : EntityId) (moves : List Direction) : Prop :=
  ∃ before since s, moves = before ++ since ∧ replay first before = .ok s ∧ s.Backed role id ∧
    ∀ part, part <+: since → ∃ t, replay s part = .ok t ∧ t.holder role = some id

theorem replay_snoc (first s t : State) (moves : List Direction) (d : Direction) (replayed : replay first moves = .ok s)
    (played : play s d = .ok t) : replay first (moves ++ [d]) = .ok t := by
  rw [replay] at replayed ⊢
  rw [Attempt.through_append, replayed]
  simp only [Attempt.through, played, bind, Except.bind]

theorem tenured_backed (first s : State) (role : Role) (id : EntityId) (moves : List Direction)
    (replayed : replay first moves = .ok s) (held : s.holder role = some id) (backed : s.Backed role id) :
    Tenured first role id moves := by
  refine ⟨moves, [], s, (List.append_nil moves).symm, replayed, backed, fun part none => ?_⟩
  rw [List.prefix_nil.mp none]
  exact ⟨s, rfl, held⟩

theorem tenured_kept (first s t : State) (role : Role) (id : EntityId) (moves : List Direction) (d : Direction)
    (replayed : replay first moves = .ok s) (played : play s d = .ok t) (held : t.holder role = some id)
    (tenured : Tenured first role id moves) : Tenured first role id (moves ++ [d]) := by
  obtain ⟨before, since, start, rfl, reached, backed, held_since⟩ := tenured
  refine ⟨before, since ++ [d], start, List.append_assoc before since [d], reached, backed, fun part earlier => ?_⟩
  rcases List.prefix_concat_iff.mp earlier with rfl | earlier
  · rw [replay, Attempt.through_append, ← replay, reached] at replayed
    exact ⟨t, replay_snoc start s t since d replayed played, held⟩
  · exact held_since part earlier

theorem play_holder (catalog : Catalog) (level : Level) (s t : State) (d : Direction)
    (between : s.Between catalog level) (carried : s.Carried) (played : play s d = .ok t) :
    t.Carried ∧ ∀ role id, t.holder role = some id → s.holder role = some id ∨ t.Backed role id := by
  have quiet (role : Role) : s.quiet.holder role = s.holder role := by
    cases role <;> rfl
  have silent : s.Recast s.quiet := ⟨s.player, s.goal, s.won, [], rfl⟩
  rcases play_ok s t d played with ⟨_, message, rfl⟩ | ⟨_, ready, refreshed, _, settles⟩
  · have holder (role : Role) : (refuse s message).holder role = s.holder role := by
      cases role <;> rfl
    exact ⟨s.carried_alike _ carried ⟨s.player, s.goal, s.won, _, rfl⟩ holder, fun role id held => .inl (holder role ▸ held)⟩
  · have rest (role : Role) := Roles.at_rest_recast s s.quiet role silent (quiet role) (between.rest role)
    rw [Roles.refresh_at_rest s.quiet rest] at refreshed
    cases refreshed
    have kept (role : Role) (id : EntityId) (held : t.holder role = some id) :
        s.holder role = some id ∨ t.Backed role id :=
      (settles.holder role id held).imp_left (quiet role).symm.trans
    refine ⟨fun role id held => ?_, kept⟩
    rcases kept role id held with before | backed
    · have alive := (Roles.heir_living s role id (before ▸ between.rest role)).2.1
      have living := (Roles.heir_living t role id (held ▸ settles.rest role)).2.1
      exact (settles.survivor id (between.numbered.living id alive).2 living).2 (carried role id before)
    · exact backed.1

structure Held (first : State) (moves : List Direction) (s : State) : Prop where
  replayed : replay first moves = .ok s
  carried : s.Carried
  tenured : ∀ role id, s.holder role = some id → Tenured first role id moves

theorem settle_held (catalog : Catalog) (level : Level) (built first : State)
    (accepted : level.toState catalog = .ok built) (settled : settle built = .ok first) : Held first [] first := by
  obtain ⟨_, _, _, _, vacant⟩ := level.to_state_fresh catalog built accepted
  have backed (role : Role) (id : EntityId) (held : first.holder role = some id) : first.Backed role id := by
    rcases (settle_ok built first settled).holder role id held with before | backed
    · rw [vacant role] at before
      cases before
    · exact backed
  exact ⟨rfl, fun role id held => (backed role id held).1, fun role id held =>
    tenured_backed first first role id [] rfl held (backed role id held)⟩

theorem play_held (catalog : Catalog) (level : Level) (first s t : State) (moves : List Direction) (d : Direction)
    (between : s.Between catalog level) (held : Held first moves s) (played : play s d = .ok t) :
    Held first (moves ++ [d]) t := by
  obtain ⟨carried, kept⟩ := play_holder catalog level s t d between held.carried played
  have replayed := replay_snoc first s t moves d held.replayed played
  refine ⟨replayed, carried, fun role id holds => ?_⟩
  rcases kept role id holds with before | backed
  · exact tenured_kept first s t role id moves d held.replayed played holds (held.tenured role id before)
  · exact tenured_backed first t role id (moves ++ [d]) replayed holds backed

theorem replay_held (catalog : Catalog) (level : Level) (first s : State) (done moves : List Direction)
    (between : s.Between catalog level) (held : Held first done s) :
    ∃ final, replay s moves = .ok final ∧ final.Between catalog level ∧ Held first (done ++ moves) final := by
  induction moves generalizing done s with
  | nil => exact ⟨s, rfl, between, (List.append_nil done).symm ▸ held⟩
  | cons d rest ih =>
      obtain ⟨next, played, still⟩ := play_between catalog level s between d
      obtain ⟨final, replayed, reached, kept⟩ :=
        ih next (done ++ [d]) still (play_held catalog level first s next done d between held played)
      rw [List.append_assoc, List.singleton_append] at kept
      refine ⟨final, ?_, reached, kept⟩
      rw [replay, Attempt.through, played]
      exact replayed

theorem holder_once_backed (catalog : Catalog) (level : Level) (built : State)
    (accepted : level.toState catalog = .ok built) (moves : List Direction) :
    ∃ first final, settle built = .ok first ∧ replay first moves = .ok final ∧
      ∀ role id, final.holder role = some id →
        final.isCarrier id = .ok true ∧ (∃ r ∈ final.rules, r.term = .property role.property) ∧
          Tenured first role id moves := by
  obtain ⟨first, settled, between⟩ := settle_between catalog level built accepted
  obtain ⟨final, replayed, reached, held⟩ := replay_held catalog level first first [] moves between
    (settle_held catalog level built first accepted settled)
  refine ⟨first, final, settled, replayed, fun role id holds => ?_⟩
  have granted := (Roles.heir_living final role id (holds ▸ reached.rest role)).1
  exact ⟨held.carried role id holds, (Roles.grant_rule_iff final role.property).mp granted, held.tenured role id holds⟩

theorem second_tree_has_its_turn :
    ∃ built first final, grove.toState .standard = .ok built ∧ settle built = .ok first ∧
      replay first [.right, .left, .left] = .ok final ∧ first.player = some 1 ∧ final.player = some 3 ∧
      final.isCarrier 3 = .ok true ∧ Tenured first .player 3 [.right, .left, .left] := by
  obtain ⟨built, first, final, accepted, settled, replayed, start, finish, _⟩ := grove_run
  obtain ⟨again, last, same, reached, holders⟩ :=
    holder_once_backed .standard grove built accepted [.right, .left, .left]
  cases settled.symm.trans same
  cases replayed.symm.trans reached
  obtain ⟨carrier, _, tenured⟩ := holders .player 3 finish
  exact ⟨built, first, final, accepted, settled, replayed, start, finish, carrier, tenured⟩

def rivals : Level where
  heading := ⟨"rivals", "Rivals", .null⟩
  extent := ⟨7, 3⟩
  placements := [⟨"txt-human", ⟨0, 1⟩⟩, ⟨"txt-topic", ⟨1, 1⟩⟩, ⟨"txt-you", ⟨2, 1⟩⟩, ⟨"txt-tree", ⟨4, 1⟩⟩,
    ⟨"txt-topic", ⟨5, 1⟩⟩, ⟨"txt-you", ⟨6, 1⟩⟩, ⟨"obj-human", ⟨2, 2⟩⟩]

-- The human pushes the tile away and plays on, though only the tree is still called the player.
theorem human_outlives_its_sentence :
    ∃ first final, Session.loaded .standard rivals = .ok first ∧ replay first [.up] = .ok final ∧
      final.moves = first.moves + 1 ∧ final.player = some 7 ∧ ¬ final.Backed .player 7 ∧ final.Backed .player 4 := by
  have walked : (do
      let first ← Session.loaded .standard rivals
      let final ← replay first [.up]
      .ok (first.moves, final.moves, final.player, final.hasGrant .you 7, final.isCarrier 4, final.hasGrant .you 4)) =
        Except.ok (0, 1, some 7, .ok false, .ok true, .ok true) := by rfl
  obtain ⟨first, loaded, walked⟩ := Attempt.bind_ok _ _ _ walked
  obtain ⟨final, replayed, walked⟩ := Attempt.bind_ok _ _ _ walked
  simp only [Except.ok.injEq, Prod.mk.injEq] at walked
  obtain ⟨none, one, player, human, carrier, tree⟩ := walked
  refine ⟨first, final, loaded, replayed, by omega, player, fun backed => ?_, carrier, tree⟩
  cases backed.2.symm.trans human

end Turn

end KanjiPuzzle
