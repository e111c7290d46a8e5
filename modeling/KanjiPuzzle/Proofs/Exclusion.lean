import KanjiPuzzle.Proofs.NounSlots
import KanjiPuzzle.Proofs.Succession

set_option autoImplicit false

/- The player and the goal are kept apart. A new sentence hands a role on with its eye on the other role, and a noun's
   own cell does not make a goal of the player. -/
namespace KanjiPuzzle

namespace State

variable (s : State)

-- Roles have passed on to those only who are entitled to them.
structure Passes (t : State) : Prop where
  entitled : ∀ role, t.holder role ≠ s.holder role →
    ∃ id, t.holder role = some id ∧ s.Entitled role id ∧ s.Backed role id
  rest : ∃ player goal events, t = { s with player := player, goal := goal, events := events }

theorem passes_refl : s.Passes s := ⟨fun _ changed => absurd rfl changed, s.player, s.goal, s.events, rfl⟩

theorem handed_passes (granting : s.Granting) (t u : State) (role : Role) (r : Rule) (listed : r ∈ s.rules)
    (passes : s.Passes t) (handed : t.Handed role r u) : s.Passes u := by
  obtain ⟨id, cell, told, grants, stands, _, _, rfl⟩ := handed
  obtain ⟨entitled, player, goal, events, rfl⟩ := passes
  constructor
  · intro other changed
    have holder := holder_with { s with player := player, goal := goal, events := events } role other (some id)
    rw [retold_holder _ _ (retold_report _ _) other, holder] at changed ⊢
    by_cases same : role = other
    · subst same
      rw [if_pos rfl]
      exact ⟨id, rfl, s.entitled_of_rule role id r listed grants stands,
        s.backed_of_rule granting role id r listed grants stands⟩
    · rw [if_neg same] at changed ⊢
      exact entitled other changed
  · cases role with
    | player => exact ⟨some id, goal, _, rfl⟩
    | goal => exact ⟨player, some id, _, rfl⟩

end State

namespace Roles

variable (s : State)

theorem capture_apart (t : State) (r : Rule) (done : capture s r = .ok t) : s = t ∨ t.player ≠ t.goal := by
  refine (capture_cases s t r done).imp_right ?_
  rintro ⟨role, id, _, caught, _, handed⟩
  obtain ⟨_, _, _, _, rfl⟩ := hand_told s t role id _ r handed
  have spared := (captor_ok s r _ id caught).other
  cases role with
  | player => exact spared
  | goal => exact spared.symm

theorem capture_new_apart (before : List Rule) (t : State) (done : captureNew s before = .ok t) :
    t = s ∨ t.player ≠ t.goal := by
  refine Attempt.through_keeps (fun t => t = s ∨ t.player ≠ t.goal) capture (newRules before s.rules) ?_ s t (.inl rfl)
    done
  intro t u r _ held captured
  rcases capture_apart t u r captured with rfl | apart
  · exact held
  · exact .inr apart

theorem capture_none : captureNew s s.rules = .ok s := by
  have none : newRules s.rules s.rules = [] := by
    refine List.filter_eq_nil_iff.mpr fun r listed fresh => ?_
    obtain ⟨grant, unknown⟩ := (Bool.and_eq_true _ _).mp fresh
    have known : r.key ∈ (s.rules.filter Rule.isGrant).map Rule.key :=
      List.mem_map.mpr ⟨r, List.mem_filter.mpr ⟨listed, grant⟩, rfl⟩
    rw [List.contains_iff_mem.mpr known] at unknown
    cases unknown
  rw [captureNew, none]
  rfl

theorem trigger_slots_apart (t : State) (done : triggerSlots s = .ok t) (changed : t.goal ≠ s.goal) :
    t.goal ≠ t.player := by
  obtain ⟨middle, first, second⟩ := Attempt.bind_ok _ _ _ done
  have goal : middle.goal = s.goal := by
    cases trigger_role_decides s middle .player first <;> rfl
  cases trigger_role_decides middle t .goal second with
  | idle => exact absurd goal changed
  | stays => exact absurd goal changed
  | passes r walker alone id d cell walks offers best other defined stands =>
      exact fun same => offers.free rfl same.symm

theorem roles_kept_apart (sound : s.Sound) (granting : s.Granting) (before : List Rule) :
    (∃ t, captureNew s before = .ok t ∧ s.Passes t ∧ (t.player = t.goal → t = s)) ∧
      (∃ t, triggerSlots s = .ok t ∧ s.Passes t ∧ (t.goal ≠ s.goal → t.goal ≠ t.player)) ∧
      captureNew s s.rules = .ok s := by
  have keeps (t u : State) (role : Role) (r : Rule) (listed : r ∈ s.rules) (passes : s.Passes t) (_ : s.Recast t)
      (handed : t.Handed role r u) : s.Passes u := s.handed_passes granting t u role r listed passes handed
  obtain ⟨t, captured, _⟩ := capture_new_continues s sound before
  obtain ⟨u, triggered, _⟩ := trigger_slots_continues s sound
  refine ⟨⟨t, captured, ?_, fun same => ?_⟩, ⟨u, triggered, ?_, trigger_slots_apart s u triggered⟩, capture_none s⟩
  · exact (capture_new_keeps s.Passes s keeps s.passes_refl before t captured).1
  · exact (capture_new_apart s before t captured).resolve_right fun apart => apart same
  · exact (trigger_slots_keeps s.Passes s keeps s.passes_refl u triggered).1

def contestTiles : List Tile :=
  [⟨1, "obj-human", ⟨2, 0⟩⟩, ⟨2, "obj-human", ⟨0, 1⟩⟩, ⟨3, "obj-human", ⟨3, 2⟩⟩, ⟨4, "obj-tree", ⟨0, 2⟩⟩]

def contestRules : List Rule :=
  [⟨"human", .property .you, .horizontal, [⟨0, 0⟩, ⟨1, 0⟩, ⟨2, 0⟩]⟩,
    ⟨"human", .property .win, .horizontal, [⟨0, 1⟩, ⟨1, 1⟩, ⟨2, 1⟩]⟩,
    ⟨"tree", .property .you, .horizontal, [⟨0, 2⟩, ⟨1, 2⟩, ⟨2, 2⟩]⟩]

def contest : State :=
  { State.ofTiles ⟨5, 3⟩ contestTiles (.ofRules contestRules) (some 9) with
    starts := .ofList [(1, ⟨2, 0⟩), (2, ⟨1, 1⟩), (3, ⟨3, 2⟩), (4, ⟨0, 3⟩)]
    rules := contestRules
    goal := some 1 }

theorem contest_kept_apart :
    ∃ t u, contest.Sound ∧ contest.Granting ∧ captureNew contest [] = .ok t ∧ contest.Passes t ∧
      triggerSlots contest = .ok u ∧ contest.Passes u ∧ captureNew contest contest.rules = .ok contest ∧
      t.player = some 4 ∧ t.goal = some 1 ∧ t.events.map Event.cells =
        [[⟨0, 1⟩, ⟨0, 0⟩, ⟨1, 0⟩, ⟨2, 0⟩], [⟨0, 2⟩, ⟨0, 2⟩, ⟨1, 2⟩, ⟨2, 2⟩]] ∧
      u.player = some 4 ∧ u.goal = some 3 := by
  have sound : contest.Sound :=
    ⟨State.of_tiles_placed ⟨5, 3⟩ contestTiles (.ofRules contestRules) (some 9),
      State.of_tiles_known ⟨5, 3⟩ contestTiles (.ofRules contestRules) (some 9) (by decide),
      by simp [contest, contestRules]⟩
  have granting : contest.Granting := fun _ _ => rfl
  obtain ⟨⟨t, captured, passes, _⟩, ⟨u, triggered, passing, _⟩, none⟩ := roles_kept_apart contest sound granting []
  have shown := captured.symm
  have seen := triggered.symm
  refine ⟨t, u, sound, granting, captured, passes, triggered, passing, none, ?_, ?_, ?_, ?_, ?_⟩
  · exact Except.ok.inj (congrArg (Except.map State.player) shown)
  · exact Except.ok.inj (congrArg (Except.map State.goal) shown)
  · exact Except.ok.inj (congrArg (Except.map fun t : State => t.events.map Event.cells) shown)
  · exact Except.ok.inj (congrArg (Except.map State.player) seen)
  · exact Except.ok.inj (congrArg (Except.map State.goal) seen)

end Roles

end KanjiPuzzle
