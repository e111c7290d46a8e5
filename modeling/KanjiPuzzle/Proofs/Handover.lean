import KanjiPuzzle.Proofs.Reached
import KanjiPuzzle.Proofs.Report

set_option autoImplicit false

/- How a role changes hands. While its holder is alive and any rule grants the role, only a new sentence and a noun's
   own cell hand it on, and both of them tell of it. -/
namespace KanjiPuzzle

def State.Announces (s : State) (role : Role) : Prop :=
  ∃ e ∈ s.events, e.kind = .roleShift ∧ ∃ told, e.message = role.name ++ told

theorem State.announces_later (s t : State) (role : Role) (announced : s.Announces role) (told : s.events <+: t.events) :
    t.Announces role := by
  obtain ⟨e, member, kind⟩ := announced
  exact ⟨e, told.subset member, kind⟩

theorem State.handed_announces (s t : State) (role other : Role) (r : Rule) (handed : s.Handed role r t) :
    t.holder other = s.holder other ∨ t.Announces other := by
  obtain ⟨id, cell, told, _, _, _, _, rfl⟩ := handed
  by_cases same : role = other
  · subst same
    exact .inr ⟨⟨.roleShift, role.name ++ told, cell :: r.cells⟩, List.mem_append_right _ List.mem_cons_self, rfl, told,
      rfl⟩
  · have passed := (s.holder_with role other (some id)).trans (if_neg same)
    exact .inl ((retold_holder _ _ (retold_report _ _) other).trans passed)

namespace Roles

-- No role has passed on since a state but the report says so.
def Spoken (s t : State) : Prop := ∀ role, t.holder role = s.holder role ∨ t.Announces role

theorem handed_spoken (s t u : State) (role : Role) (r : Rule) (spoken : Spoken s t) (handed : t.Handed role r u) :
    Spoken s u := by
  have told := State.reports_keep t u .roleShift (t.handed_reports u role r handed)
  intro other
  rcases spoken other with same | announced
  · exact (t.handed_announces u role other r handed).imp_left fun kept => kept.trans same
  · exact .inr (t.announces_later u other announced told)

theorem capture_new_spoken (s t : State) (before : List Rule) (done : captureNew s before = .ok t) : Spoken s t :=
  (capture_new_keeps (Spoken s) s (fun t u role r _ spoken _ handed => handed_spoken s t u role r spoken handed)
    (fun _ => .inl rfl) before t done).1

theorem trigger_slots_spoken (s t : State) (done : triggerSlots s = .ok t) : Spoken s t :=
  (trigger_slots_keeps (Spoken s) s (fun t u role r _ spoken _ handed => handed_spoken s t u role r spoken handed)
    (fun _ => .inl rfl) t done).1

theorem refresh_parts (s t : State) (done : refresh s = .ok t) :
    ∃ player goal, heir s .player = .ok player ∧ heir s .goal = .ok goal ∧
      t = { s with player := player, goal := goal } := by
  obtain ⟨middle, first, second⟩ := Attempt.bind_ok _ _ _ done
  rw [refresh_role_eq] at first second
  obtain ⟨player, plays, first⟩ := Attempt.bind_ok _ _ _ first
  obtain ⟨goal, aims, second⟩ := Attempt.bind_ok _ _ _ second
  cases first
  cases second
  exact ⟨player, goal, plays, (heir_recast s _ .goal (s.recast_holder .player player) rfl).symm.trans aims, rfl⟩

theorem refresh_heir (s t : State) (done : refresh s = .ok t) (role : Role) : heir s role = .ok (t.holder role) := by
  obtain ⟨player, goal, plays, aims, rfl⟩ := refresh_parts s t done
  cases role with
  | player => exact plays
  | goal => exact aims

theorem heir_kept (s : State) (role : Role) (id : EntityId) (granted : hasGrantRule s role.property = true)
    (held : s.holder role = some id) (alive : s.Alive id) : heir s role = .ok (some id) := by
  rw [heir, (kept_iff s role id).mpr ⟨granted, held, alive⟩]

theorem refresh_keeps (s t : State) (role : Role) (id : EntityId) (done : refresh s = .ok t)
    (granted : hasGrantRule s role.property = true) (held : s.holder role = some id) (alive : s.Alive id) :
    t.holder role = some id :=
  Except.ok.inj ((refresh_heir s t done role).symm.trans (heir_kept s role id granted held alive))

theorem grant_rule_alike (s t : State) (p : Property) (same : t.rules = s.rules) :
    hasGrantRule t p = hasGrantRule s p := by
  rw [hasGrantRule, hasGrantRule, same]

end Roles

namespace Turn

section Follow

variable (g : Stages) (before : List Rule) (d : Direction) (t : State) (follow : g.Follow before d t)
include follow

theorem triggered_keeps (role : Role) (id : EntityId) (granted : Roles.hasGrantRule t role.property = true)
    (held : g.triggered.holder role = some id) (alive : t.Alive id) : t.holder role = some id := by
  have ranking := (triggered_ranked g before d t follow).2
  obtain ⟨onward, holder⟩ := ranked_melted g before d t follow
  have casting := (melted_cast g before d t follow).2.1
  have melted_alive := (g.melted.recast_alive t casting id).mp alive
  have triggered_alive := (g.triggered.recast_alive g.ranked ranking id).mp (onward.alive id melted_alive)
  have melted_rules := g.melted.recast_rules t casting
  have ranked_rules := g.triggered.recast_rules g.ranked ranking
  have granted_melted := (Roles.grant_rule_alike g.melted t role.property melted_rules).symm.trans granted
  have granted_triggered := (Roles.grant_rule_alike g.triggered g.melted role.property
    (onward.rules.trans ranked_rules)).symm.trans granted_melted
  have ranked_held := Roles.refresh_keeps g.triggered g.ranked role id follow.ranks granted_triggered held triggered_alive
  rw [(cast_retold g before d t follow).2 role]
  exact Roles.refresh_keeps g.melted g.cast role id follow.casts granted_melted ((holder role).trans ranked_held)
    melted_alive

theorem triggered_spoken (role : Role) : g.triggered.holder role = g.read.holder role ∨ t.Announces role := by
  have told := triggered_told g before d t follow
  rcases Roles.trigger_slots_spoken g.captured g.triggered follow.triggers role with same | announced
  · rcases Roles.capture_new_spoken g.read g.captured before follow.captures role with kept | announced
    · exact .inl (same.trans kept)
    · have triggering := State.reports_keep _ _ _ (Roles.trigger_slots_reports g.captured g.triggered follow.triggers)
      exact .inr (g.captured.announces_later t role announced (triggering.trans told))
  · exact .inr (g.triggered.announces_later t role announced told)

end Follow

-- The roles are at rest between two turns, and neither the movement nor the reading touches them.
theorem lead_holder (g : Stages) (s t : State) (d : Direction) (lead : g.Lead s d t)
    (rest : ∀ role, Roles.AtRest s role) (role : Role) : g.read.holder role = s.holder role := by
  have refreshed := lead.refreshes
  have quiet (role : Role) : Roles.AtRest s.quiet role :=
    Roles.at_rest_recast s s.quiet role ⟨s.player, s.goal, s.won, [], rfl⟩ (by cases role <;> rfl) (rest role)
  rw [Roles.refresh_at_rest s.quiet quiet] at refreshed
  obtain ⟨_, _, _, gone⟩ := Movement.run_ok _ g.gone g.player d lead.moves
  have counted : g.counted.holder role = s.holder role := by
    rw [lead.follow.counts, gone, ← Except.ok.inj refreshed]
    cases role <;> rfl
  have reading := g.fused.reread_holder g.read (Reading.run_reread g.fused g.read true lead.follow.reads) role
  exact reading.trans ((Fusion.run_holder g.counted g.fused lead.follow.fuses role).trans counted)

theorem lead_handover (g : Stages) (s t : State) (d : Direction) (lead : g.Lead s d t)
    (rest : ∀ role, Roles.AtRest s role) (role : Role) (id : EntityId) (held : s.holder role = some id)
    (granted : Roles.hasGrantRule t role.property = true) (alive : t.Alive id) :
    t.holder role = s.holder role ∨ t.Announces role := by
  refine (triggered_spoken g s.rules d t lead.follow role).imp_left fun same => ?_
  have kept := same.trans (lead_holder g s t d lead rest role)
  rw [held]
  exact triggered_keeps g s.rules d t lead.follow role id granted (kept.trans held) alive

theorem play_handover (s t : State) (d : Direction) (rest : ∀ role, Roles.AtRest s role) (played : play s d = .ok t)
    (role : Role) (changed : t.holder role ≠ s.holder role) :
    t.Announces role ∨ s.holder role = none ∨ (∃ id, s.holder role = some id ∧ ¬ t.Alive id) ∨
      ∀ r ∈ t.rules, r.term ≠ .property role.property := by
  rcases play_stages s t d played with ⟨_, message, rfl⟩ | ⟨g, lead⟩
  · exact absurd (by cases role <;> rfl) changed
  · cases held : s.holder role with
    | none => exact .inr (.inl rfl)
    | some id =>
        by_cases alive : t.Alive id
        · by_cases granted : Roles.hasGrantRule t role.property = true
          · exact .inl ((lead_handover g s t d lead rest role id held granted alive).resolve_left changed)
          · refine .inr (.inr (.inr fun r listed grants => granted ?_))
            exact (Roles.grant_rule_iff t role.property).mpr ⟨r, listed, grants⟩
        · exact .inr (.inr (.inl ⟨id, rfl, alive⟩))

theorem control_announced (catalog : Catalog) (level : Level) (s : State) (reached : Reached catalog level s)
    (d : Direction) :
    ∃ t, play s d = .ok t ∧ ∀ role,
      (∀ a b, s.holder role = some a → t.Alive a → t.holder role = some b → b ≠ a → t.Announces role) ∧
      (t.holder role ≠ s.holder role → t.Announces role ∨ s.holder role = none ∨
        (∃ a, s.holder role = some a ∧ ¬ t.Alive a) ∨ ∀ r ∈ t.rules, r.term ≠ .property role.property) := by
  obtain ⟨t, played, later⟩ := reached_plays catalog level s reached d
  have handover := play_handover s t d (reached_between catalog level s reached).rest played
  refine ⟨t, played, fun role => ⟨fun a b held alive holds other => ?_, handover role⟩⟩
  have changed : t.holder role ≠ s.holder role := by
    rw [held, holds]
    exact fun same => other (Option.some.inj same)
  rcases handover role changed with announced | vacant | ⟨gone, holder, dead⟩ | none
  · exact announced
  · cases vacant.symm.trans held
  · cases holder.symm.trans held
    exact absurd alive dead
  · have resting := (reached_between catalog level t later).rest role
    obtain ⟨r, listed, grants⟩ :=
      (Roles.grant_rule_iff t role.property).mp (Roles.heir_living t role b (holds ▸ resting)).1
    exact absurd grants (none r listed)

def takeover : Level where
  heading := ⟨"takeover", "Takeover", .null⟩
  extent := ⟨5, 3⟩
  placements := [⟨"obj-human", ⟨4, 2⟩⟩, ⟨"obj-tree", ⟨2, 2⟩⟩, ⟨"txt-human", ⟨0, 0⟩⟩, ⟨"txt-topic", ⟨1, 0⟩⟩,
    ⟨"txt-you", ⟨2, 0⟩⟩, ⟨"txt-tree", ⟨0, 2⟩⟩, ⟨"txt-topic", ⟨1, 2⟩⟩, ⟨"txt-you", ⟨3, 2⟩⟩]

theorem takeover_announced :
    ∃ first t, Session.loaded .standard takeover = .ok first ∧ play first .left = .ok t ∧ first.player = some 1 ∧
      t.player = some 2 ∧ t.Alive 1 ∧ t.Announces .player := by
  have walked : (do
      let first ← Session.loaded .standard takeover
      let t ← play first .left
      .ok (first.player, t.player, t.definitions.contains 1)) = Except.ok (some 1, some 2, true) := by rfl
  obtain ⟨first, load, walked⟩ := Attempt.bind_ok _ _ _ walked
  obtain ⟨t, played, walked⟩ := Attempt.bind_ok _ _ _ walked
  simp only [Except.ok.injEq, Prod.mk.injEq] at walked
  obtain ⟨human, tree, alive⟩ := walked
  obtain ⟨u, again, announced⟩ :=
    control_announced .standard takeover first (loaded_reached .standard takeover first load) .left
  cases played.symm.trans again
  exact ⟨first, t, load, played, human, tree, alive, (announced .player).1 1 2 human alive tree (by decide)⟩

end Turn

end KanjiPuzzle
