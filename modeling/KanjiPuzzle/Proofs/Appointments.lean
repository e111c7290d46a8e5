import KanjiPuzzle.Proofs.Captors
import KanjiPuzzle.Proofs.NounSlots

set_option autoImplicit false

/- Who is given a role. A new sentence and a noun's own cell hand a role to an entity that the sentence speaks of; a
   refreshed role keeps its holder, passes to an entity that a rule in force grants it, or stays empty. -/
namespace KanjiPuzzle

namespace State

def Appointed (s : State) (role : Role) (t : State) : Prop :=
  ∃ r ∈ s.rules, ∃ id event, r.term = .property role.property ∧ s.StandsFor r.subject id ∧
    event.kind = .roleShift ∧ t = (s.withHolder role (some id)).report event

def Handed (s : State) (role : Role) (r : Rule) (t : State) : Prop :=
  ∃ id cell told, r.term = .property role.property ∧ s.StandsFor r.subject id ∧ s.holder role ≠ some id ∧
    s.cellOf id = .ok cell ∧ t = (s.withHolder role (some id)).report ⟨.roleShift, role.name ++ told, cell :: r.cells⟩

def Justified (s t : State) : Prop := ∀ role id, t.holder role = some id → s.holder role = some id ∨ s.Backed role id

theorem holder_with (s : State) (role other : Role) (id : Option EntityId) :
    (s.withHolder role id).holder other = if role = other then id else s.holder other := by
  cases role <;> cases other <;> rfl

theorem recast_rules (s t : State) (recast : s.Recast t) : t.rules = s.rules := by
  obtain ⟨_, _, _, _, rfl⟩ := recast
  rfl

theorem backed_recast (s t : State) (recast : s.Recast t) (role : Role) (id : EntityId) :
    t.Backed role id ↔ s.Backed role id := by
  obtain ⟨_, _, _, _, rfl⟩ := recast
  exact Iff.rfl

theorem handed_appointed (s t : State) (role : Role) (r : Rule) (listed : r ∈ s.rules) (handed : s.Handed role r t) :
    s.Appointed role t := by
  obtain ⟨id, cell, told, grants, stands, _, _, same⟩ := handed
  exact ⟨r, listed, id, _, grants, stands, rfl, same⟩

theorem appointed_recast (s t : State) (role : Role) (appointed : s.Appointed role t) : s.Recast t := by
  obtain ⟨_, _, id, event, _, _, _, rfl⟩ := appointed
  exact s.recast_trans _ _ (s.recast_holder role (some id)) (retold_recast _ _ (retold_report _ event))

end State

namespace Roles

theorem property_of_role (p : Property) (role : Role) (same : Role.ofProperty? p = some role) : p = role.property := by
  cases p <;> cases same <;> rfl

theorem capture_cases (s t : State) (r : Rule) (done : capture s r = .ok t) :
    s = t ∨ ∃ role id, r.term = .property role.property ∧ captor s r (s.holder role.other) = .ok (some id) ∧
      s.holder role ≠ some id ∧ hand s role id (fun glyph => role.name ++ " captured by " ++ glyph ++ " (" ++
        s.catalog.propertyGlyph role.property ++ ")") r = .ok t := by
  rw [capture] at done
  cases term : r.term with
  | noun target =>
      rw [term] at done
      exact .inl (Except.ok.inj done)
  | property p =>
      rw [term] at done
      dsimp only at done
      cases named : Role.ofProperty? p with
      | none =>
          rw [named] at done
          exact .inl (Except.ok.inj done)
      | some role =>
          rw [named] at done
          obtain ⟨found, caught, done⟩ := Attempt.bind_ok _ _ _ done
          cases found with
          | none => exact .inl (Except.ok.inj done)
          | some id =>
              dsimp only at done
              by_cases held : s.holder role = some id
              · rw [if_pos held] at done
                exact .inl (Except.ok.inj done)
              · rw [if_neg held] at done
                exact .inr ⟨role, id, property_of_role p role named ▸ rfl, caught, held, done⟩

theorem capture_ok (s t : State) (r : Rule) (done : capture s r = .ok t) : s = t ∨ ∃ role, s.Handed role r t := by
  refine (capture_cases s t r done).imp_right ?_
  rintro ⟨role, id, grants, caught, other, handed⟩
  obtain ⟨d, cell, _, stands, same⟩ := hand_told s t role id _ r handed
  simp only [String.append_assoc] at same
  exact ⟨role, id, cell, _, grants, (captor_ok s r _ id caught).stands, other, stands, same⟩

theorem trigger_role_ok (s t : State) (role : Role) (done : triggerRole s role = .ok t) :
    s = t ∨ ∃ r ∈ s.rules, s.Handed role r t := by
  cases trigger_role_decides s t role done with
  | idle => exact .inl rfl
  | stays => exact .inl rfl
  | passes r walker alone id d cell walks offers best other defined stands =>
      refine .inr ⟨r, walks.active, id, cell, " shifts to " ++ d.glyph ++ " (noun slot trigger)", walks.grants,
        offers.stands walks, other, stands, ?_⟩
      simp only [String.append_assoc]

-- Whatever is kept where a role is handed on, the phases that hand roles on keep.
section Appointments

variable (P : State → Prop) (s : State)
  (hand : ∀ t u role, ∀ r ∈ s.rules, P t → s.Recast t → t.Handed role r u → P u)
include hand

theorem appointment_keeps (t u : State) (held : P t ∧ s.Recast t)
    (step : t = u ∨ ∃ role, ∃ r ∈ s.rules, t.Handed role r u) : P u ∧ s.Recast u := by
  obtain ⟨holds, recast⟩ := held
  rcases step with rfl | ⟨role, r, listed, handed⟩
  · exact ⟨holds, recast⟩
  · have appointed := t.handed_appointed u role r (s.recast_rules t recast ▸ listed) handed
    exact ⟨hand t u role r listed holds recast handed, s.recast_trans t u recast (t.appointed_recast u role appointed)⟩

variable (start : P s)
include start

theorem capture_new_keeps (before : List Rule) (t : State) (done : captureNew s before = .ok t) : P t ∧ s.Recast t := by
  refine Attempt.through_keeps (fun t => P t ∧ s.Recast t) capture (newRules before s.rules) ?_ s t
    ⟨start, s.recast_refl⟩ done
  intro t u r member held captured
  have listed : r ∈ s.rules := (List.mem_filter.mp member).1
  refine appointment_keeps P s hand t u held ((capture_ok t u r captured).imp_right ?_)
  exact fun ⟨role, handed⟩ => ⟨role, r, listed, handed⟩

theorem trigger_slots_keeps (t : State) (done : triggerSlots s = .ok t) : P t ∧ s.Recast t := by
  obtain ⟨middle, first, done⟩ := Attempt.bind_ok _ _ _ done
  have once := appointment_keeps P s hand s middle ⟨start, s.recast_refl⟩
    ((trigger_role_ok s middle .player first).imp_right fun handed => ⟨.player, handed⟩)
  have same := s.recast_rules middle once.2
  exact appointment_keeps P s hand middle t once
    ((trigger_role_ok middle t .goal done).imp_right fun handed => ⟨.goal, same ▸ handed⟩)

end Appointments

theorem appointed_justified (s t u : State) (role : Role) (derived : s.effects = Effects.ofRules s.rules)
    (justified : s.Justified t) (recast : s.Recast t) (appointed : t.Appointed role u) : s.Justified u := by
  obtain ⟨r, listed, id, event, grants, stands, _, rfl⟩ := appointed
  intro other holder held
  have held : (t.withHolder role (some id)).holder other = some holder := by
    cases other <;> exact held
  rw [State.holder_with] at held
  by_cases same : role = other
  · rw [if_pos same] at held
    cases held
    subst same
    refine .inr ((s.backed_recast t recast role id).mp (t.backed_of_rule ?_ role id r listed grants stands))
    obtain ⟨_, _, _, _, rfl⟩ := recast
    exact s.granting_of_derived derived
  · rw [if_neg same] at held
    exact justified other holder held

theorem handed_justified (s t u : State) (role : Role) (r : Rule) (derived : s.effects = Effects.ofRules s.rules)
    (listed : r ∈ s.rules) (justified : s.Justified t) (recast : s.Recast t) (handed : t.Handed role r u) :
    s.Justified u :=
  appointed_justified s t u role derived justified recast
    (t.handed_appointed u role r (s.recast_rules t recast ▸ listed) handed)

theorem capture_new_ok (s t : State) (before : List Rule) (derived : s.effects = Effects.ofRules s.rules)
    (done : captureNew s before = .ok t) : s.Justified t ∧ s.Recast t :=
  capture_new_keeps s.Justified s (fun t u role r listed => handed_justified s t u role r derived listed)
    (fun _ _ held => .inl held) before t done

theorem trigger_slots_ok (s t : State) (derived : s.effects = Effects.ofRules s.rules)
    (done : triggerSlots s = .ok t) : s.Justified t ∧ s.Recast t :=
  trigger_slots_keeps s.Justified s (fun t u role r listed => handed_justified s t u role r derived listed)
    (fun _ _ held => .inl held) t done

theorem first_carrier_ok (s : State) (p : Property) (found : Option EntityId) (done : firstCarrier s p = .ok found) :
    (∀ id, found = some id → s.Alive id ∧ s.hasGrant p id = .ok true) ∧
      (found = none → ∀ id, s.Alive id → s.hasGrant p id ≠ .ok true) := by
  obtain ⟨nothing, best⟩ := first_carrier_least s p found done
  constructor
  · intro id chosen
    obtain ⟨k, least⟩ := best id chosen
    obtain ⟨d, nominee, _⟩ := (mem_nominations_iff s p k id).mp least.1
    exact ⟨s.definition_alive id d nominee.defined, (s.nominee_iff p id).mp ⟨d, nominee⟩⟩
  · intro unfound id _ granted
    obtain ⟨d, nominee⟩ := (s.nominee_iff p id).mpr granted
    exact unnominated s p (nothing unfound) id d nominee

def heir (s : State) (role : Role) : Attempt (Option EntityId) :=
  match kept? s role with
  | some id => .ok (some id)
  | none => if hasGrantRule s role.property then firstCarrier s role.property else .ok none

theorem refresh_role_eq (s : State) (role : Role) :
    refreshRole s role = (heir s role >>= fun id => .ok (s.withHolder role id)) := by
  rw [refreshRole, heir]
  cases kept? s role with
  | some id => rfl
  | none =>
      by_cases granted : hasGrantRule s role.property = true
      · simp only [if_pos granted]
      · simp only [if_neg granted]
        rfl

theorem kept_iff (s : State) (role : Role) (id : EntityId) :
    kept? s role = some id ↔ hasGrantRule s role.property = true ∧ s.holder role = some id ∧ s.Alive id := by
  rw [kept?]
  by_cases granted : hasGrantRule s role.property = true
  · rw [if_pos granted, Option.filter_eq_some_iff]
    simp only [granted, true_and, State.Alive]
  · rw [if_neg granted]
    simp [granted]

theorem grant_rule_iff (s : State) (p : Property) :
    hasGrantRule s p = true ↔ ∃ r ∈ s.rules, r.term = .property p := by
  simp [hasGrantRule, Rule.grants]

def AtRest (s : State) (role : Role) : Prop := heir s role = .ok (s.holder role)

theorem heir_living (s : State) (role : Role) (id : EntityId) (inherits : heir s role = .ok (some id)) :
    hasGrantRule s role.property = true ∧ s.Alive id ∧ (s.holder role = some id ∨ s.Backed role id) := by
  rw [heir] at inherits
  cases kept : kept? s role with
  | some holder =>
      rw [kept] at inherits
      cases inherits
      obtain ⟨granted, held, alive⟩ := (kept_iff s role id).mp kept
      exact ⟨granted, alive, .inl held⟩
  | none =>
      rw [kept] at inherits
      dsimp only at inherits
      by_cases granted : hasGrantRule s role.property = true
      · rw [if_pos granted] at inherits
        obtain ⟨alive, grant⟩ := (first_carrier_ok s role.property _ inherits).1 id rfl
        exact ⟨granted, alive, .inr (s.backed_of_grant role id grant)⟩
      · rw [if_neg granted] at inherits
        cases inherits

theorem heir_vacant (s : State) (role : Role) (vacant : heir s role = .ok none)
    (granted : hasGrantRule s role.property = true) (id : EntityId) : ¬ s.Backed role id := by
  rw [heir] at vacant
  cases kept : kept? s role with
  | some holder =>
      rw [kept] at vacant
      cases vacant
  | none =>
      rw [kept] at vacant
      dsimp only at vacant
      rw [if_pos granted] at vacant
      intro backed
      obtain ⟨d, defined, _⟩ := s.judgement_ok id (s.granted · role.property) true backed.2
      exact (first_carrier_ok s role.property none vacant).2 rfl id (s.definition_alive id d defined) backed.2

theorem heir_recast (s t : State) (role : Role) (recast : s.Recast t) (same : t.holder role = s.holder role) :
    heir t role = heir s role := by
  have kept : kept? t role = kept? s role := by
    rw [kept?, kept?, same]
    obtain ⟨_, _, _, _, rfl⟩ := recast
    rfl
  rw [heir, heir, kept]
  obtain ⟨_, _, _, _, rfl⟩ := recast
  rfl

theorem at_rest_recast (s t : State) (role : Role) (recast : s.Recast t) (same : t.holder role = s.holder role)
    (rest : AtRest s role) : AtRest t role := by
  rw [AtRest, heir_recast s t role recast same, same]
  exact rest

theorem heir_at_rest (s : State) (role : Role) (id : Option EntityId) (inherits : heir s role = .ok id) :
    AtRest (s.withHolder role id) role := by
  have holder : (s.withHolder role id).holder role = id := by rw [State.holder_with, if_pos rfl]
  rw [AtRest, holder]
  cases id with
  | some id =>
      obtain ⟨granted, alive, _⟩ := heir_living s role id inherits
      have kept : kept? (s.withHolder role (some id)) role = some id := by
        refine (kept_iff _ role id).mpr ⟨?_, holder, ?_⟩
        · cases role <;> exact granted
        · cases role <;> exact alive
      rw [heir, kept]
  | none =>
      have dropped : kept? (s.withHolder role none) role = none := by
        rw [kept?, holder, Option.filter_none, ite_self]
      rw [heir] at inherits ⊢
      cases kept : kept? s role with
      | some holder =>
          rw [kept] at inherits
          cases inherits
      | none =>
          rw [kept] at inherits
          rw [dropped]
          cases role <;> exact inherits

theorem refresh_role_ok (s t : State) (role : Role) (done : refreshRole s role = .ok t) :
    s.Recast t ∧ AtRest t role ∧ ∀ id, t.holder role = some id → s.holder role = some id ∨ s.Backed role id := by
  rw [refresh_role_eq] at done
  obtain ⟨id, inherits, done⟩ := Attempt.bind_ok _ _ _ done
  cases done
  refine ⟨s.recast_holder role id, heir_at_rest s role id inherits, fun other held => ?_⟩
  rw [State.holder_with, if_pos rfl] at held
  exact (heir_living s role other (held ▸ inherits)).2.2

theorem refresh_role_other (s t : State) (role other : Role) (different : role ≠ other)
    (done : refreshRole s role = .ok t) : t.holder other = s.holder other := by
  rw [refresh_role_eq] at done
  obtain ⟨id, _, done⟩ := Attempt.bind_ok _ _ _ done
  cases done
  rw [State.holder_with, if_neg different]

theorem refresh_ok (s t : State) (done : refresh s = .ok t) :
    s.Justified t ∧ s.Recast t ∧ ∀ role, AtRest t role := by
  obtain ⟨middle, first, second⟩ := Attempt.bind_ok _ _ _ done
  obtain ⟨playing, resting, player⟩ := refresh_role_ok s middle .player first
  obtain ⟨aiming, settled, goal⟩ := refresh_role_ok middle t .goal second
  have player_stays := refresh_role_other middle t .goal .player nofun second
  have goal_stays := refresh_role_other s middle .player .goal nofun first
  refine ⟨fun role id held => ?_, s.recast_trans middle t playing aiming, fun role => ?_⟩
  · cases role with
    | player => exact player id (player_stays ▸ held)
    | goal =>
        have backed := goal id held
        rw [goal_stays, s.backed_recast middle playing] at backed
        exact backed
  · cases role with
    | player => exact at_rest_recast middle t .player aiming player_stays resting
    | goal => exact settled

theorem refresh_at_rest (s : State) (rest : ∀ role, AtRest s role) : refresh s = .ok s := by
  have role (role : Role) : refreshRole s role = .ok s := by
    rw [refresh_role_eq, rest role]
    cases role <;> rfl
  rw [refresh, role .player]
  exact role .goal

end Roles

end KanjiPuzzle
