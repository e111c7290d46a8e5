import KanjiPuzzle.Proofs.InForce
import KanjiPuzzle.Proofs.Upkeep

set_option autoImplicit false

/- Who is entitled to a role: whoever can hold one and is of a noun to which a rule grants it. Where the properties in
   force are those that the rules grant, the entitled are the same as those whom the properties in force name. -/
namespace KanjiPuzzle

namespace State

variable (s : State)

def Backed (role : Role) (id : EntityId) : Prop :=
  s.isCarrier id = .ok true ∧ s.hasGrant role.property id = .ok true

def StandsFor (noun : Noun) (id : EntityId) : Prop := ∃ d, s.definitionOf id = .ok d ∧ d.noun? = some noun

structure Entitled (role : Role) (id : EntityId) : Prop where
  alive : s.Alive id
  carrier : s.isCarrier id = .ok true
  spoken : ∃ r ∈ s.rules, r.term = .property role.property ∧ s.StandsFor r.subject id

def Granting : Prop := ∀ noun p, s.effects.grants noun p = (Effects.ofRules s.rules).grants noun p

theorem granting_of_derived (derived : s.effects = Effects.ofRules s.rules) : s.Granting := by
  intro noun p
  rw [derived]

theorem backed_of_grant (role : Role) (id : EntityId) (grant : s.hasGrant role.property id = .ok true) :
    s.Backed role id := by
  obtain ⟨d, defined, granted⟩ := judgement_ok s id (s.granted · role.property) true grant
  refine ⟨?_, grant⟩
  rw [isCarrier, defined]
  exact congrArg Except.ok (s.granted_carrier d role.property granted)

theorem entitled_of_rule (role : Role) (id : EntityId) (r : Rule) (listed : r ∈ s.rules)
    (grants : r.term = .property role.property) (stands : s.StandsFor r.subject id) : s.Entitled role id := by
  obtain ⟨d, defined, named⟩ := stands
  refine ⟨s.definition_alive id d defined, ?_, r, listed, grants, d, defined, named⟩
  rw [isCarrier, defined, Attempt.ok_bind, Definition.isCarrier, named]
  rfl

section Granting

variable (granting : s.Granting) (role : Role) (id : EntityId)
include granting

theorem backed_of_rule (r : Rule) (listed : r ∈ s.rules) (grants : r.term = .property role.property)
    (stands : s.StandsFor r.subject id) : s.Backed role id := by
  obtain ⟨d, defined, noun⟩ := stands
  refine s.backed_of_grant role id ?_
  have granted : s.granted d role.property = true := by
    rw [granted, noun]
    refine (granting r.subject role.property).trans ?_
    exact (Effects.grants_of_rules_iff s.rules r.subject role.property).mpr ⟨r, listed, rfl, grants⟩
  rw [hasGrant, defined]
  exact congrArg Except.ok granted

theorem entitled_iff_backed : s.Entitled role id ↔ s.Backed role id := by
  constructor
  · rintro ⟨_, _, r, listed, grants, stands⟩
    exact s.backed_of_rule granting role id r listed grants stands
  · rintro ⟨_, grant⟩
    obtain ⟨d, defined, granted⟩ := s.judgement_ok id (s.granted · role.property) true grant
    rw [State.granted] at granted
    split at granted
    case h_1 => cases granted
    case h_2 noun named =>
      rw [granting, Effects.grants_of_rules_iff] at granted
      obtain ⟨r, listed, rfl, grants⟩ := granted
      exact s.entitled_of_rule role id r listed grants ⟨d, defined, named⟩

end Granting

end State

namespace Roles

variable (s : State)

theorem mem_grant_rules_iff (p : Property) (r : Rule) : r ∈ grantRules s p ↔ r ∈ s.rules ∧ r.term = .property p := by
  rw [grantRules, List.mem_filter, Rule.grants, beq_iff_eq]

theorem mem_carriers_iff (noun : Noun) (carriers : List EntityId) (listed : carriersOf s noun = .ok carriers)
    (id : EntityId) : id ∈ carriers ↔ s.StandsFor noun id := by
  rw [Attempt.select_ok _ _ _ listed id]
  constructor
  · rintro ⟨_, judged⟩
    obtain ⟨d, defined, stands⟩ := s.judgement_ok id (fun d => d.noun? == some noun) true judged
    exact ⟨d, defined, eq_of_beq stands⟩
  · rintro ⟨d, defined, named⟩
    refine ⟨(s.alive_iff id).mp (s.definition_alive id d defined), ?_⟩
    rw [defined, Attempt.ok_bind, named, beq_self_eq_true]

theorem hand_told (t : State) (role : Role) (id : EntityId) (message : String → String) (r : Rule)
    (handed : hand s role id message r = .ok t) :
    ∃ d cell, s.definitionOf id = .ok d ∧ s.cellOf id = .ok cell ∧
      t = (s.withHolder role (some id)).report ⟨.roleShift, message d.glyph, cell :: r.cells⟩ := by
  obtain ⟨d, defined, handed⟩ := Attempt.bind_ok _ _ _ handed
  obtain ⟨cell, stands, handed⟩ := Attempt.bind_ok _ _ _ handed
  cases handed
  exact ⟨d, cell, defined, stands, rfl⟩

end Roles

end KanjiPuzzle
