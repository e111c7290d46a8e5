import KanjiPuzzle.Proofs.Entitlement
import KanjiPuzzle.Proofs.Preference

set_option autoImplicit false

/- Who takes a role that nobody holds. Everybody whose noun has the property of the role is nominated, and the one
   against whom the least speaks takes it, of several the one with the lowest id. -/
namespace KanjiPuzzle

namespace State

variable (s : State)

structure Nominee (p : Property) (id : EntityId) (d : Definition) : Prop where
  defined : s.definitionOf id = .ok d
  carrier : d.isCarrier = true
  granted : ∃ noun, d.noun? = some noun ∧ s.effects.grants noun p = true

def Treads (r : Rule) (id : EntityId) : Prop := ∃ cell ∈ r.cells, s.positions.get? id = some cell

instance (r : Rule) (id : EntityId) : Decidable (s.Treads r id) :=
  inferInstanceAs (Decidable (∃ cell ∈ r.cells, s.positions.get? id = some cell))

theorem granted_iff (d : Definition) (p : Property) :
    s.granted d p = true ↔ ∃ noun, d.noun? = some noun ∧ s.effects.grants noun p = true := by
  rw [granted]
  cases d.noun? with
  | none => simp
  | some noun => simp

theorem nominee_iff (p : Property) (id : EntityId) : (∃ d, s.Nominee p id d) ↔ s.hasGrant p id = .ok true := by
  constructor
  · intro nominated
    obtain ⟨d, defined, _, granted⟩ := nominated
    rw [hasGrant, defined, Attempt.ok_bind, (s.granted_iff d p).mpr granted]
  · intro granted
    obtain ⟨d, defined, granted⟩ := s.judgement_ok id (s.granted · p) true granted
    exact ⟨d, defined, s.granted_carrier d p granted, (s.granted_iff d p).mp granted⟩

theorem treads_iff (r : Rule) (id : EntityId) (cell : Cell) (stands : s.positions.get? id = some cell) :
    s.Treads r id ↔ cell ∈ r.cells := by
  simp [Treads, stands]

end State

namespace Roles

-- What speaks against a nominee, the gravest first.
abbrev Demerit := Bool ×ₗ Bool ×ₗ Bool

def demerit (s : State) (p : Property) (id : EntityId) (d : Definition) : Demerit :=
  toLex (d.isText, toLex (decide (∃ r ∈ s.rules, r.term = .property p ∧ s.Treads r id),
    decide (∃ r ∈ s.rules, s.Treads r id)))

def nominations (s : State) (p : Property) : Set (Demerit ×ₗ EntityId) :=
  { nomination | ∃ id d, s.Nominee p id d ∧ nomination = toLex (demerit s p id d, id) }

def weight (k : Demerit) : Nat :=
  (if (ofLex k).1 then 100 else 0) + (if (ofLex (ofLex k).2).1 then 20 else 0) +
    (if (ofLex (ofLex k).2).2 then 5 else 0)

-- What is graver weighs more than all that comes after it.
theorem weight_rises : StrictMono weight := by
  have graver : ∀ a b c x y z : Bool, toLex (a, toLex (b, c)) < toLex (x, toLex (y, z)) →
      weight (toLex (a, toLex (b, c))) < weight (toLex (x, toLex (y, z))) := by decide
  intro k l less
  exact graver _ _ _ _ _ _ less

variable (s : State) (p : Property)

theorem mem_nominations_iff (k : Demerit) (id : EntityId) :
    toLex (k, id) ∈ nominations s p ↔ ∃ d, s.Nominee p id d ∧ k = demerit s p id d := by
  constructor
  · intro listed
    obtain ⟨other, d, nominee, same⟩ := listed
    cases same
    exact ⟨d, nominee, rfl⟩
  · intro nominated
    obtain ⟨d, nominee, rfl⟩ := nominated
    exact ⟨id, d, nominee, rfl⟩

theorem unnominated (nothing : nominations s p = ∅) (id : EntityId) (d : Definition) : ¬ s.Nominee p id d := by
  intro nominee
  have listed := (mem_nominations_iff s p _ id).mpr ⟨d, nominee, rfl⟩
  rw [nothing] at listed
  cases listed

theorem price_nominee (id : EntityId) (d : Definition) (nominee : s.Nominee p id d) (n : Nat)
    (priced : price s p id = .ok n) : n = weight (demerit s p id d) := by
  obtain ⟨cell, stands, priced⟩ := Attempt.bind_ok _ _ _ priced
  rw [nominee.defined, Attempt.ok_bind] at priced
  cases priced
  have treads (r : Rule) := s.treads_iff r id cell (s.stands_of_cell id cell stands)
  have granting : (grantRules s p).any (·.cells.contains cell) =
      decide (∃ r ∈ s.rules, r.term = .property p ∧ s.Treads r id) := by
    rw [Bool.eq_iff_iff, decide_eq_true_iff, List.any_eq_true]
    simp only [mem_grant_rules_iff, List.contains_iff_mem, treads, and_assoc]
  have spelling : s.rules.any (·.cells.contains cell) = decide (∃ r ∈ s.rules, s.Treads r id) := by
    rw [Bool.eq_iff_iff, decide_eq_true_iff, List.any_eq_true]
    simp only [List.contains_iff_mem, treads]
  rw [granting, spelling, demerit, Definition.is_text_eq_not_is_object]
  cases d.isObject <;> rfl

theorem first_carrier_least (found : Option EntityId) (sought : firstCarrier s p = .ok found) :
    (found = none → nominations s p = ∅) ∧
      ∀ id, found = some id → ∃ k, IsLeast (nominations s p) (toLex (k, id)) := by
  obtain ⟨candidates, selected, sought⟩ := Attempt.bind_ok _ _ _ sought
  obtain ⟨priced, valued, sought⟩ := Attempt.bind_ok _ _ _ sought
  cases sought
  have nominated (id : EntityId) : id ∈ candidates ↔ ∃ d, s.Nominee p id d := by
    rw [Attempt.select_ok _ _ _ selected, ← s.nominee_iff]
    exact and_iff_right_of_imp fun ⟨d, nominee⟩ => (s.alive_iff id).mp (s.definition_alive id d nominee.defined)
  obtain ⟨nothing, least⟩ := keyed_least (price s p) candidates priced valued
  constructor
  · intro unfound
    have nobody := nothing (Option.map_eq_none_iff.mp unfound)
    refine Set.eq_empty_of_forall_notMem fun nomination listed => ?_
    obtain ⟨id, d, nominee, _⟩ := listed
    have member := (nominated id).mpr ⟨d, nominee⟩
    rw [nobody] at member
    cases member
  · intro id chosen
    obtain ⟨⟨n, _⟩, cheapest, rfl⟩ := Option.map_eq_some_iff.mp chosen
    obtain ⟨member, cost, others⟩ := least n _ cheapest
    obtain ⟨d, nominee⟩ := (nominated _).mp member
    refine ⟨demerit s p _ d, (mem_nominations_iff s p _ _).mpr ⟨d, nominee, rfl⟩, fun nomination listed => ?_⟩
    obtain ⟨other, e, rival, rfl⟩ := listed
    obtain ⟨m, price, below⟩ := others other ((nominated other).mpr ⟨e, rival⟩)
    rw [price_nominee s p _ d nominee n cost, price_nominee s p other e rival m price] at below
    exact (weighed_le_iff weight weight_rises _ _ _ _).mp below

theorem text_tile_worse (id other : EntityId) (d e : Definition) (isText : d.isText = true)
    (below : toLex (demerit s p id d, id) ≤ toLex (demerit s p other e, other)) : e.isText = true := by
  have graver : d.isText ≤ e.isText := Prod.Lex.monotone_fst _ _ (Prod.Lex.monotone_fst _ _ below)
  rw [isText] at graver
  exact graver rfl

theorem first_carrier_preferred (placed : ∀ id, s.positions.contains id = s.definitions.contains id)
    (known : ∀ id definition, s.definitions.get? id = some definition → s.catalog.contains definition = true) :
    ∃ found, firstCarrier s p = .ok found ∧
      (found = none ↔ ∀ id d, ¬ s.Nominee p id d) ∧
      (∀ id, found = some id ↔ ∃ k, IsLeast (nominations s p) (toLex (k, id))) ∧
      ∀ id d, found = some id → s.definitionOf id = .ok d → d.isText = true →
        ∀ other e, s.Nominee p other e → e.isText = true := by
  have grounded : s.Grounded := ⟨placed, known, fun _ member => nomatch member⟩
  obtain ⟨found, sought⟩ := first_carrier_answers s grounded p
  obtain ⟨nothing, best⟩ := first_carrier_least s p found sought
  refine ⟨found, sought, ⟨fun unfound => unnominated s p (nothing unfound), fun nobody => ?_⟩,
    found_iff_least (nominations s p) found nothing best, fun id d chosen defined isText other e rival => ?_⟩
  · cases chosen : found with
    | none => rfl
    | some id =>
        obtain ⟨k, least⟩ := best id chosen
        obtain ⟨d, nominee, _⟩ := (mem_nominations_iff s p k id).mp least.1
        exact absurd nominee (nobody id d)
  · obtain ⟨k, listed, lowest⟩ := best id chosen
    obtain ⟨own, nominee, rfl⟩ := (mem_nominations_iff s p k id).mp listed
    cases nominee.defined.symm.trans defined
    exact text_tile_worse s p id other d e isText (lowest ((mem_nominations_iff s p _ other).mpr ⟨e, rival, rfl⟩))

def gladeTiles : List Tile := [⟨1, "txt-human", ⟨3, 2⟩⟩, ⟨2, "obj-human", ⟨2, 0⟩⟩, ⟨3, "obj-human", ⟨4, 1⟩⟩]

def gladeRules : List Rule :=
  [⟨"human", .property .you, .horizontal, [⟨0, 0⟩, ⟨1, 0⟩, ⟨2, 0⟩]⟩,
    ⟨"gate", .property .win, .vertical, [⟨4, 0⟩, ⟨4, 1⟩, ⟨4, 2⟩]⟩]

def glade : State :=
  { State.ofTiles ⟨5, 3⟩ gladeTiles (.ofRules gladeRules) (some 8) with rules := gladeRules }

theorem glade_carrier :
    (∀ id, glade.positions.contains id = glade.definitions.contains id) ∧
      (∀ id definition, glade.definitions.get? id = some definition → glade.catalog.contains definition = true) ∧
      firstCarrier glade .you = .ok (some 3) ∧
      IsLeast (nominations glade .you) (toLex (toLex (false, toLex (false, true)), 3)) := by
  have placed := State.of_tiles_placed ⟨5, 3⟩ gladeTiles (.ofRules gladeRules) (some 8)
  have known := State.of_tiles_known ⟨5, 3⟩ gladeTiles (.ofRules gladeRules) (some 8) (by decide)
  obtain ⟨found, sought, _, least, _⟩ := first_carrier_preferred glade .you placed known
  have chosen : some 3 = found := Except.ok.inj sought
  subst chosen
  obtain ⟨k, best⟩ := (least 3).mp rfl
  obtain ⟨d, nominee, rfl⟩ := (mem_nominations_iff glade .you k 3).mp best.1
  cases nominee.defined
  exact ⟨placed, known, sought, best⟩

end Roles

end KanjiPuzzle
