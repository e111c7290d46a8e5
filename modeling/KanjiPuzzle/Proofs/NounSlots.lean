import KanjiPuzzle.Proofs.Entitlement
import KanjiPuzzle.Proofs.Preference

set_option autoImplicit false

/- What a noun's own cell makes of a role. Every carrier that has come onto the first cell of a sentence in force offers
   the role to the others of its noun, or keeps it where there is nobody else; the best of all offers is taken. -/
namespace KanjiPuzzle

namespace State

-- An entity of which a sentence in force speaks has come onto the first cell of the sentence this turn.
structure Walks (s : State) (role : Role) (r : Rule) (walker : EntityId) : Prop where
  active : r ∈ s.rules
  grants : r.term = .property role.property
  stands : s.StandsFor r.subject walker
  arrived : ∃ cell, r.cells.head? = some cell ∧ s.positions.get? walker = some cell
  moved : s.moved walker = true

def Free (s : State) (role : Role) (id : EntityId) : Prop := role = .goal → s.player ≠ some id

structure Rival (s : State) (role : Role) (noun : Noun) (walker id : EntityId) : Prop where
  stands : s.StandsFor noun id
  other : id ≠ walker
  free : s.Free role id

-- Whom a walker offers the role to, and whether that is the walker for want of anybody else.
inductive Offers (s : State) (role : Role) (noun : Noun) (walker : EntityId) : Bool → EntityId → Prop
  | rival (id : EntityId) (rivals : s.Rival role noun walker id) : Offers s role noun walker false id
  | alone (nobody : ∀ id, ¬ s.Rival role noun walker id) (free : s.Free role walker) :
      Offers s role noun walker true walker

theorem Offers.stands {s : State} {role : Role} {r : Rule} {walker id : EntityId} {alone : Bool}
    (offers : s.Offers role r.subject walker alone id) (walks : s.Walks role r walker) : s.StandsFor r.subject id := by
  cases offers with
  | rival _ rivals => exact rivals.stands
  | alone => exact walks.stands

theorem Offers.free {s : State} {role : Role} {noun : Noun} {walker id : EntityId} {alone : Bool}
    (offers : s.Offers role noun walker alone id) : s.Free role id := by
  cases offers with
  | rival _ rivals => exact rivals.free
  | alone _ free => exact free

def distanceOf (s : State) (role : Role) (id : EntityId) : Nat :=
  match Roles.anchor? s role, s.positions.get? id with
  | some anchor, some cell => cell.distance anchor
  | _, _ => 0

end State

namespace Roles

abbrev Rank := Bool ×ₗ Nat ×ₗ EntityId

def rank (alone : Bool) (distance : Nat) (id : EntityId) : Rank := toLex (alone, toLex (distance, id))

def SlotChoice.rank (c : SlotChoice) : Rank := Roles.rank c.alone c.distance c.holder

theorem slot_less_iff (a b : SlotChoice) : a.less b = true ↔ a.rank < b.rank := by
  rw [SlotChoice.rank, SlotChoice.rank, rank, rank, Prod.Lex.toLex_lt_toLex, SlotChoice.less, Bool.or_eq_true,
    Bool.and_eq_true, Bool.and_eq_true, keyed_less_iff]
  cases a.alone <;> cases b.alone <;> simp

theorem rank_le (alone : Bool) (n m : Nat) (id other : EntityId) (below : toLex (n, id) ≤ toLex (m, other)) :
    rank alone n id ≤ rank alone m other :=
  Prod.Lex.toLex_le_toLex.mpr (.inr ⟨rfl, below⟩)

end Roles

namespace State

def offered (s : State) (role : Role) : Set Roles.Rank :=
  { best | ∃ r walker alone id, s.Walks role r walker ∧ s.Offers role r.subject walker alone id ∧
    best = Roles.rank alone (s.distanceOf role id) id }

inductive Decides (s : State) (role : Role) : State → Prop
  | idle (nothing : s.offered role = ∅) : Decides s role s
  | stays (alone : Bool) (id : EntityId) (best : IsLeast (s.offered role) (Roles.rank alone (s.distanceOf role id) id))
      (held : s.holder role = some id) : Decides s role s
  | passes (r : Rule) (walker : EntityId) (alone : Bool) (id : EntityId) (d : Definition) (cell : Cell)
      (walks : s.Walks role r walker) (offers : s.Offers role r.subject walker alone id)
      (best : IsLeast (s.offered role) (Roles.rank alone (s.distanceOf role id) id))
      (other : s.holder role ≠ some id) (defined : s.definitionOf id = .ok d) (stands : s.cellOf id = .ok cell) :
      Decides s role ((s.withHolder role (some id)).report
        ⟨.roleShift, role.name ++ " shifts to " ++ d.glyph ++ " (noun slot trigger)", cell :: r.cells⟩)

theorem barred_iff (s : State) (role : Role) (id : EntityId) : Roles.barred s role id = false ↔ s.Free role id := by
  simp [Roles.barred, Free]

end State

namespace Roles

variable (s : State)

theorem mem_rivals_iff (role : Role) (noun : Noun) (walker : EntityId) (carriers : List EntityId)
    (listed : carriersOf s noun = .ok carriers) (id : EntityId) :
    (id ∈ carriers.filter fun id => id != walker && !barred s role id) ↔ s.Rival role noun walker id := by
  rw [List.mem_filter, mem_carriers_iff s noun carriers listed, Bool.and_eq_true, bne_iff_ne, Bool.not_eq_true',
    s.barred_iff]
  exact ⟨fun ⟨stands, other, free⟩ => ⟨stands, other, free⟩, fun rivals => ⟨rivals.stands, rivals.other, rivals.free⟩⟩

theorem distance_ok (role : Role) (id : EntityId) (distance : Nat)
    (measured : distanceTo s (anchor? s role) id = .ok distance) : distance = s.distanceOf role id := by
  rw [State.distanceOf]
  cases anchor : anchor? s role with
  | none =>
      rw [anchor] at measured
      cases measured
      rfl
  | some cell =>
      rw [anchor] at measured
      obtain ⟨own, stands, measured⟩ := Attempt.bind_ok _ _ _ measured
      cases measured
      rw [s.stands_of_cell id own stands]

theorem mem_far_iff (role : Role) (others : List EntityId) (far : List (Nat × EntityId))
    (measured : Attempt.each (fun id => do .ok (← distanceTo s (anchor? s role) id, id)) others = .ok far)
    (distance : Nat) (id : EntityId) : (distance, id) ∈ far ↔ id ∈ others ∧ distance = s.distanceOf role id := by
  rw [Attempt.mem_keyed_iff _ others far measured]
  refine and_congr_right fun listed => ⟨distance_ok s role id distance, fun same => ?_⟩
  obtain ⟨entry, taken⟩ := Attempt.each_ok _ _ _ measured id listed
  obtain ⟨n, known, _⟩ := Attempt.bind_ok _ _ _ taken
  rw [same, ← distance_ok s role id n known]
  exact known

structure Chosen (role : Role) (r : Rule) (walker : EntityId) (c : SlotChoice) : Prop where
  rule : c.rule = r
  offers : s.Offers role r.subject walker c.alone c.holder
  distance : c.distance = s.distanceOf role c.holder

structure Best (role : Role) (r : Rule) (walker : EntityId) (choice : Option SlotChoice) : Prop where
  offered : ∀ c, choice = some c → Chosen s role r walker c
  least : ∀ alone id, s.Offers role r.subject walker alone id →
    ∃ c, choice = some c ∧ c.rank ≤ rank alone (s.distanceOf role id) id

theorem nearest_rival_best (role : Role) (r : Rule) (walker : EntityId) (far : List (Nat × EntityId))
    (taken : ∀ distance id, (distance, id) ∈ far ↔
      s.Rival role r.subject walker id ∧ distance = s.distanceOf role id)
    (distance : Nat) (id : EntityId) (nearest : least? keyedLess far = some (distance, id)) :
    Best s role r walker (some ⟨r, id, false, distance⟩) := by
  obtain ⟨rival, known⟩ := (taken distance id).mp (least_mem keyedLess far _ nearest)
  constructor
  · intro c same
    cases same
    exact ⟨rfl, .rival id rival, known⟩
  · intro alone other offers
    cases offers with
    | rival _ rivals =>
        have near := least_ranked toLex keyedLess keyed_less_iff far _ nearest (s.distanceOf role other, other)
          ((taken _ other).mpr ⟨rivals, rfl⟩)
        exact ⟨_, rfl, rank_le false distance _ id other near⟩
    | alone nobody => exact absurd rival (nobody id)

section Sole

variable (role : Role) (r : Rule) (walker : EntityId) (nobody : ∀ id, ¬ s.Rival role r.subject walker id)
include nobody

theorem sole_walker_best (free : s.Free role walker) :
    Best s role r walker (some ⟨r, walker, true, s.distanceOf role walker⟩) := by
  constructor
  · intro c same
    cases same
    exact ⟨rfl, .alone nobody free, rfl⟩
  · intro alone id offers
    cases offers with
    | rival _ rival => exact absurd rival (nobody id)
    | alone => exact ⟨_, rfl, le_refl _⟩

theorem barred_walker_best (blocked : ¬ s.Free role walker) : Best s role r walker none := by
  constructor
  · exact nofun
  · intro alone id offers
    cases offers with
    | rival _ rival => exact absurd rival (nobody id)
    | alone _ free => exact absurd free blocked

end Sole

theorem slot_choice_best (role : Role) (r : Rule) (walker : EntityId) (choice : Option SlotChoice)
    (chosen : slotChoice? s role r walker = .ok choice) : Best s role r walker choice := by
  obtain ⟨carriers, listed, chosen⟩ := Attempt.bind_ok _ _ _ chosen
  obtain ⟨far, measured, chosen⟩ := Attempt.bind_ok _ _ _ chosen
  have taken (distance : Nat) (id : EntityId) : (distance, id) ∈ far ↔
      s.Rival role r.subject walker id ∧ distance = s.distanceOf role id := by
    rw [mem_far_iff s role _ far measured, mem_rivals_iff s role r.subject walker carriers listed]
  cases nearest : least? keyedLess far with
  | some entry =>
      rw [nearest] at chosen
      cases chosen
      exact nearest_rival_best s role r walker far taken entry.1 entry.2 nearest
  | none =>
      have nobody (id : EntityId) : ¬ s.Rival role r.subject walker id := fun rival => by
        have member := (taken _ id).mpr ⟨rival, rfl⟩
        rw [(least_eq_none_iff keyedLess far).mp nearest] at member
        cases member
      rw [nearest] at chosen
      dsimp only at chosen
      cases blocked : barred s role walker with
      | true =>
          rw [blocked] at chosen
          cases chosen
          exact barred_walker_best s role r walker nobody fun free =>
            Bool.noConfusion (blocked.symm.trans ((s.barred_iff role walker).mpr free))
      | false =>
          rw [blocked] at chosen
          obtain ⟨distance, known, chosen⟩ := Attempt.bind_ok _ _ _ chosen
          cases chosen
          rw [distance_ok s role walker distance known]
          exact sole_walker_best s role r walker nobody ((s.barred_iff role walker).mp blocked)

theorem mem_walkers_iff (role : Role) (r : Rule) (cell : Cell) (rest : List Cell) (cells : r.cells = cell :: rest)
    (active : r ∈ s.rules) (grants : r.term = .property role.property) (walkers : List EntityId)
    (walked : Attempt.select (isWalker s r.subject) (s.entitiesAt cell) = .ok walkers) (walker : EntityId) :
    walker ∈ walkers ↔ s.Walks role r walker := by
  rw [Attempt.select_ok _ _ _ walked walker, s.mem_entities_at_iff]
  constructor
  · rintro ⟨here, judged⟩
    obtain ⟨d, defined, fits⟩ := s.judgement_ok walker (fun d => d.noun? == some r.subject && s.moved walker) true judged
    rw [Bool.and_eq_true] at fits
    exact ⟨active, grants, ⟨d, defined, eq_of_beq fits.1⟩, ⟨cell, by rw [cells]; rfl, here⟩, fits.2⟩
  · rintro ⟨_, _, ⟨d, defined, named⟩, ⟨first, head, here⟩, moved⟩
    rw [cells] at head
    cases head
    refine ⟨here, ?_⟩
    rw [isWalker, defined, Attempt.ok_bind, named, moved, beq_self_eq_true]
    rfl

theorem slot_choices_best (role : Role) (r : Rule) (active : r ∈ s.rules) (grants : r.term = .property role.property)
    (choices : List SlotChoice) (chosen : slotChoicesFor s role r = .ok choices) :
    (∀ c ∈ choices, ∃ walker, s.Walks role r walker ∧ Chosen s role r walker c) ∧
      ∀ walker alone id, s.Walks role r walker → s.Offers role r.subject walker alone id →
        ∃ c ∈ choices, c.rank ≤ rank alone (s.distanceOf role id) id := by
  rw [slotChoicesFor] at chosen
  split at chosen
  case h_1 => cases chosen
  case h_2 cell rest cells =>
    obtain ⟨walkers, walked, chosen⟩ := Attempt.bind_ok _ _ _ chosen
    obtain ⟨found, looked, chosen⟩ := Attempt.bind_ok _ _ _ chosen
    cases chosen
    have walks := mem_walkers_iff s role r cell rest cells active grants walkers walked
    constructor
    · intro c member
      obtain ⟨choice, inside, same⟩ := List.mem_filterMap.mp member
      obtain ⟨walker, listed, choosing⟩ := Attempt.each_mem _ _ _ looked choice inside
      exact ⟨walker, (walks walker).mp listed, (slot_choice_best s role r walker choice choosing).offered c same⟩
    · intro walker alone id walking offers
      have listed := (walks walker).mpr walking
      obtain ⟨choice, choosing⟩ := Attempt.each_ok _ _ _ looked walker listed
      obtain ⟨c, rfl, better⟩ := (slot_choice_best s role r walker choice choosing).least alone id offers
      exact ⟨c, List.mem_filterMap.mpr ⟨some c, Attempt.mem_each _ _ _ looked walker _ listed choosing, rfl⟩, better⟩

-- The best of all the best choices is the best of all the offers.
theorem slot_choice_least (role : Role) (found : Option SlotChoice) (sought : slotChoice s role = .ok found) :
    (found = none → s.offered role = ∅) ∧
      ∀ c, found = some c → IsLeast (s.offered role) c.rank ∧
        ∃ walker, s.Walks role c.rule walker ∧ Chosen s role c.rule walker c := by
  obtain ⟨choices, looked, sought⟩ := Attempt.bind_ok _ _ _ sought
  cases sought
  have covered : ∀ best ∈ s.offered role, ∃ c ∈ choices.flatten, c.rank ≤ best := by
    rintro best ⟨r, walker, alone, id, walks, offers, rfl⟩
    have listed := (mem_grant_rules_iff s role.property r).mpr ⟨walks.active, walks.grants⟩
    obtain ⟨near, choosing⟩ := Attempt.each_ok _ _ _ looked r listed
    obtain ⟨c, member, better⟩ :=
      (slot_choices_best s role r walks.active walks.grants near choosing).2 walker alone id walks offers
    exact ⟨c, List.mem_flatten.mpr ⟨near, Attempt.mem_each _ _ _ looked r near listed choosing, member⟩, better⟩
  constructor
  · intro nothing
    rw [least_eq_none_iff] at nothing
    refine Set.eq_empty_of_forall_notMem fun best offer => ?_
    obtain ⟨c, member, _⟩ := covered best offer
    rw [nothing] at member
    cases member
  · intro c least
    obtain ⟨near, inside, member⟩ := List.mem_flatten.mp (least_mem _ _ c least)
    obtain ⟨r, listed, choosing⟩ := Attempt.each_mem _ _ _ looked near inside
    obtain ⟨active, grants⟩ := (mem_grant_rules_iff s role.property r).mp listed
    obtain ⟨walker, walks, chosen⟩ := (slot_choices_best s role r active grants near choosing).1 c member
    cases chosen.rule
    refine ⟨⟨⟨c.rule, walker, c.alone, c.holder, walks, chosen.offers, ?_⟩, fun best offer => ?_⟩, walker, walks, chosen⟩
    · rw [SlotChoice.rank, chosen.distance]
    · obtain ⟨other, listed, better⟩ := covered best offer
      exact le_trans (least_ranked SlotChoice.rank _ slot_less_iff _ c least other listed) better

theorem trigger_role_decides (t : State) (role : Role) (done : triggerRole s role = .ok t) : s.Decides role t := by
  obtain ⟨found, sought, done⟩ := Attempt.bind_ok _ _ _ done
  obtain ⟨nothing, least⟩ := slot_choice_least s role found sought
  cases found with
  | none =>
      cases done
      exact .idle (nothing rfl)
  | some c =>
      obtain ⟨best, walker, walks, chosen⟩ := least c rfl
      rw [SlotChoice.rank, chosen.distance] at best
      dsimp only at done
      by_cases held : s.holder role = some c.holder
      · rw [if_pos held] at done
        cases done
        exact .stays c.alone c.holder best held
      · rw [if_neg held] at done
        obtain ⟨d, cell, defined, stands, rfl⟩ := hand_told s t role c.holder _ c.rule done
        exact .passes c.rule walker c.alone c.holder d cell walks chosen.offers best held defined stands

theorem slots_take_best (sound : s.Sound) :
    ∃ t u, triggerRole s .player = .ok t ∧ triggerRole t .goal = .ok u ∧ triggerSlots s = .ok u ∧
      s.Decides .player t ∧ t.Decides .goal u := by
  obtain ⟨t, first, continues⟩ := trigger_role_continues s sound .player
  obtain ⟨u, second, _⟩ := trigger_role_continues t continues.sound .goal
  refine ⟨t, u, first, second, ?_, trigger_role_decides s t .player first, trigger_role_decides t u .goal second⟩
  rw [triggerSlots, first]
  exact second

def crossroadsTiles : List Tile :=
  [⟨1, "obj-human", ⟨0, 0⟩⟩, ⟨2, "obj-human", ⟨0, 0⟩⟩, ⟨3, "obj-human", ⟨4, 1⟩⟩, ⟨4, "obj-human", ⟨4, 3⟩⟩,
    ⟨5, "obj-tree", ⟨0, 2⟩⟩, ⟨6, "obj-rock", ⟨4, 2⟩⟩]

def crossroads : State :=
  { State.ofTiles ⟨5, 4⟩ crossroadsTiles .none (some 6) with
    starts := .ofList [(1, ⟨0, 1⟩), (2, ⟨1, 0⟩), (3, ⟨4, 1⟩), (4, ⟨4, 3⟩), (5, ⟨1, 2⟩), (6, ⟨4, 2⟩)]
    rules := [⟨"tree", .property .you, .horizontal, [⟨0, 2⟩, ⟨1, 2⟩, ⟨2, 2⟩]⟩,
      ⟨"human", .property .you, .horizontal, [⟨0, 0⟩, ⟨1, 0⟩, ⟨2, 0⟩]⟩,
      ⟨"human", .property .win, .vertical, [⟨0, 0⟩, ⟨0, 1⟩, ⟨0, 3⟩]⟩] }

theorem crossroads_decided :
    ∃ t u, crossroads.Sound ∧ triggerRole crossroads .player = .ok t ∧ triggerRole t .goal = .ok u ∧
      triggerSlots crossroads = .ok u ∧ crossroads.Decides .player t ∧ t.Decides .goal u ∧ u.player = some 3 ∧
      u.goal = some 4 ∧ u.events.map Event.cells =
        [[⟨4, 1⟩, ⟨0, 0⟩, ⟨1, 0⟩, ⟨2, 0⟩], [⟨4, 3⟩, ⟨0, 0⟩, ⟨0, 1⟩, ⟨0, 3⟩]] := by
  have sound : crossroads.Sound :=
    ⟨State.of_tiles_placed ⟨5, 4⟩ crossroadsTiles .none (some 6),
      State.of_tiles_known ⟨5, 4⟩ crossroadsTiles .none (some 6) (by decide), by simp [crossroads]⟩
  obtain ⟨t, u, first, second, both, player, goal⟩ := slots_take_best crossroads sound
  have shown := both.symm
  refine ⟨t, u, sound, first, second, both, player, goal, ?_, ?_, ?_⟩
  · exact Except.ok.inj (congrArg (Except.map State.player) shown)
  · exact Except.ok.inj (congrArg (Except.map State.goal) shown)
  · exact Except.ok.inj (congrArg (Except.map fun u : State => u.events.map Event.cells) shown)

end Roles

end KanjiPuzzle
