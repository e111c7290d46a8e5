import KanjiPuzzle.Proofs.RenamedPhases

set_option autoImplicit false

/- Roles, hazards and victory under a renaming. Carriers are compared by price, by rung and by distance, and then by
   their numbers, and a renaming keeps the order of the numbers. -/
namespace KanjiPuzzle

namespace Roles

variable (s : State) (f : Renaming)

theorem noun_renamed (noun : Noun) (id : EntityId) :
    (do .ok ((← (s.renamed f).definitionOf (f.image id)).noun? == some noun) : Attempt Bool) =
      Attempt.both f.fault (fun verdict => verdict) (do .ok ((← s.definitionOf id).noun? == some noun)) :=
  s.judge_renamed f (fun verdict => verdict) (fun d => d.noun? == some noun) _ (fun _ => rfl) id

theorem carriers_of_renamed (noun : Noun) :
    carriersOf (s.renamed f) noun = Attempt.both f.fault (List.map f.image) (carriersOf s noun) := by
  rw [carriersOf, carriersOf, s.renamed_definitions, EntityMap.ids_renamed]
  exact Attempt.select_both f.fault f.image _ _ (noun_renamed s f noun) s.definitions.ids

theorem price_renamed (p : Property) (id : EntityId) :
    price (s.renamed f) p (f.image id) = Attempt.both f.fault (fun amount => amount) (price s p id) := by
  rw [price, price, s.cell_of_renamed]
  apply Attempt.bind_both
  intro cell
  exact s.judge_renamed f (fun amount => amount)
    (fun d => (if d.isObject then 0 else 100) + (if (grantRules s p).any (·.cells.contains cell) then 20 else 0) +
      (if s.rules.any (·.cells.contains cell) then 5 else 0)) _ (fun _ => rfl) id

theorem least_keyed_renamed (keyed : List (Nat × EntityId)) :
    least? keyedLess (keyed.map fun entry => (entry.1, f.image entry.2)) =
      (least? keyedLess keyed).map fun entry => (entry.1, f.image entry.2) :=
  least_map _ keyedLess keyedLess (keyed_less_renamed f) keyed

theorem first_carrier_renamed (p : Property) :
    firstCarrier (s.renamed f) p = Attempt.both f.fault (Option.map f.image) (firstCarrier s p) := by
  rw [firstCarrier, firstCarrier, s.renamed_definitions, EntityMap.ids_renamed,
    Attempt.select_both f.fault f.image (s.hasGrant p) _ (s.has_grant_renamed f p)]
  apply Attempt.bind_both
  intro candidates
  rw [Attempt.each_both f.fault f.image (fun entry : Nat × EntityId => (entry.1, f.image entry.2))
    (fun id => do .ok (← price s p id, id))]
  · apply Attempt.bind_both
    intro priced
    apply congrArg Except.ok
    rw [least_keyed_renamed]
    cases least? keyedLess priced with
    | none => rfl
    | some best => rfl
  · intro id
    rw [price_renamed]
    apply Attempt.bind_both
    intro amount
    rfl

theorem kept_renamed (role : Role) : kept? (s.renamed f) role = (kept? s role).map f.image := by
  have granted : hasGrantRule (s.renamed f) role.property = hasGrantRule s role.property := rfl
  rw [kept?, kept?, granted, s.holder_renamed, s.renamed_definitions]
  cases hasGrantRule s role.property with
  | false => rfl
  | true =>
      rw [if_pos rfl, if_pos rfl]
      cases s.holder role with
      | none => rfl
      | some id =>
          simp only [Option.map_some, Option.filter_some, EntityMap.contains_renamed]
          cases s.definitions.contains id with
          | true => rfl
          | false => rfl

theorem refresh_role_renamed (role : Role) : f.Commutes fun s => refreshRole s role := by
  intro s
  dsimp only
  have granted : hasGrantRule (s.renamed f) role.property = hasGrantRule s role.property := rfl
  rw [refreshRole, refreshRole, kept_renamed, granted]
  cases kept? s role with
  | some id => exact congrArg Except.ok (s.with_holder_renamed f role (some id))
  | none =>
      dsimp only [Option.map]
      cases hasGrantRule s role.property with
      | false => exact congrArg Except.ok (s.with_holder_renamed f role none)
      | true =>
          rw [if_pos rfl, if_pos rfl, first_carrier_renamed]
          apply Attempt.bind_both
          intro found
          exact congrArg Except.ok (s.with_holder_renamed f role found)

theorem refresh_renamed : f.Commutes refresh :=
  f.commutes_then _ _ (refresh_role_renamed f .player) (refresh_role_renamed f .goal)

theorem on_rung_renamed (rung : Cell → Bool → Bool) (id : EntityId) :
    onRung (s.renamed f) rung (f.image id) = Attempt.both f.fault (fun verdict => verdict) (onRung s rung id) := by
  rw [onRung, onRung, s.cell_of_renamed, s.moved_renamed]
  apply Attempt.bind_both
  intro cell
  rfl

theorem climb_renamed (candidates : List EntityId) (rungs : List (Cell → Bool → Bool)) :
    climb (s.renamed f) (candidates.map f.image) rungs =
      Attempt.both f.fault (Option.map f.image) (climb s candidates rungs) := by
  induction rungs with
  | nil => exact congrArg Except.ok List.head?_map
  | cons rung rest ih =>
      rw [climb, climb, Attempt.first_both f.fault f.image (onRung s rung) _ (on_rung_renamed s f rung)]
      apply Attempt.bind_both
      intro found
      cases found with
      | none => exact ih
      | some id => rfl

theorem captor_renamed (r : Rule) (excluded : Option EntityId) :
    captor (s.renamed f) r (excluded.map f.image) =
      Attempt.both f.fault (Option.map f.image) (captor s r excluded) := by
  rw [captor, captor, carriers_of_renamed]
  apply Attempt.bind_both
  intro carriers
  have candidates : (carriers.map f.image).filter (fun id => some id != excluded.map f.image) =
      (carriers.filter fun id => some id != excluded).map f.image := by
    rw [List.filter_map]
    apply congrArg (List.map f.image)
    apply List.filter_congr
    intro id _
    cases excluded with
    | none => rfl
    | some other =>
        rw [Bool.eq_iff_iff]
        simp
  rw [candidates]
  cases carriers.filter fun id => some id != excluded with
  | nil => rfl
  | cons first rest =>
      dsimp only [List.map_cons]
      cases r.cells with
      | nil => rfl
      | cons noun later =>
          cases later with
          | nil => rfl
          | cons connector terms => exact climb_renamed s f (first :: rest) _

theorem hand_renamed (role : Role) (id : EntityId) (message : String → String) (r : Rule) :
    hand (s.renamed f) role (f.image id) message r =
      Attempt.both f.fault (State.renamed · f) (hand s role id message r) := by
  rw [hand, hand, s.definition_of_renamed]
  apply Attempt.bind_both
  intro d
  rw [s.cell_of_renamed]
  apply Attempt.bind_both
  intro cell
  exact congrArg (fun t : State => Except.ok (t.report _)) (s.with_holder_renamed f role (some id))

theorem held_renamed (role : Role) (id : EntityId) :
    (s.renamed f).holder role = some (f.image id) ↔ s.holder role = some id := by
  rw [s.holder_renamed]
  simp

theorem capture_for_renamed (role : Role) (r : Rule) : f.Commutes fun s => captureFor s role r := by
  intro s
  dsimp only
  rw [captureFor, captureFor, s.holder_renamed, captor_renamed]
  apply Attempt.bind_both
  intro found
  cases found with
  | none => rfl
  | some id =>
      dsimp only [Option.map]
      by_cases held : s.holder role = some id
      · rw [if_pos held, if_pos ((held_renamed s f role id).mpr held)]
        rfl
      · rw [if_neg held, if_neg (mt (held_renamed s f role id).mp held)]
        exact hand_renamed s f role id _ r

theorem capture_renamed (r : Rule) : f.Commutes fun s => capture s r := by
  intro s
  dsimp only
  rw [capture, capture]
  cases r.term with
  | noun target => rfl
  | property p =>
      dsimp only
      cases Role.ofProperty? p with
      | none => rfl
      | some role => exact capture_for_renamed f role r s

theorem capture_new_renamed (before : List Rule) : f.Commutes fun s => captureNew s before := by
  intro s
  have captures := Attempt.through_both f.fault (fun r : Rule => r) (State.renamed · f) capture capture
    (fun s r => capture_renamed f r s) (newRules before s.rules) s
  rw [List.map_id'] at captures
  exact captures

def SlotChoice.renamed (choice : SlotChoice) (f : Renaming) : SlotChoice :=
  { choice with holder := f.image choice.holder }

theorem less_renamed (a b : SlotChoice) : (a.renamed f).less (b.renamed f) = a.less b := by
  have keyed := keyed_less_renamed f (a.distance, a.holder) (b.distance, b.holder)
  exact congrArg (fun less => (!a.alone && b.alone) || (a.alone == b.alone && less)) keyed

theorem place_renamed (holder : Option EntityId) :
    (holder.map f.image).bind (s.positions.renamed f).get? = holder.bind s.positions.get? := by
  cases holder with
  | none => rfl
  | some id => exact s.positions.get_renamed f id

theorem anchor_renamed (role : Role) : anchor? (s.renamed f) role = anchor? s role := by
  rw [anchor?, anchor?, s.holder_renamed, s.renamed_player, s.renamed_positions, place_renamed, place_renamed]

theorem distance_to_renamed (anchor : Option Cell) (id : EntityId) :
    distanceTo (s.renamed f) anchor (f.image id) =
      Attempt.both f.fault (fun steps => steps) (distanceTo s anchor id) := by
  cases anchor with
  | none => rfl
  | some cell =>
      rw [distanceTo, distanceTo, s.cell_of_renamed]
      apply Attempt.bind_both
      intro here
      rfl

theorem is_walker_renamed (noun : Noun) (id : EntityId) :
    isWalker (s.renamed f) noun (f.image id) = Attempt.both f.fault (fun verdict => verdict) (isWalker s noun id) := by
  rw [isWalker, isWalker, s.moved_renamed]
  exact s.judge_renamed f (fun verdict => verdict) (fun d => d.noun? == some noun && s.moved id) _ (fun _ => rfl) id

theorem barred_renamed (role : Role) (id : EntityId) : barred (s.renamed f) role (f.image id) = barred s role id := by
  rw [barred, barred, s.renamed_player, State.beq_map_image]

theorem slot_choice_of_renamed (role : Role) (r : Rule) (walker : EntityId) :
    slotChoice? (s.renamed f) role r (f.image walker) =
      Attempt.both f.fault (Option.map (SlotChoice.renamed · f)) (slotChoice? s role r walker) := by
  rw [slotChoice?, slotChoice?, anchor_renamed, carriers_of_renamed, barred_renamed]
  dsimp only
  apply Attempt.bind_both
  intro carriers
  have others : (carriers.map f.image).filter (fun id => id != f.image walker && !barred (s.renamed f) role id) =
      (carriers.filter fun id => id != walker && !barred s role id).map f.image := by
    rw [List.filter_map]
    apply congrArg (List.map f.image)
    apply List.filter_congr
    intro id _
    rw [Function.comp_apply, barred_renamed]
    apply congrArg (· && !barred s role id)
    rw [Bool.eq_iff_iff]
    simp
  rw [others, Attempt.each_both f.fault f.image (fun entry : Nat × EntityId => (entry.1, f.image entry.2))
    (fun id => do .ok (← distanceTo s (anchor? s role) id, id))]
  · apply Attempt.bind_both
    intro far
    rw [least_keyed_renamed]
    cases least? keyedLess far with
    | some nearest => rfl
    | none =>
        dsimp only [Option.map]
        cases barred s role walker with
        | true => rfl
        | false =>
            rw [if_neg Bool.false_ne_true, if_neg Bool.false_ne_true, distance_to_renamed]
            apply Attempt.bind_both
            intro steps
            rfl
  · intro id
    rw [distance_to_renamed]
    apply Attempt.bind_both
    intro steps
    rfl

theorem slot_choices_for_renamed (role : Role) (r : Rule) :
    slotChoicesFor (s.renamed f) role r =
      Attempt.both f.fault (List.map (SlotChoice.renamed · f)) (slotChoicesFor s role r) := by
  rw [slotChoicesFor, slotChoicesFor]
  cases r.cells with
  | nil => rfl
  | cons noun rest =>
      dsimp only
      rw [s.entities_at_renamed, Attempt.select_both f.fault f.image (isWalker s r.subject) _ (is_walker_renamed s f r.subject)]
      apply Attempt.bind_both
      intro walkers
      rw [Attempt.each_both f.fault f.image (Option.map (SlotChoice.renamed · f)) (slotChoice? s role r) _
        (slot_choice_of_renamed s f role r)]
      apply Attempt.bind_both
      intro choices
      apply congrArg Except.ok
      rw [List.filterMap_map, List.map_filterMap]
      rfl

theorem slot_choice_renamed (role : Role) :
    slotChoice (s.renamed f) role = Attempt.both f.fault (Option.map (SlotChoice.renamed · f)) (slotChoice s role) := by
  have asked := Attempt.each_both f.fault (fun r : Rule => r) (List.map (SlotChoice.renamed · f)) (slotChoicesFor s role)
    (slotChoicesFor (s.renamed f) role) (slot_choices_for_renamed s f role) (grantRules s role.property)
  have rules : grantRules (s.renamed f) role.property = grantRules s role.property := rfl
  rw [List.map_id'] at asked
  rw [slotChoice, slotChoice, rules, asked]
  apply Attempt.bind_both
  intro choices
  apply congrArg Except.ok
  rw [← List.map_flatten]
  exact least_map _ SlotChoice.less SlotChoice.less (less_renamed f) choices.flatten

theorem trigger_role_renamed (role : Role) : f.Commutes fun s => triggerRole s role := by
  intro s
  dsimp only
  rw [triggerRole, triggerRole, slot_choice_renamed]
  apply Attempt.bind_both
  intro found
  cases found with
  | none => rfl
  | some choice =>
      dsimp only [Option.map]
      have holder : (choice.renamed f).holder = f.image choice.holder := rfl
      rw [holder]
      by_cases held : s.holder role = some choice.holder
      · rw [if_pos held, if_pos ((held_renamed s f role choice.holder).mpr held)]
        rfl
      · rw [if_neg held, if_neg (mt (held_renamed s f role choice.holder).mp held)]
        exact hand_renamed s f role choice.holder _ choice.rule

theorem trigger_slots_renamed : f.Commutes triggerSlots :=
  f.commutes_then _ _ (trigger_role_renamed f .player) (trigger_role_renamed f .goal)

end Roles

namespace Hazards

variable (s : State) (f : Renaming)

theorem drowned_renamed (ids : List EntityId) :
    drowned (s.renamed f) (ids.map f.image) = Attempt.both f.fault (List.map f.image) (drowned s ids) := by
  rw [drowned, drowned, Attempt.select_both f.fault f.image (s.has .sink) _ (s.has_renamed f .sink)]
  apply Attempt.bind_both
  intro sinks
  cases sinks with
  | nil => rfl
  | cons first rest =>
      dsimp only [List.map_cons]
      rw [Attempt.select_both f.fault f.image (fun id => do .ok (!(← s.has .float id) && !(← s.has .sink id)))]
      · apply Attempt.bind_both
        intro victims
        cases victims with
        | nil => rfl
        | cons victim more =>
            apply congrArg Except.ok
            rw [List.map_append]
      · intro id
        rw [s.has_renamed, s.has_renamed]
        apply Attempt.bind_both
        intro floats
        apply Attempt.bind_both
        intro sinks
        rfl

theorem melted_renamed (ids : List EntityId) :
    melted (s.renamed f) (ids.map f.image) = Attempt.both f.fault (List.map f.image) (melted s ids) := by
  rw [melted, melted, Attempt.select_both f.fault f.image (s.has .hot) _ (s.has_renamed f .hot)]
  apply Attempt.bind_both
  intro hot
  cases hot with
  | nil => rfl
  | cons first rest =>
      dsimp only [List.map_cons]
      apply Attempt.select_both f.fault f.image
      intro id
      rw [s.has_renamed]
      apply Attempt.bind_both
      intro melts
      apply congrArg Except.ok
      have other (heat : EntityId) : (f.image heat != f.image id) = (heat != id) := by
        rw [Bool.eq_iff_iff]
        simp
      rw [List.any_map]
      simp only [Function.comp_def, other]
      rfl

theorem strike_renamed (losses : State → List EntityId → Attempt (List EntityId)) (p : Property)
    (same : ∀ (s : State) (ids : List EntityId),
      losses (s.renamed f) (ids.map f.image) = Attempt.both f.fault (List.map f.image) (losses s ids)) :
    f.Commutes (strike losses p) := by
  intro s
  rw [strike, strike, s.occupied_renamed]
  apply Attempt.bind_both
  intro occupied
  rw [Attempt.each_both f.fault _ (fun entry : Cell × List EntityId => (entry.1, entry.2.map f.image))
    (fun entry => do .ok (entry.1, ← losses s entry.2))]
  · apply Attempt.bind_both
    intro struck
    have affected : (struck.map fun entry => (entry.1, entry.2.map f.image)).filter (fun entry => !entry.2.isEmpty) =
        (struck.filter fun entry => !entry.2.isEmpty).map fun entry => (entry.1, entry.2.map f.image) := by
      rw [List.filter_map]
      simp only [Function.comp_def, List.isEmpty_map]
    rw [affected]
    dsimp only
    have gone (cells : List (Cell × List EntityId)) :
        (cells.map fun entry => (entry.1, entry.2.map f.image)).flatMap Prod.snd =
          (cells.flatMap Prod.snd).map f.image := by
      rw [List.flatMap_map, List.map_flatMap]
    rw [gone, s.remove_renamed, State.report_all_renamed, List.map_map]
    rfl
  · intro entry
    rw [same]
    apply Attempt.bind_both
    intro lost
    rfl

theorem sink_renamed : f.Commutes sink := strike_renamed f drowned .sink fun s => drowned_renamed s f

theorem melt_renamed : f.Commutes melt := strike_renamed f melted .melt fun s => melted_renamed s f

end Hazards

namespace Victory

variable (s : State) (f : Renaming)

theorem reaches_renamed (ids : List EntityId) (id : EntityId) :
    reaches (s.renamed f) (ids.map f.image) (f.image id) =
      Attempt.both f.fault (fun verdict => verdict) (reaches s ids id) := by
  have others : (ids.map f.image).filter (fun other => other != f.image id) =
      (ids.filter fun other => other != id).map f.image := by
    rw [List.filter_map]
    apply congrArg (List.map f.image)
    apply List.filter_congr
    intro other _
    rw [Bool.eq_iff_iff]
    simp
  rw [reaches, reaches, others]
  exact Attempt.exists_both f.fault f.image s.isWinContact _ (s.is_win_contact_renamed f) _

theorem clears_renamed (ids : List EntityId) (id : EntityId) :
    clears (s.renamed f) (ids.map f.image) (f.image id) =
      Attempt.both f.fault (fun verdict => verdict) (clears s ids id) := by
  rw [clears, clears, s.has_renamed]
  apply Attempt.bind_both
  intro playing
  cases playing with
  | true => exact reaches_renamed s f ids id
  | false => rfl

theorem winning_cell_renamed :
    winningCell? (s.renamed f) = Attempt.both f.fault (fun found => found) (winningCell? s) := by
  have player : ((s.renamed f).player.bind fun id => ((s.renamed f).positions.get? id).map fun cell => (id, cell)) =
      (s.player.bind fun id => (s.positions.get? id).map fun cell => (id, cell)).map
        fun entry => (f.image entry.1, entry.2) := by
    rw [s.renamed_player, s.renamed_positions]
    cases s.player with
    | none => rfl
    | some id =>
        simp only [Option.map_some, Option.bind_some, EntityMap.get_renamed]
        cases s.positions.get? id with
        | none => rfl
        | some cell => rfl
  rw [winningCell?, winningCell?, player]
  cases s.player.bind fun id => (s.positions.get? id).map fun cell => (id, cell) with
  | some entry =>
      dsimp only [Option.map]
      rw [s.entities_at_renamed, reaches_renamed]
      apply Attempt.bind_both
      intro reached
      rfl
  | none =>
      dsimp only [Option.map]
      rw [s.occupied_renamed]
      apply Attempt.bind_both
      intro cells
      rw [Attempt.first_both f.fault (fun entry : Cell × List EntityId => (entry.1, entry.2.map f.image))
        (fun entry => Attempt.exists? (clears s entry.2) entry.2)]
      · apply Attempt.bind_both
        intro found
        cases found with
        | none => rfl
        | some entry => rfl
      · intro entry
        exact Attempt.exists_both f.fault f.image (clears s entry.2) _ (clears_renamed s f entry.2) entry.2

theorem run_renamed : f.Commutes run := by
  intro s
  have won : (s.renamed f).won = s.won := rfl
  rw [run, run, won, winning_cell_renamed]
  cases s.won with
  | true => rfl
  | false =>
      rw [if_neg Bool.false_ne_true, if_neg Bool.false_ne_true]
      apply Attempt.bind_both
      intro found
      cases found with
      | none => rfl
      | some cell => rfl

end Victory

end KanjiPuzzle
