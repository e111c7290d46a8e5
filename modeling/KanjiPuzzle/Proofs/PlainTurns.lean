import KanjiPuzzle.Proofs.Appearance

set_option autoImplicit false

/- A turn makes the same of a game and of its plain form, apart from what is only shown. Where a phase puts glyphs into
   a message it does so after everything is decided, so that the messages are all that differs. -/
namespace KanjiPuzzle

def State.Blind (phase : State → Attempt State) : Prop :=
  ∀ s, (phase s.plain).map State.plain = (phase s).map State.plain

theorem State.Blind.alike {phase : State → Attempt State} (blind : Blind phase) (s t : State)
    (same : s.plain = t.plain) : (phase s).map State.plain = (phase t).map State.plain := by
  rw [← blind s, same, blind t]

theorem State.blind_then (first second : State → Attempt State) (one : Blind first) (two : Blind second) :
    Blind fun s => first s >>= second :=
  fun s => Attempt.bind_alike State.plain State.plain _ _ _ _ (one s) two.alike

theorem State.blind_of_plain (phase : State → Attempt State)
    (plain : ∀ s, phase s.plain = (phase s).map State.plain) : Blind phase := by
  intro s
  rw [plain s]
  cases phase s with
  | error cause => rfl
  | ok t => exact congrArg Except.ok t.plain_plain

namespace Fusion

def Pairing.plain (p : Pairing) : Pairing := { p with message := "" }

def plainSource (source : Definition × Noun) : Definition × Noun := (source.1.plain, source.2)

theorem fusible_plain (s : State) (id : EntityId) :
    fusible? s.plain id = (fusible? s id).map (Option.map plainSource) := by
  rw [fusible?, fusible?, State.definition_of_plain]
  cases s.definitionOf id with
  | error cause => rfl
  | ok d =>
      simp only [Except.map, bind, Except.bind]
      rw [Definition.plain_is_object, Definition.plain_noun]
      cases d.isObject with
      | false => rfl
      | true => cases d.noun? <;> rfl

theorem is_partner_plain (s : State) (taken : List EntityId) (id : EntityId) :
    isPartner s.plain taken id = isPartner s taken id := by
  funext other
  rw [isPartner, isPartner, fusible_plain]
  cases fusible? s other with
  | error cause => rfl
  | ok found => cases found <;> rfl

theorem pairing_in_plain (s : State) (taken : List EntityId) (id : EntityId) (first : Definition × Noun) (cell : Cell) :
    (pairingIn? s.plain taken id (plainSource first) cell).map (Option.map Pairing.plain) =
      (pairingIn? s taken id first cell).map (Option.map Pairing.plain) := by
  rw [pairingIn?, pairingIn?, is_partner_plain, State.on_board_plain, State.entities_at_plain]
  cases s.onBoard cell with
  | false => rfl
  | true =>
      refine Attempt.bind_alike (fun found => found) _ _ _ _ _ rfl fun found same together => ?_
      cases together
      cases found with
      | none => rfl
      | some other =>
          simp only [fusible_plain]
          cases fusible? s other with
          | error cause => rfl
          | ok found =>
              cases found with
              | none => rfl
              | some second =>
                  have recipes : s.plain.catalog.recipeFor? first.2 second.2 = s.catalog.recipeFor? first.2 second.2 :=
                    s.catalog.recipe_for_plain first.2 second.2
                  simp only [Except.map, Option.map, bind, Except.bind, plainSource, recipes]
                  cases s.catalog.recipeFor? first.2 second.2 with
                  | none => rfl
                  | some recipe =>
                      have output : s.plain.catalog.get recipe.output =
                        (s.catalog.get recipe.output).map Definition.plain := s.catalog.get_plain recipe.output
                      simp only [output]
                      cases s.catalog.get recipe.output <;> rfl

theorem found_alike (found other : Option Pairing) (same : found.map Pairing.plain = other.map Pairing.plain) :
    (found = none ∧ other = none) ∨ ∃ p q, found = some p ∧ other = some q ∧ p.plain = q.plain := by
  cases found with
  | none => exact .inl ⟨rfl, Option.map_eq_none_iff.mp same.symm⟩
  | some p =>
      cases other with
      | none => cases same
      | some q => exact .inr ⟨p, q, rfl, rfl, Option.some.inj same⟩

theorem first_pairing_plain (s : State) (taken : List EntityId) (id : EntityId) (first : Definition × Noun)
    (cells : List Cell) :
    (firstPairing? s.plain taken id (plainSource first) cells).map (Option.map Pairing.plain) =
      (firstPairing? s taken id first cells).map (Option.map Pairing.plain) := by
  induction cells with
  | nil => rfl
  | cons cell rest ih =>
      refine Attempt.bind_alike _ _ _ _ _ _ (pairing_in_plain s taken id first cell) fun found other same => ?_
      rcases found_alike found other same with ⟨rfl, rfl⟩ | ⟨p, q, rfl, rfl, _⟩
      · exact ih
      · exact congrArg Except.ok same

theorem used_plain (found : List Pairing) : used (found.map Pairing.plain) = used found := by
  rw [used, List.flatMap_map]
  rfl

theorem used_alike (found other : List Pairing) (same : found.map Pairing.plain = other.map Pairing.plain) :
    used found = used other := by
  rw [← used_plain found, same, used_plain]

theorem add_pairing_plain (s : State) (found other : List Pairing) (id : EntityId)
    (same : found.map Pairing.plain = other.map Pairing.plain) :
    (addPairing s.plain found id).map (List.map Pairing.plain) =
      (addPairing s other id).map (List.map Pairing.plain) := by
  rw [addPairing, addPairing, used_alike found other same, fusible_plain, State.cell_of_plain]
  by_cases taken : id ∈ used other
  · rw [if_pos taken, if_pos taken]
    exact congrArg Except.ok same
  · rw [if_neg taken, if_neg taken]
    cases fusible? s id with
    | error cause => rfl
    | ok source =>
        cases source with
        | none => exact congrArg Except.ok same
        | some first =>
            cases s.cellOf id with
            | error cause => rfl
            | ok cell =>
                simp only [Attempt.ok_map, Option.map_some, Attempt.ok_bind]
                refine Attempt.bind_alike _ _ _ _ _ _ (first_pairing_plain s _ id first _) fun one two alike => ?_
                rcases found_alike one two alike with ⟨rfl, rfl⟩ | ⟨p, q, rfl, rfl, last⟩
                · exact congrArg Except.ok same
                · refine congrArg Except.ok ?_
                  rw [List.map_append, List.map_append, same]
                  exact congrArg (other.map Pairing.plain ++ [·]) last

theorem pairings_plain (s : State) :
    (pairings s.plain).map (List.map Pairing.plain) = (pairings s).map (List.map Pairing.plain) :=
  Attempt.through_alike _ _ _ (fun found other id => add_pairing_plain s found other id) s.definitions.ids [] [] rfl

theorem spawn_plain (s : State) (p : Pairing) : (spawn s p).plain = spawn s.plain p.plain := by
  simp [State.plain, spawn, Pairing.plain, Event.plain]

theorem spawn_all_plain (found : List Pairing) (s : State) :
    (found.foldl spawn s).plain = (found.map Pairing.plain).foldl spawn s.plain := by
  induction found generalizing s with
  | nil => rfl
  | cons p rest ih =>
      rw [List.map_cons, List.foldl_cons, List.foldl_cons, ih, spawn_plain]

theorem run_blind : State.Blind run := by
  intro s
  refine Attempt.bind_alike _ _ _ _ _ _ (pairings_plain s) fun found other same => congrArg Except.ok ?_
  have board : (s.plain.remove (used found)).plain = (s.remove (used other)).plain := by
    rw [used_alike found other same]
    exact (s.remove (used other)).plain_plain
  rw [spawn_all_plain, spawn_all_plain, same, board]

end Fusion

namespace Transform

def Change.plain (c : Change) : Change := { c with message := "" }

def Summary.plain (s : Summary) : Summary := { s with message := "" }

theorem change_plain (s : State) (id : EntityId) :
    (change? s.plain id).map (Option.map Change.plain) = (change? s id).map (Option.map Change.plain) := by
  rw [change?, change?, State.definition_of_plain]
  cases s.definitionOf id with
  | error cause => rfl
  | ok d =>
      simp only [Except.map, bind, Except.bind, Definition.plain_is_object, Definition.plain_noun, State.plain_effects,
        State.cell_of_plain]
      cases d.isObject with
      | false => rfl
      | true =>
          cases d.noun? with
          | none => rfl
          | some source =>
              simp only
              cases s.effects.targetOf? source with
              | none => rfl
              | some target =>
                  have object : s.plain.catalog.objectFor? target =
                    (s.catalog.objectFor? target).map Definition.plain := s.catalog.object_for_plain target
                  by_cases idle : target = source
                  · simp only [if_pos idle]
                  · simp only [if_neg idle, object]
                    cases s.catalog.objectFor? target with
                    | none => rfl
                    | some d => cases s.cellOf id <;> rfl

theorem add_change_plain (c : Change) (summaries : List Summary) :
    (addChange c summaries).map Summary.plain = addChange c.plain (summaries.map Summary.plain) := by
  induction summaries with
  | nil => rfl
  | cons summary rest ih =>
      rw [addChange, List.map_cons, addChange]
      by_cases same : summary.source = c.source ∧ summary.target = c.target
      · rw [if_pos same]
        exact (if_pos same).symm
      · rw [if_neg same, List.map_cons, ih]
        exact (if_neg same).symm

theorem summaries_plain (changes : List Change) (summaries : List Summary) :
    (changes.foldl (fun summaries c => addChange c summaries) summaries).map Summary.plain =
      (changes.map Change.plain).foldl (fun summaries c => addChange c summaries) (summaries.map Summary.plain) := by
  induction changes generalizing summaries with
  | nil => rfl
  | cons c rest ih => rw [List.map_cons, List.foldl_cons, List.foldl_cons, ih, add_change_plain]

theorem apply_plain (s : State) (changes : List Change) :
    (apply s changes).plain = apply s.plain (changes.map Change.plain) := by
  have inserted : (changes.map Change.plain).foldl (fun definitions c => definitions.insert c.id c.definition)
      s.definitions = changes.foldl (fun definitions c => definitions.insert c.id c.definition) s.definitions := by
    rw [List.foldl_map]
    rfl
  exact congrArg (fun definitions => { s.plain with definitions }) inserted.symm

theorem events_alike (found other : List Change) (same : found.map Change.plain = other.map Change.plain) :
    ((found.foldl (fun summaries c => addChange c summaries) []).map Summary.event).map Event.plain =
      ((other.foldl (fun summaries c => addChange c summaries) []).map Summary.event).map Event.plain := by
  have blank (summaries : List Summary) : (summaries.map Summary.event).map Event.plain =
      ((summaries.map Summary.plain).map Summary.event).map Event.plain := by
    rw [List.map_map, List.map_map, List.map_map]
    rfl
  rw [blank, summaries_plain, same, ← summaries_plain, ← blank]

theorem run_blind (announce : Bool) : State.Blind fun s => run s announce := by
  intro s
  change (run s.plain announce).map State.plain = (run s announce).map State.plain
  rw [run, run, State.plain_effects, State.plain_definitions]
  by_cases idle : s.effects.transforms.isEmpty = true
  · rw [if_pos idle, if_pos idle]
    exact congrArg Except.ok s.plain_plain
  · rw [if_neg idle, if_neg idle]
    have asked := Attempt.each_alike (Option.map Change.plain) _ _ (change_plain s) s.definitions.ids
    refine Attempt.bind_alike _ _ _ _ _ _ asked fun found other same => congrArg Except.ok ?_
    have changes : (found.filterMap id).map Change.plain = (other.filterMap id).map Change.plain := by
      have kept := congrArg (List.filterMap id) same
      rw [List.filterMap_map, List.filterMap_map] at kept
      rw [List.map_filterMap, List.map_filterMap]
      exact kept
    rw [State.plain_report_all, State.plain_report_all, apply_plain, apply_plain, changes, s.plain_plain]
    cases announce with
    | false => rfl
    | true => exact congrArg (State.reportAll _) (events_alike _ _ changes)

end Transform

theorem Reading.run_blind (announce : Bool) : State.Blind fun s => Reading.run s announce := by
  intro s
  simp only [Reading.run, State.tokens_plain]
  cases s.tokens with
  | error cause => rfl
  | ok board => exact Transform.run_blind announce (s.withRules board.rules)

namespace Roles

theorem refresh_blind : State.Blind refresh := State.blind_of_plain refresh refresh_plain

theorem hand_plain (s : State) (role : Role) (id : EntityId) (told message : String → String) (r : Rule) :
    (hand s.plain role id told r).map State.plain = (hand s role id message r).map State.plain := by
  rw [hand, hand, State.definition_of_plain, State.cell_of_plain]
  cases s.definitionOf id with
  | error cause => rfl
  | ok d =>
      cases s.cellOf id with
      | error cause => rfl
      | ok cell =>
          refine congrArg Except.ok ?_
          rw [State.plain_report, State.plain_report, with_holder_plain, with_holder_plain, s.plain_plain]
          rfl

theorem capture_for_blind (role : Role) (r : Rule) : State.Blind fun s => captureFor s role r := by
  intro s
  simp only [captureFor, captor_plain, holder_plain]
  cases captor s r (s.holder role.other) with
  | error cause => rfl
  | ok found =>
      simp only [Attempt.ok_bind]
      cases found with
      | none => exact congrArg Except.ok s.plain_plain
      | some id =>
          by_cases held : s.holder role = some id
          · simp only [if_pos held]
            exact congrArg Except.ok s.plain_plain
          · simp only [if_neg held]
            exact hand_plain s role id _ _ r

theorem capture_blind (r : Rule) : State.Blind fun s => capture s r := by
  intro s
  unfold capture
  cases r.term with
  | noun target => exact congrArg Except.ok s.plain_plain
  | property p =>
      simp only
      cases Role.ofProperty? p with
      | none => exact congrArg Except.ok s.plain_plain
      | some role => exact capture_for_blind role r s

theorem capture_new_blind (before : List Rule) : State.Blind fun s => captureNew s before := fun s =>
  Attempt.through_alike State.plain _ _ (fun t u r same => (capture_blind r).alike t u same)
    (newRules before s.rules) s.plain s s.plain_plain

theorem trigger_role_blind (role : Role) : State.Blind fun s => triggerRole s role := by
  intro s
  simp only [triggerRole, slot_choice_plain, holder_plain]
  cases slotChoice s role with
  | error cause => rfl
  | ok found =>
      simp only [Attempt.ok_bind]
      cases found with
      | none => exact congrArg Except.ok s.plain_plain
      | some choice =>
          by_cases held : s.holder role = some choice.holder
          · simp only [if_pos held]
            exact congrArg Except.ok s.plain_plain
          · simp only [if_neg held]
            exact hand_plain s role choice.holder _ _ choice.rule

theorem trigger_slots_blind : State.Blind triggerSlots :=
  State.blind_then _ _ (trigger_role_blind .player) (trigger_role_blind .goal)

end Roles

namespace Hazards

theorem strike_blind (losses : State → List EntityId → Attempt (List EntityId)) (p : Property)
    (same : ∀ s : State, losses s.plain = losses s) : State.Blind (strike losses p) := by
  intro s
  simp only [strike, same, State.occupied_cells_plain]
  cases s.occupiedCells with
  | error cause => rfl
  | ok occupied =>
      simp only [Attempt.ok_bind]
      cases Attempt.each (fun entry => do .ok (entry.1, ← losses s entry.2)) occupied with
      | error cause => rfl
      | ok struck =>
          refine congrArg Except.ok ?_
          have board (gone : List EntityId) : (s.plain.remove gone).plain = (s.remove gone).plain :=
            (s.remove gone).plain_plain
          rw [State.plain_report_all, State.plain_report_all, board, List.map_map, List.map_map]
          rfl

theorem sink_blind : State.Blind sink := strike_blind drowned .sink drowned_plain

theorem melt_blind : State.Blind melt := strike_blind melted .melt melted_plain

end Hazards

theorem Victory.run_blind : State.Blind Victory.run := by
  intro s
  rw [run, run, winning_cell_plain, State.plain_won]
  cases s.won with
  | true => exact congrArg Except.ok s.plain_plain
  | false =>
      cases winningCell? s with
      | error cause => rfl
      | ok found =>
          cases found with
          | none => exact congrArg Except.ok s.plain_plain
          | some cell =>
              have cleared := ({ s with won := true } : State).plain_plain
              exact congrArg Except.ok (State.report_alike _ _ _ cleared)

namespace Turn

theorem settle_blind : State.Blind settle := by
  have marked : State.Blind fun s => .ok s.markStarts := fun s => congrArg Except.ok s.markStarts.plain_plain
  exact State.blind_then _ _ (Reading.run_blind false) (State.blind_then _ _ Roles.refresh_blind marked)

theorem refuse_plain (s : State) (message : String) : (refuse s.plain message).plain = (refuse s message).plain :=
  s.plain.retold_alike s .blocked message message s.plain_plain

theorem report_change_blind (before : List Rule) : State.Blind fun s => .ok (reportChange before s) := by
  intro s
  refine congrArg Except.ok ?_
  rw [reportChange, reportChange, State.plain_rules]
  by_cases same : Rule.setSignature s.rules = Rule.setSignature before
  · rw [if_pos same, if_pos same]
    exact s.plain_plain
  · rw [if_neg same, if_neg same]
    exact State.report_alike _ _ _ s.plain_plain

theorem report_silence_blind (d : Direction) : State.Blind fun s => .ok (reportSilence d s) := by
  intro s
  refine congrArg Except.ok ?_
  have silent : s.plain.events.isEmpty = s.events.isEmpty := List.isEmpty_map
  rw [reportSilence, reportSilence, silent]
  by_cases empty : s.events.isEmpty = true
  · rw [if_pos empty, if_pos empty]
    exact State.report_alike _ _ _ s.plain_plain
  · rw [if_neg empty, if_neg empty]
    exact s.plain_plain

theorem aftermath_blind (before : List Rule) : State.Blind (aftermath before) := by
  refine State.blind_then _ _ Fusion.run_blind ?_
  refine State.blind_then _ _ (Reading.run_blind true) ?_
  refine State.blind_then _ _ (Roles.capture_new_blind before) ?_
  refine State.blind_then _ _ Roles.trigger_slots_blind ?_
  refine State.blind_then _ _ Roles.refresh_blind ?_
  refine State.blind_then (fun s => .ok (reportChange before s))
    (fun s => Hazards.sink s >>= fun s => Hazards.melt s >>= fun s => Roles.refresh s >>= Victory.run)
    (report_change_blind before) ?_
  refine State.blind_then _ _ Hazards.sink_blind ?_
  refine State.blind_then _ _ Hazards.melt_blind ?_
  exact State.blind_then _ _ Roles.refresh_blind Victory.run_blind

theorem commit_blind (before : List Rule) (player : EntityId) (d : Direction) :
    State.Blind fun s => commit before player d s := by
  intro s
  simp only [commit, State.cell_of_plain]
  cases s.cellOf player with
  | error cause => rfl
  | ok cell =>
      have counted := ({ s with moves := s.moves + 1 } : State).plain_plain
      have begun := State.report_alike _ _ ⟨.move, movedMessage d, [cell]⟩ counted
      exact Attempt.bind_alike _ _ (aftermath before _) (aftermath before _) _ _ ((aftermath_blind before).alike _ _ begun)
        (report_silence_blind d).alike

theorem play_blind (d : Direction) : State.Blind fun s => play s d := by
  intro s
  change (play s.plain d).map State.plain = (play s d).map State.plain
  have refreshed : Roles.refresh { s.plain with events := [] } =
      (Roles.refresh { s with events := [] }).map State.plain := Roles.refresh_plain { s with events := [] }
  by_cases cleared : s.won = true
  · have plain : s.plain.won = true := cleared
    rw [play, play, if_pos plain, if_pos cleared]
    exact congrArg Except.ok (refuse_plain s clearedMessage)
  · have plain : ¬s.plain.won = true := cleared
    rw [play, play, if_neg plain, if_neg cleared, refreshed]
    cases Roles.refresh { s with events := [] } with
    | error cause => rfl
    | ok ready =>
        have player : ready.plain.markStarts.player = ready.markStarts.player := rfl
        have moved (id : EntityId) : Movement.run ready.plain.markStarts id d =
            (Movement.run ready.markStarts id d).map (Option.map State.plain) :=
          Movement.run_plain ready.markStarts id d
        simp only [Attempt.ok_map, Attempt.ok_bind, player, moved]
        cases ready.markStarts.player with
        | none => exact congrArg Except.ok (refuse_plain s nobodyMessage)
        | some id =>
            simp only
            cases Movement.run ready.markStarts id d with
            | error cause => rfl
            | ok gone =>
                cases gone with
                | none => exact congrArg Except.ok (refuse_plain s blockedMessage)
                | some next => exact commit_blind s.rules id d next

end Turn

end KanjiPuzzle
