import KanjiPuzzle.Proofs.Grammar
import KanjiPuzzle.Proofs.Soundness
import KanjiPuzzle.Turn.Play

set_option autoImplicit false

/- The phases of a turn. On a sound state each of them has an answer, and what it answers is sound again, of the same
   catalog and after the same number of moves. -/
namespace KanjiPuzzle

namespace State

structure Continues (s t : State) : Prop where
  sound : t.Sound
  catalog : t.catalog = s.catalog
  moves : t.moves = s.moves

theorem continues_refl (s : State) (sound : s.Sound) : s.Continues s := ⟨sound, rfl, rfl⟩

theorem continues_trans (s t u : State) (first : s.Continues t) (second : t.Continues u) : s.Continues u :=
  ⟨second.sound, second.catalog.trans first.catalog, second.moves.trans first.moves⟩

theorem continues_board (s t : State) (sound : s.Sound) (definitions : t.definitions = s.definitions)
    (positions : t.positions = s.positions) (catalog : t.catalog = s.catalog) (rules : t.rules = s.rules)
    (moves : t.moves = s.moves) : s.Continues t := by
  refine ⟨⟨?_, ?_, ?_⟩, catalog, moves⟩
  · rw [definitions, positions]
    exact sound.placed
  · rw [definitions, catalog]
    exact sound.known
  · rw [rules]
    exact sound.celled

theorem continues_holder (s : State) (sound : s.Sound) (role : Role) (id : Option EntityId) :
    s.Continues (s.withHolder role id) := by
  cases role <;> exact continues_board s _ sound rfl rfl rfl rfl rfl

theorem report_all_eq (s : State) (es : List Event) : s.reportAll es = { s with events := s.events ++ es } := by
  rw [reportAll]
  induction es generalizing s with
  | nil => rw [List.foldl_nil, List.append_nil]
  | cons e rest ih => rw [List.foldl_cons, ih, report, List.append_assoc, List.singleton_append]

theorem continues_report_all (s : State) (sound : s.Sound) (es : List Event) : s.Continues (s.reportAll es) := by
  rw [report_all_eq]
  exact continues_board s _ sound rfl rfl rfl rfl rfl

theorem continues_remove (s : State) (sound : s.Sound) (gone : List EntityId) : s.Continues (s.remove gone) := by
  refine ⟨⟨fun id => ?_, fun id definition found => ?_, sound.celled⟩, rfl, rfl⟩
  · simp only [remove, EntityMap.contains_erase_all, sound.placed]
  · simp only [remove, EntityMap.get_erase_all] at found
    by_cases erased : id ∈ gone
    · rw [if_pos erased] at found
      cases found
    · rw [if_neg erased] at found
      exact sound.known id definition found

theorem continues_bind (s : State) (x : Attempt State) (f : State → Attempt State)
    (first : ∃ t, x = .ok t ∧ s.Continues t) (second : ∀ t, t.Sound → ∃ u, f t = .ok u ∧ t.Continues u) :
    ∃ u, (x >>= f) = .ok u ∧ s.Continues u := by
  refine Attempt.answers_bind s.Continues s.Continues x f first fun t continues => ?_
  obtain ⟨u, answered, later⟩ := second t continues.sound
  exact ⟨u, answered, continues_trans s t u continues later⟩

theorem tile_answers (s : State) (sound : s.Sound) (id : EntityId) (alive : s.Alive id) :
    ∃ tile d, s.tileOf id = .ok tile ∧ s.catalog.get tile.definition = .ok d := by
  obtain ⟨cell, stands⟩ := cell_answers s sound id alive
  obtain ⟨definition, defined⟩ := Option.isSome_iff_exists.mp alive
  obtain ⟨d, found⟩ := Option.isSome_iff_exists.mp (sound.known id definition defined)
  refine ⟨⟨id, definition, cell⟩, d, ?_, by rw [Catalog.get, found]⟩
  simp only [tileOf, definitionIdOf, defined, stands, bind, Except.bind]

theorem tokens_answer (s : State) (sound : s.Sound) : ∃ b, s.tokens = .ok b := by
  have place (b : TokenBoard) (id : EntityId) (member : id ∈ s.definitions.ids) (_ : True) :
      ∃ next, (do b.place s.catalog (← s.tileOf id)) = Except.ok next ∧ True := by
    obtain ⟨tile, d, answered, found⟩ := tile_answers s sound id ((s.alive_iff id).mpr member)
    simp only [answered, TokenBoard.place, found, bind, Except.bind]
    by_cases inside : b.extent.contains tile.cell = true
    · rw [if_pos inside]
      exact ⟨_, rfl, trivial⟩
    · rw [if_neg inside]
      exact ⟨b, rfl, trivial⟩
  obtain ⟨b, answered, _⟩ := Attempt.through_answers (fun _ => True) _ s.definitions.ids (TokenBoard.empty s.extent)
    trivial place
  exact ⟨b, answered⟩

end State

namespace Transform

theorem change_answers (s : State) (sound : s.Sound) (id : EntityId) (alive : s.Alive id) :
    ∃ change, change? s id = .ok change ∧
      ∀ c, change = some c → s.Alive c.id ∧ s.catalog.contains c.definition = true := by
  obtain ⟨d, defined⟩ := s.definition_answers sound id alive
  obtain ⟨cell, stands⟩ := s.cell_answers sound id alive
  rw [change?, defined]
  simp only [stands, bind, Except.bind]
  cases d.isObject with
  | false => exact ⟨none, rfl, by simp⟩
  | true =>
      cases d.noun? with
      | none => exact ⟨none, rfl, by simp⟩
      | some source =>
          cases transform : s.effects.targetOf? source with
          | none => exact ⟨none, by simp only [transform], by simp⟩
          | some target =>
              simp only [transform]
              by_cases same : target = source
              · rw [if_pos same]
                exact ⟨none, rfl, by simp⟩
              · rw [if_neg same]
                cases found : s.catalog.objectFor? target with
                | none => exact ⟨none, rfl, by simp⟩
                | some object =>
                    refine ⟨_, rfl, fun c made => ?_⟩
                    cases made
                    have listed := List.mem_of_find?_eq_some found
                    exact ⟨alive, (s.catalog.find_is_some_iff object.id).mpr ⟨object, listed, rfl⟩⟩

theorem apply_continues (s : State) (sound : s.Sound) (changes : List Change)
    (possible : ∀ c ∈ changes, s.Alive c.id ∧ s.catalog.contains c.definition = true) :
    s.Continues (apply s changes) := by
  rw [apply]
  induction changes generalizing s with
  | nil => exact s.continues_refl sound
  | cons c rest ih =>
      obtain ⟨alive, known⟩ := possible c List.mem_cons_self
      have kept (id : EntityId) : (s.definitions.insert c.id c.definition).contains id = s.definitions.contains id :=
        s.definitions.contains_insert_present c.id id c.definition alive
      have changed : State.Sound { s with definitions := s.definitions.insert c.id c.definition } := by
        refine ⟨fun id => (sound.placed id).trans (kept id).symm, fun id definition found => ?_, sound.celled⟩
        rw [EntityMap.get_insert] at found
        by_cases same : c.id = id
        · rw [if_pos same] at found
          cases found
          exact known
        · rw [if_neg same] at found
          exact sound.known id definition found
      have later := ih _ changed fun other member => by
        obtain ⟨living, fits⟩ := possible other (List.mem_cons_of_mem c member)
        exact ⟨(kept other.id).trans living, fits⟩
      exact ⟨later.sound, later.catalog, later.moves⟩

theorem run_continues (s : State) (sound : s.Sound) (announce : Bool) :
    ∃ t, run s announce = .ok t ∧ s.Continues t := by
  rw [run]
  by_cases idle : s.effects.transforms.isEmpty = true
  · rw [if_pos idle]
    exact ⟨s, rfl, s.continues_refl sound⟩
  · rw [if_neg idle]
    obtain ⟨changes, answered, possible⟩ := Attempt.each_answers
      (fun change : Option Change => ∀ c, change = some c → s.Alive c.id ∧ s.catalog.contains c.definition = true)
      (change? s) s.definitions.ids fun id member => change_answers s sound id ((s.alive_iff id).mpr member)
    simp only [answered, bind, Except.bind]
    have applied := apply_continues s sound (changes.filterMap id) fun c member => by
      obtain ⟨change, listed, same⟩ := List.mem_filterMap.mp member
      exact possible change listed c same
    exact ⟨_, rfl, s.continues_trans _ _ applied ((apply s _).continues_report_all applied.sound _)⟩

end Transform

theorem Reading.run_continues (s : State) (sound : s.Sound) (announce : Bool) :
    ∃ t, Reading.run s announce = .ok t ∧ s.Continues t := by
  obtain ⟨b, answered⟩ := s.tokens_answer sound
  rw [Reading.run]
  simp only [answered, bind, Except.bind]
  have read : (s.withRules b.rules).Sound := by
    refine ⟨sound.placed, sound.known, fun r member => ?_⟩
    obtain ⟨origin, k, spells⟩ := b.rules_spelled r member
    exact ⟨_, _, _, spells.cells⟩
  obtain ⟨t, transformed, continues⟩ := Transform.run_continues _ read announce
  exact ⟨t, transformed, ⟨continues.sound, continues.catalog, continues.moves⟩⟩

namespace Roles

theorem carriers_answer (s : State) (grounded : s.Grounded) (noun : Noun) :
    ∃ carriers, carriersOf s noun = .ok carriers ∧ ∀ id ∈ carriers, s.Alive id := by
  obtain ⟨carriers, answered, listed⟩ := Attempt.select_answers
    (fun id => do .ok ((← s.definitionOf id).noun? == some noun)) s.definitions.ids fun id member =>
      State.judgement_answers _ grounded id ((s.alive_iff id).mpr member) fun d => d.noun? == some noun
  exact ⟨carriers, answered, fun id member => (s.alive_iff id).mpr (listed id member)⟩

theorem first_carrier_answers (s : State) (grounded : s.Grounded) (p : Property) :
    ∃ found, firstCarrier s p = .ok found := by
  obtain ⟨candidates, selected, listed⟩ := Attempt.select_answers (s.hasGrant p) s.definitions.ids fun id member =>
    State.judgement_answers _ grounded id ((s.alive_iff id).mpr member) fun d => s.granted d p
  have price (id : EntityId) (member : id ∈ candidates) :
      ∃ priced, (do .ok (← price s p id, id)) = Except.ok priced ∧ True := by
    have alive := (s.alive_iff id).mpr (listed id member)
    obtain ⟨cell, stands⟩ : ∃ cell, s.cellOf id = .ok cell := State.cell_answers _ grounded id alive
    obtain ⟨d, defined⟩ : ∃ d, s.definitionOf id = .ok d := State.definition_answers _ grounded id alive
    simp only [Roles.price, stands, defined, bind, Except.bind]
    exact ⟨_, rfl, trivial⟩
  obtain ⟨priced, answered, _⟩ := Attempt.each_answers (fun _ => True) _ candidates price
  refine ⟨(least? keyedLess priced).map Prod.snd, ?_⟩
  rw [firstCarrier, selected]
  exact congrArg (· >>= fun priced => Except.ok ((least? keyedLess priced).map Prod.snd)) answered

theorem refresh_role_answers (s : State) (grounded : s.Grounded) (role : Role) :
    ∃ holder, refreshRole s role = .ok (s.withHolder role holder) := by
  rw [refreshRole]
  cases kept? s role with
  | some id => exact ⟨some id, rfl⟩
  | none =>
      by_cases granted : hasGrantRule s role.property = true
      · obtain ⟨found, answered⟩ := first_carrier_answers s grounded role.property
        simp only [if_pos granted, answered]
        exact ⟨found, rfl⟩
      · simp only [if_neg granted]
        exact ⟨none, rfl⟩

theorem refresh_grounded (s : State) (grounded : s.Grounded) : ∃ t, refresh s = .ok t ∧ t.Grounded := by
  obtain ⟨player, first⟩ := refresh_role_answers s grounded .player
  have middle : (s.withHolder .player player).Grounded := s.grounded_board _ grounded rfl rfl rfl
  obtain ⟨goal, second⟩ := refresh_role_answers _ middle .goal
  apply Exists.intro ((s.withHolder .player player).withHolder .goal goal)
  rw [refresh, first]
  exact ⟨second, s.grounded_board _ grounded rfl rfl rfl⟩

theorem refresh_role_continues (s : State) (sound : s.Sound) (role : Role) :
    ∃ t, refreshRole s role = .ok t ∧ s.Continues t := by
  obtain ⟨holder, answered⟩ := refresh_role_answers s (s.sound_grounded sound) role
  exact ⟨_, answered, s.continues_holder sound role holder⟩

theorem refresh_continues (s : State) (sound : s.Sound) : ∃ t, refresh s = .ok t ∧ s.Continues t :=
  s.continues_bind _ _ (refresh_role_continues s sound .player) fun t sound => refresh_role_continues t sound .goal

theorem climb_answers (s : State) (grounded : s.Grounded) (candidates : List EntityId)
    (living : ∀ id ∈ candidates, s.Alive id) (rungs : List (Cell → Bool → Bool)) :
    ∃ found, climb s candidates rungs = .ok found ∧ ∀ id, found = some id → id ∈ candidates := by
  induction rungs with
  | nil => exact ⟨candidates.head?, rfl, fun id first => List.mem_of_head? first⟩
  | cons rung rest ih =>
      obtain ⟨found, answered, member⟩ := Attempt.first_answers (onRung s rung) candidates fun id listed => by
        obtain ⟨cell, stands⟩ : ∃ cell, s.cellOf id = .ok cell := State.cell_answers _ grounded id (living id listed)
        exact ⟨rung cell (s.moved id), by rw [onRung, stands]; rfl⟩
      rw [climb]
      simp only [answered, bind, Except.bind]
      cases found with
      | none => exact ih
      | some id => exact ⟨some id, rfl, fun other same => (member other same).1⟩

theorem first_cells (r : Rule) (enough : 2 ≤ r.cells.length) :
    ∃ noun connector rest, r.cells = noun :: connector :: rest := by
  match r.cells, enough with
  | noun :: connector :: rest, _ => exact ⟨noun, connector, rest, rfl⟩

theorem captor_answers (s : State) (grounded : s.Grounded) (r : Rule) (excluded : Option EntityId)
    (enough : 2 ≤ r.cells.length) :
    ∃ found, captor s r excluded = .ok found ∧ ∀ id, found = some id → s.Alive id := by
  obtain ⟨carriers, answered, living⟩ := carriers_answer s grounded r.subject
  rw [captor]
  simp only [answered, bind, Except.bind]
  have eligible : ∀ id ∈ carriers.filter fun id => some id != excluded, s.Alive id :=
    fun id member => living id (List.mem_filter.mp member).1
  split
  · exact ⟨none, rfl, by simp⟩
  · split
    · obtain ⟨found, climbed, member⟩ := climb_answers s grounded _ eligible _
      exact ⟨found, climbed, fun id same => eligible id (member id same)⟩
    case h_2 short =>
      obtain ⟨noun, connector, rest, cells⟩ := first_cells r enough
      exact absurd cells (short noun connector rest)

theorem hand_continues (s : State) (sound : s.Sound) (role : Role) (id : EntityId) (alive : s.Alive id)
    (message : String → String) (r : Rule) : ∃ t, hand s role id message r = .ok t ∧ s.Continues t := by
  obtain ⟨d, defined⟩ := s.definition_answers sound id alive
  obtain ⟨cell, stands⟩ := s.cell_answers sound id alive
  rw [hand]
  simp only [defined, stands, bind, Except.bind]
  refine ⟨_, rfl, ?_⟩
  cases role <;> exact s.continues_board _ sound rfl rfl rfl rfl rfl

theorem capture_for_continues (s : State) (sound : s.Sound) (role : Role) (r : Rule)
    (celled : ∃ noun connector term, r.cells = [noun, connector, term]) :
    ∃ t, captureFor s role r = .ok t ∧ s.Continues t := by
  obtain ⟨noun, connector, term, cells⟩ := celled
  obtain ⟨found, answered, living⟩ := captor_answers s (s.sound_grounded sound) r (s.holder role.other) (by simp [cells])
  rw [captureFor, answered]
  cases found with
  | none => exact ⟨s, rfl, s.continues_refl sound⟩
  | some id =>
      simp only [bind, Except.bind]
      by_cases held : s.holder role = some id
      · rw [if_pos held]
        exact ⟨s, rfl, s.continues_refl sound⟩
      · rw [if_neg held]
        exact hand_continues s sound role id (living id rfl) _ r

theorem capture_continues (s : State) (sound : s.Sound) (r : Rule)
    (celled : ∃ noun connector term, r.cells = [noun, connector, term]) :
    ∃ t, capture s r = .ok t ∧ s.Continues t := by
  rw [capture]
  cases r.term with
  | noun target => exact ⟨s, rfl, s.continues_refl sound⟩
  | property p =>
      dsimp only
      cases Role.ofProperty? p with
      | none => exact ⟨s, rfl, s.continues_refl sound⟩
      | some role => exact capture_for_continues s sound role r celled

theorem capture_new_continues (s : State) (sound : s.Sound) (before : List Rule) :
    ∃ t, captureNew s before = .ok t ∧ s.Continues t := by
  refine Attempt.through_answers s.Continues capture _ s (s.continues_refl sound) fun t r member continues => ?_
  have spelled : r ∈ s.rules := (List.mem_filter.mp member).1
  obtain ⟨u, answered, later⟩ := capture_continues t continues.sound r (sound.celled r spelled)
  exact ⟨u, answered, s.continues_trans t u continues later⟩

theorem distance_answers (s : State) (sound : s.Sound) (anchor : Option Cell) (id : EntityId) (alive : s.Alive id) :
    ∃ distance, distanceTo s anchor id = .ok distance := by
  cases anchor with
  | none => exact ⟨0, rfl⟩
  | some cell =>
      obtain ⟨own, stands⟩ := s.cell_answers sound id alive
      exact ⟨own.distance cell, by rw [distanceTo, stands]; rfl⟩

theorem slot_choice_for_answers (s : State) (sound : s.Sound) (role : Role) (r : Rule) (walker : EntityId)
    (alive : s.Alive walker) :
    ∃ choice, slotChoice? s role r walker = .ok choice ∧ ∀ c, choice = some c → s.Alive c.holder := by
  obtain ⟨carriers, answered, living⟩ := carriers_answer s (s.sound_grounded sound) r.subject
  have eligible : ∀ id ∈ carriers.filter fun id => id != walker && !barred s role id, s.Alive id :=
    fun id member => living id (List.mem_filter.mp member).1
  have measure (id : EntityId) (member : id ∈ carriers.filter fun id => id != walker && !barred s role id) :
      ∃ far, (do .ok (← distanceTo s (anchor? s role) id, id)) = Except.ok far ∧ s.Alive far.2 := by
    obtain ⟨distance, measured⟩ := distance_answers s sound (anchor? s role) id (eligible id member)
    exact ⟨(distance, id), by rw [measured]; rfl, eligible id member⟩
  obtain ⟨far, measured, near⟩ := Attempt.each_answers (fun far : Nat × EntityId => s.Alive far.2) _ _ measure
  obtain ⟨own, walked⟩ := distance_answers s sound (anchor? s role) walker alive
  simp only [bind, Except.bind] at measured
  simp only [slotChoice?, answered, measured, walked, bind, Except.bind]
  cases nearest : least? keyedLess far with
  | some nearby =>
      refine ⟨_, rfl, fun c same => ?_⟩
      cases same
      exact near nearby (least_mem keyedLess far nearby nearest)
  | none =>
      by_cases blocked : barred s role walker = true
      · simp only [if_pos blocked]
        exact ⟨none, rfl, by simp⟩
      · simp only [if_neg blocked]
        refine ⟨_, rfl, fun c same => ?_⟩
        cases same
        exact alive

theorem slot_choices_answer (s : State) (sound : s.Sound) (role : Role) (r : Rule)
    (celled : ∃ noun connector term, r.cells = [noun, connector, term]) :
    ∃ choices, slotChoicesFor s role r = .ok choices ∧ ∀ c ∈ choices, s.Alive c.holder := by
  obtain ⟨noun, connector, term, cells⟩ := celled
  obtain ⟨walkers, selected, listed⟩ := Attempt.select_answers (isWalker s r.subject) (s.entitiesAt noun)
    fun id here => s.judgement_answers sound id (s.here_alive sound noun id here) fun d =>
      d.noun? == some r.subject && s.moved id
  obtain ⟨choices, chosen, living⟩ := Attempt.each_answers
    (fun choice : Option SlotChoice => ∀ c, choice = some c → s.Alive c.holder) (slotChoice? s role r) walkers
    fun id member => slot_choice_for_answers s sound role r id (s.here_alive sound noun id (listed id member))
  rw [slotChoicesFor]
  simp only [cells, selected, chosen, bind, Except.bind]
  refine ⟨_, rfl, fun c member => ?_⟩
  obtain ⟨choice, inside, same⟩ := List.mem_filterMap.mp member
  exact living choice inside c same

theorem trigger_role_continues (s : State) (sound : s.Sound) (role : Role) :
    ∃ t, triggerRole s role = .ok t ∧ s.Continues t := by
  obtain ⟨choices, answered, living⟩ := Attempt.each_answers
    (fun choices : List SlotChoice => ∀ c ∈ choices, s.Alive c.holder) (slotChoicesFor s role)
    (grantRules s role.property) fun r member =>
      slot_choices_answer s sound role r (sound.celled r (List.mem_filter.mp member).1)
  rw [triggerRole, slotChoice, answered]
  simp only [bind, Except.bind]
  cases least : least? SlotChoice.less choices.flatten with
  | none => exact ⟨s, rfl, s.continues_refl sound⟩
  | some choice =>
      by_cases held : s.holder role = some choice.holder
      · simp only [if_pos held]
        exact ⟨s, rfl, s.continues_refl sound⟩
      · simp only [if_neg held]
        obtain ⟨inside, listed, member⟩ := List.mem_flatten.mp (least_mem SlotChoice.less _ choice least)
        exact hand_continues s sound role choice.holder (living inside listed choice member) _ choice.rule

theorem trigger_slots_continues (s : State) (sound : s.Sound) : ∃ t, triggerSlots s = .ok t ∧ s.Continues t :=
  s.continues_bind _ _ (trigger_role_continues s sound .player) fun t sound => trigger_role_continues t sound .goal

end Roles

end KanjiPuzzle
