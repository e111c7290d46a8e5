import KanjiPuzzle.Proofs.Chain
import KanjiPuzzle.Proofs.Phases

set_option autoImplicit false

/- Whole turns. On a sound state every turn has an answer: it is refused and changes nothing but the report, or it is
   committed and counts one move more on a state that is sound again. -/
namespace KanjiPuzzle

namespace Fusion

theorem fusible_answers (s : State) (sound : s.Sound) (id : EntityId) (alive : s.Alive id) :
    ∃ found, fusible? s id = .ok found := by
  obtain ⟨d, defined⟩ := s.definition_answers sound id alive
  exact ⟨_, by rw [fusible?, defined]; rfl⟩

theorem partner_answers (s : State) (sound : s.Sound) (taken : List EntityId) (id other : EntityId)
    (alive : s.Alive other) : ∃ verdict, isPartner s taken id other = .ok verdict := by
  rw [isPartner]
  by_cases excluded : other = id ∨ other ∈ taken
  · rw [if_pos excluded]
    exact ⟨false, rfl⟩
  · obtain ⟨second, fuses⟩ := fusible_answers s sound other alive
    rw [if_neg excluded, fuses]
    exact ⟨second.isSome, rfl⟩

theorem pairing_in_answers (s : State) (sound : s.Sound) (taken : List EntityId) (id : EntityId)
    (first : Definition × Noun) (cell : Cell) :
    ∃ pairing, pairingIn? s taken id first cell = .ok pairing ∧
      ∀ p, pairing = some p → s.catalog.contains p.output = true := by
  have living := s.here_alive sound cell
  obtain ⟨found, answered, partner⟩ := Attempt.first_answers (isPartner s taken id) (s.entitiesAt cell)
    fun other here => partner_answers s sound taken id other (living other here)
  rw [pairingIn?]
  by_cases inside : s.onBoard cell = true
  · rw [if_pos inside, answered]
    cases found with
    | none => exact ⟨none, rfl, by simp⟩
    | some other =>
        obtain ⟨second, fuses⟩ := fusible_answers s sound other (living other (partner other rfl).1)
        simp only [fuses, bind, Except.bind]
        cases second with
        | none => exact ⟨none, rfl, by simp⟩
        | some second =>
            cases accepted : s.catalog.recipeFor? first.2 second.2 with
            | none => exact ⟨none, by simp only [accepted], by simp⟩
            | some recipe =>
                obtain ⟨output, known⟩ := s.catalog.output_known recipe (List.mem_of_find?_eq_some accepted)
                have same := s.catalog.find_id recipe.output output known
                simp only [accepted, Catalog.get, known]
                refine ⟨_, rfl, fun p made => ?_⟩
                cases made
                exact Option.isSome_iff_exists.mpr ⟨output, same ▸ known⟩
  · rw [if_neg inside]
    exact ⟨none, rfl, by simp⟩

theorem first_pairing_answers (s : State) (sound : s.Sound) (taken : List EntityId) (id : EntityId)
    (first : Definition × Noun) (cells : List Cell) :
    ∃ pairing, firstPairing? s taken id first cells = .ok pairing ∧
      ∀ p, pairing = some p → s.catalog.contains p.output = true := by
  induction cells with
  | nil => exact ⟨none, rfl, by simp⟩
  | cons cell rest ih =>
      obtain ⟨pairing, answered, known⟩ := pairing_in_answers s sound taken id first cell
      rw [firstPairing?]
      simp only [answered, bind, Except.bind]
      cases pairing with
      | none => exact ih
      | some p => exact ⟨some p, rfl, known⟩

theorem pairings_answer (s : State) (sound : s.Sound) :
    ∃ found, pairings s = .ok found ∧ ∀ p ∈ found, s.catalog.contains p.output = true := by
  refine Attempt.through_answers (fun found => ∀ p ∈ found, s.catalog.contains p.output = true) (addPairing s)
    s.definitions.ids [] (by simp) fun found id member known => ?_
  have alive := (s.alive_iff id).mpr member
  obtain ⟨fuses, answered⟩ := fusible_answers s sound id alive
  obtain ⟨cell, stands⟩ := s.cell_answers sound id alive
  rw [addPairing]
  by_cases taken : id ∈ used found
  · rw [if_pos taken]
    exact ⟨found, rfl, known⟩
  · rw [if_neg taken, answered]
    cases fuses with
    | none => exact ⟨found, rfl, known⟩
    | some first =>
        obtain ⟨pairing, paired, output⟩ := first_pairing_answers s sound (used found) id first (neighbours cell)
        simp only [stands, paired, bind, Except.bind]
        cases pairing with
        | none => exact ⟨found, rfl, known⟩
        | some p => exact ⟨found ++ [p], rfl, List.forall_mem_append.mpr ⟨known, by simpa using output p rfl⟩⟩

theorem spawn_continues (s : State) (sound : s.Sound) (p : Pairing) (known : s.catalog.contains p.output = true) :
    s.Continues (spawn s p) := by
  refine ⟨⟨fun id => ?_, fun id definition found => ?_, sound.celled⟩, rfl, rfl⟩
  · simp only [spawn, EntityMap.contains_insert, sound.placed]
  · simp only [spawn, EntityMap.get_insert] at found
    by_cases newest : s.nextId = id
    · rw [if_pos newest] at found
      cases found
      exact known
    · rw [if_neg newest] at found
      exact sound.known id definition found

theorem spawn_all_continues (s : State) (sound : s.Sound) (pairings : List Pairing)
    (known : ∀ p ∈ pairings, s.catalog.contains p.output = true) : s.Continues (pairings.foldl spawn s) := by
  induction pairings generalizing s with
  | nil => exact s.continues_refl sound
  | cons p rest ih =>
      have spawned := spawn_continues s sound p (known p List.mem_cons_self)
      have later := ih (spawn s p) spawned.sound fun q member => by
        rw [spawned.catalog]
        exact known q (List.mem_cons_of_mem p member)
      exact s.continues_trans _ _ spawned later

theorem run_continues (s : State) (sound : s.Sound) : ∃ t, run s = .ok t ∧ s.Continues t := by
  obtain ⟨found, answered, known⟩ := pairings_answer s sound
  rw [run]
  simp only [answered, bind, Except.bind]
  have removed := s.continues_remove sound (used found)
  exact ⟨_, rfl, s.continues_trans _ _ removed (spawn_all_continues _ removed.sound found known)⟩

end Fusion

namespace Hazards

theorem drowned_answers (s : State) (sound : s.Sound) (ids : List EntityId) (living : ∀ id ∈ ids, s.Alive id) :
    ∃ gone, drowned s ids = .ok gone := by
  have has (p : Property) (id : EntityId) (member : id ∈ ids) : ∃ verdict, s.has p id = .ok verdict :=
    s.judgement_answers sound id (living id member) fun d => s.behaves d p
  obtain ⟨sinks, first, _⟩ := Attempt.select_answers (s.has .sink) ids (has .sink)
  obtain ⟨victims, second, _⟩ := Attempt.select_answers
    (fun id => do .ok (!(← s.has .float id) && !(← s.has .sink id))) ids fun id member => by
      obtain ⟨floats, floating⟩ := has .float id member
      obtain ⟨sinks, sinking⟩ := has .sink id member
      exact ⟨!floats && !sinks, by rw [floating, sinking]; rfl⟩
  simp only [bind, Except.bind] at second
  simp only [drowned, first, second, bind, Except.bind]
  cases sinks with
  | nil => exact ⟨[], rfl⟩
  | cons sink others =>
      cases victims with
      | nil => exact ⟨[], rfl⟩
      | cons victim rest => exact ⟨_, rfl⟩

theorem melted_answers (s : State) (sound : s.Sound) (ids : List EntityId) (living : ∀ id ∈ ids, s.Alive id) :
    ∃ gone, melted s ids = .ok gone := by
  have has (p : Property) (id : EntityId) (member : id ∈ ids) : ∃ verdict, s.has p id = .ok verdict :=
    s.judgement_answers sound id (living id member) fun d => s.behaves d p
  obtain ⟨hot, first, _⟩ := Attempt.select_answers (s.has .hot) ids (has .hot)
  obtain ⟨victims, second, _⟩ := Attempt.select_answers
    (fun id => do .ok ((← s.has .melt id) && hot.any (· != id))) ids fun id member => by
      obtain ⟨melts, melting⟩ := has .melt id member
      exact ⟨melts && hot.any (· != id), by rw [melting]; rfl⟩
  rw [melted, first]
  cases hot with
  | nil => exact ⟨[], rfl⟩
  | cons source others => exact ⟨victims, second⟩

theorem strike_continues (losses : State → List EntityId → Attempt (List EntityId)) (p : Property) (s : State)
    (sound : s.Sound) (answers : ∀ ids, (∀ id ∈ ids, s.Alive id) → ∃ gone, losses s ids = .ok gone) :
    ∃ t, strike losses p s = .ok t ∧ s.Continues t := by
  obtain ⟨cells, occupied, living⟩ := s.occupied_answers sound
  obtain ⟨struck, answered, _⟩ := Attempt.each_answers (fun _ => True)
    (fun entry => do .ok (entry.1, ← losses s entry.2)) cells fun entry member => by
      obtain ⟨gone, lost⟩ := answers entry.2 (living entry member)
      exact ⟨(entry.1, gone), by rw [lost]; rfl, trivial⟩
  simp only [bind, Except.bind] at answered
  simp only [strike, occupied, answered, bind, Except.bind]
  have removed := s.continues_remove sound ((struck.filter fun entry => !entry.2.isEmpty).flatMap Prod.snd)
  exact ⟨_, rfl, s.continues_trans _ _ removed ((s.remove _).continues_report_all removed.sound _)⟩

theorem sink_continues (s : State) (sound : s.Sound) : ∃ t, sink s = .ok t ∧ s.Continues t :=
  strike_continues drowned .sink s sound (drowned_answers s sound)

theorem melt_continues (s : State) (sound : s.Sound) : ∃ t, melt s = .ok t ∧ s.Continues t :=
  strike_continues melted .melt s sound (melted_answers s sound)

end Hazards

namespace Victory

theorem reaches_answers (s : State) (sound : s.Sound) (ids : List EntityId) (living : ∀ id ∈ ids, s.Alive id)
    (id : EntityId) : ∃ verdict, reaches s ids id = .ok verdict ∧
      (verdict = true ↔ ∃ other ∈ ids, other ≠ id ∧ s.isWinContact other = .ok true) := by
  obtain ⟨verdict, answered, met⟩ := Attempt.exists_answers s.isWinContact (ids.filter (· != id)) fun other member =>
    s.judgement_answers sound other (living other (List.mem_filter.mp member).1) fun d => s.winContact other d
  refine ⟨verdict, answered, met.trans (exists_congr fun other => ?_)⟩
  rw [List.mem_filter, bne_iff_ne, and_assoc]

theorem winning_cell_answers (s : State) (sound : s.Sound) : ∃ found, winningCell? s = .ok found := by
  obtain ⟨cells, occupied, living⟩ := s.occupied_answers sound
  rw [winningCell?]
  split
  case h_1 id cell _ =>
    obtain ⟨verdict, answered, _⟩ := reaches_answers s sound (s.entitiesAt cell) (s.here_alive sound cell) id
    exact ⟨_, by rw [answered]; rfl⟩
  case h_2 =>
    obtain ⟨found, answered, _⟩ := Attempt.first_answers
      (fun entry : Cell × List EntityId => Attempt.exists? (clears s entry.2) entry.2) cells fun entry member => by
        obtain ⟨verdict, answered, _⟩ := Attempt.exists_answers (clears s entry.2) entry.2 fun id inside => by
          obtain ⟨verdict, judged, _⟩ := reaches_answers s sound entry.2 (living entry member) id
          obtain ⟨plays, owned⟩ := s.judgement_answers sound id (living entry member id inside) fun d => s.behaves d .you
          have you : s.has .you id = .ok plays := owned
          rw [clears, you, judged]
          cases plays
          · exact ⟨false, rfl⟩
          · exact ⟨verdict, rfl⟩
        exact ⟨verdict, answered⟩
    exact ⟨_, by rw [occupied]; exact congrArg (· >>= fun found => Except.ok (found.map Prod.fst)) answered⟩

theorem run_continues (s : State) (sound : s.Sound) : ∃ t, run s = .ok t ∧ s.Continues t := by
  obtain ⟨found, answered⟩ := winning_cell_answers s sound
  rw [run]
  by_cases won : s.won = true
  · rw [if_pos won]
    exact ⟨s, rfl, s.continues_refl sound⟩
  · rw [if_neg won, answered]
    cases found with
    | none => exact ⟨s, rfl, s.continues_refl sound⟩
    | some cell => exact ⟨_, rfl, s.continues_board _ sound rfl rfl rfl rfl rfl⟩

end Victory

namespace Movement

def Undisturbed (s : State) : Course Scene → Prop
  | .ok scene => ∀ id, scene.positions.contains id = s.definitions.contains id
  | .error (.fault _) => False
  | .error _ => True

section Undisturbed

variable (s : State) (sound : s.Sound)

theorem fold_undisturbed (act : Scene → EntityId → Course Scene) (ids : List EntityId)
    (living : ∀ id ∈ ids, s.Alive id) (scene : Scene) (placed : Undisturbed s (.ok scene))
    (step : ∀ scene id, s.Alive id → Undisturbed s (.ok scene) → Undisturbed s (act scene id)) :
    Undisturbed s (ids.foldlM act scene) := by
  induction ids generalizing scene with
  | nil => exact placed
  | cons id rest ih =>
      have here := step scene id (living id List.mem_cons_self) placed
      rw [List.foldlM_cons]
      cases acted : act scene id with
      | error halt => exact (acted ▸ here : Undisturbed s (.error halt))
      | ok next => exact ih (fun other member => living other (List.mem_cons_of_mem id member)) next (acted ▸ here)

theorem others_alive (scene : Scene) (placed : Undisturbed s (.ok scene)) (cell : Cell) (id other : EntityId)
    (member : other ∈ scene.others cell id) : s.Alive other := by
  obtain ⟨stands, _⟩ := (mem_others_iff scene cell id other).mp member
  refine (placed other).symm.trans ?_
  rw [EntityMap.contains, stands]
  rfl

theorem settle_undisturbed (scene : Scene) (id : EntityId) (cell : Cell) (alive : s.Alive id)
    (placed : Undisturbed s (.ok scene)) : Undisturbed s (.ok (scene.settle id cell)) := by
  intro other
  rw [Scene.settle, EntityMap.contains_insert_present _ id other cell ((placed id).trans alive)]
  exact placed other

include sound

theorem meet_undisturbed (push : EntityId → Scene → Course Scene) (scene : Scene) (occupant : EntityId)
    (alive : s.Alive occupant) (placed : Undisturbed s (.ok scene)) (pushed : Undisturbed s (push occupant scene)) :
    Undisturbed s (do
      if ← ask (s.isPushable occupant) then push occupant scene
      else if ← ask (s.isBlocking occupant) then .error .refused
      else .ok scene) := by
  obtain ⟨pushable, first⟩ := s.judgement_answers sound occupant alive (s.pushable occupant)
  obtain ⟨blocking, second⟩ := s.judgement_answers sound occupant alive (s.blocking occupant)
  have moved : s.isPushable occupant = .ok pushable := first
  have stopped : s.isBlocking occupant = .ok blocking := second
  rw [moved, stopped]
  cases pushable with
  | true => exact pushed
  | false =>
      cases blocking with
      | true => trivial
      | false => exact placed

theorem clear_undisturbed (push : EntityId → Scene → Course Scene) (id : EntityId) (scene : Scene) (occupant : EntityId)
    (alive : s.Alive occupant) (placed : Undisturbed s (.ok scene)) (pushed : Undisturbed s (push occupant scene)) :
    Undisturbed s (clear s push id scene occupant) := by
  have met := meet_undisturbed s sound push scene occupant alive placed pushed
  obtain ⟨contact, answered⟩ := s.judgement_answers sound occupant alive (s.winContact occupant)
  have touched : s.isWinContact occupant = .ok contact := answered
  rw [clear]
  by_cases player : s.player = some id
  · rw [if_pos player, touched]
    cases contact with
    | true => exact placed
    | false => exact met
  · rw [if_neg player]
    exact met

theorem follow_undisturbed (drag : EntityId → Scene → Course Scene) (pushing : List EntityId) (scene : Scene)
    (follower : EntityId) (alive : s.Alive follower) (placed : Undisturbed s (.ok scene))
    (dragged : Undisturbed s (drag follower scene)) : Undisturbed s (follow s drag pushing scene follower) := by
  obtain ⟨pulls, answered⟩ := s.judgement_answers sound follower alive fun d => s.behaves d .pull
  have pulled : s.has .pull follower = .ok pulls := answered
  rw [follow]
  by_cases bound : follower ∈ scene.moved ∨ follower ∈ pushing
  · rw [if_pos bound]
    exact placed
  · rw [if_neg bound, pulled]
    cases pulls with
    | false => exact placed
    | true => exact dragged

theorem advance_undisturbed (o : Offset) (budget : Nat) (pushing : List EntityId) (id : EntityId) (scene : Scene)
    (alive : s.Alive id) (placed : Undisturbed s (.ok scene)) :
    Undisturbed s (advance s o budget pushing id scene) := by
  induction budget generalizing pushing id scene with
  | zero => trivial
  | succ budget ih =>
      obtain ⟨origin, stands⟩ := Option.isSome_iff_exists.mp ((placed id).trans alive)
      rw [advance]
      by_cases waiting : id ∈ pushing
      · rw [if_pos waiting]
        trivial
      · simp only [if_neg waiting, stands]
        by_cases inside : s.onBoard (origin.shift o) = true
        · rw [if_pos inside]
          have clears := fold_undisturbed s (clear s (advance s o budget (id :: pushing)) id)
            (scene.others (origin.shift o) id) (others_alive s scene placed _ id) scene placed ?_
          · cases cleared : (scene.others (origin.shift o) id).foldlM
              (clear s (advance s o budget (id :: pushing)) id) scene with
            | error halt => exact (cleared ▸ clears : Undisturbed s (.error halt))
            | ok middle =>
                have settled := settle_undisturbed s middle id (origin.shift o) alive (cleared ▸ clears)
                by_cases behind : s.onBoard (origin.back o) = true
                · simp only [bind, Except.bind, if_pos behind]
                  refine fold_undisturbed s _ _ (others_alive s _ settled _ id) _ settled ?_
                  intro later follower living placed
                  exact follow_undisturbed s sound _ pushing later follower living placed
                    (ih pushing follower later living placed)
                · simp only [bind, Except.bind, if_neg behind]
                  exact settled
          · intro later occupant living placed
            exact clear_undisturbed s sound _ id later occupant living placed
              (ih (id :: pushing) occupant later living placed)
        · rw [if_neg inside]
          trivial

theorem movement_answers (id : EntityId) (d : Direction) :
    ∃ after, run s id d = .ok after ∧ ∀ t, after = some t → s.Continues t ∧ t.Alive id := by
  rw [run]
  cases stands : s.positions.get? id with
  | none => exact ⟨none, rfl, by simp⟩
  | some cell =>
      have alive : s.Alive id := by
        refine (sound.placed id).symm.trans ?_
        rw [EntityMap.contains, stands]
        rfl
      have course := advance_undisturbed s sound d.offset (budget s) [] id ⟨s.positions, []⟩ alive sound.placed
      dsimp only
      cases carried : advance s d.offset (budget s) [] id ⟨s.positions, []⟩ with
      | ok scene =>
          rw [carried] at course
          refine ⟨_, rfl, fun t same => ?_⟩
          cases same
          exact ⟨⟨⟨course, sound.known, sound.celled⟩, rfl, rfl⟩, alive⟩
      | error halt =>
          rw [carried] at course
          cases halt with
          | fault cause => exact course.elim
          | refused => exact ⟨none, rfl, by simp⟩
          | exhausted => exact ⟨none, rfl, by simp⟩

end Undisturbed

end Movement

namespace Turn

theorem report_change_continues (before : List Rule) (s : State) (sound : s.Sound) :
    s.Continues (reportChange before s) := by
  rw [reportChange]
  by_cases same : Rule.setSignature s.rules = Rule.setSignature before
  · rw [if_pos same]
    exact s.continues_refl sound
  · rw [if_neg same]
    exact s.continues_board _ sound rfl rfl rfl rfl rfl

theorem report_silence_continues (d : Direction) (s : State) (sound : s.Sound) : s.Continues (reportSilence d s) := by
  rw [reportSilence]
  by_cases silent : s.events.isEmpty = true
  · rw [if_pos silent]
    exact s.continues_board _ sound rfl rfl rfl rfl rfl
  · rw [if_neg silent]
    exact s.continues_refl sound

theorem aftermath_continues (before : List Rule) (s : State) (sound : s.Sound) :
    ∃ t, aftermath before s = .ok t ∧ s.Continues t := by
  refine s.continues_bind _ _ (Fusion.run_continues s sound) fun s sound => ?_
  refine s.continues_bind _ _ (Reading.run_continues s sound true) fun s sound => ?_
  refine s.continues_bind _ _ (Roles.capture_new_continues s sound before) fun s sound => ?_
  refine s.continues_bind _ _ (Roles.trigger_slots_continues s sound) fun s sound => ?_
  refine s.continues_bind _ _ (Roles.refresh_continues s sound) fun s sound => ?_
  have reported := report_change_continues before s sound
  refine s.continues_bind _ _ ?_ fun s sound => ?_
  · obtain ⟨t, answered, later⟩ := Hazards.sink_continues _ reported.sound
    exact ⟨t, answered, s.continues_trans _ t reported later⟩
  refine s.continues_bind _ _ (Hazards.melt_continues s sound) fun s sound => ?_
  exact s.continues_bind _ _ (Roles.refresh_continues s sound) fun s sound => Victory.run_continues s sound

theorem commit_answers (before : List Rule) (player : EntityId) (d : Direction) (s : State) (sound : s.Sound)
    (alive : s.Alive player) :
    ∃ t, commit before player d s = .ok t ∧ t.Sound ∧ t.catalog = s.catalog ∧ t.moves = s.moves + 1 := by
  obtain ⟨cell, stands⟩ := s.cell_answers sound player alive
  have counted : State.Sound ({ s with moves := s.moves + 1 }.report ⟨.move, movedMessage d, [cell]⟩) :=
    ⟨sound.placed, sound.known, sound.celled⟩
  obtain ⟨t, answered, later⟩ := aftermath_continues before _ counted
  have silent := report_silence_continues d t later.sound
  rw [commit]
  simp only [stands, answered, bind, Except.bind]
  exact ⟨_, rfl, silent.sound, silent.catalog.trans later.catalog, silent.moves.trans later.moves⟩

def refuses (s : State) (d : Direction) : Attempt Bool :=
  if s.won then .ok true
  else do
    let ready ← Roles.refresh { s with events := [] }
    match ready.player with
    | none => .ok true
    | some player => do
        let after ← Movement.run ready.markStarts player d
        .ok after.isNone

theorem play_cases (s : State) (sound : s.Sound) (d : Direction) :
    (refuses s d = .ok true ∧ ∃ message, play s d = .ok (refuse s message)) ∨
      (refuses s d = .ok false ∧
        ∃ t, play s d = .ok t ∧ t.Sound ∧ t.catalog = s.catalog ∧ t.moves = s.moves + 1) := by
  have silent : State.Sound { s with events := [] } := ⟨sound.placed, sound.known, sound.celled⟩
  obtain ⟨ready, refreshed, continues⟩ := Roles.refresh_continues _ silent
  have marked : ready.markStarts.Sound := ⟨continues.sound.placed, continues.sound.known, continues.sound.celled⟩
  rw [refuses, play]
  by_cases won : s.won = true
  · rw [if_pos won, if_pos won]
    exact .inl ⟨rfl, clearedMessage, rfl⟩
  · rw [if_neg won, if_neg won, refreshed]
    simp only [bind, Except.bind]
    cases player : ready.player with
    | none =>
        rw [show ready.markStarts.player = none from player]
        exact .inl ⟨rfl, nobodyMessage, rfl⟩
    | some id =>
        obtain ⟨after, moved, carried⟩ := Movement.movement_answers ready.markStarts marked id d
        simp only [moved, show ready.markStarts.player = some id from player]
        cases after with
        | none => exact .inl ⟨rfl, blockedMessage, rfl⟩
        | some t =>
            obtain ⟨onward, alive⟩ := carried t rfl
            obtain ⟨u, committed, kept, catalog, moves⟩ := commit_answers s.rules id d t onward.sound alive
            refine .inr ⟨rfl, u, committed, kept, ?_, ?_⟩
            · exact catalog.trans (onward.catalog.trans continues.catalog)
            · rw [moves, onward.moves, show ready.markStarts.moves = s.moves from continues.moves]

theorem play_refused (s : State) (sound : s.Sound) (d : Direction) (refused : refuses s d = .ok true) :
    ∃ message, play s d = .ok (refuse s message) := by
  rcases play_cases s sound d with ⟨_, played⟩ | ⟨accepted, _⟩
  · exact played
  · rw [refused] at accepted
    cases accepted

theorem play_committed (s next : State) (sound : s.Sound) (d : Direction) (accepted : refuses s d = .ok false)
    (played : play s d = .ok next) : next.Sound ∧ next.moves = s.moves + 1 := by
  rcases play_cases s sound d with ⟨refused, _⟩ | ⟨_, t, reached, kept, _, counted⟩
  · rw [accepted] at refused
    cases refused
  · cases played.symm.trans reached
    exact ⟨kept, counted⟩

theorem settle_answers (s : State) (sound : s.Sound) : ∃ t, settle s = .ok t ∧ s.Continues t := by
  refine s.continues_bind _ _ (Reading.run_continues s sound false) fun s sound => ?_
  obtain ⟨t, refreshed, continues⟩ := Roles.refresh_continues s sound
  refine ⟨t.markStarts, by rw [refreshed]; rfl, ?_⟩
  exact s.continues_trans t _ continues (t.continues_board _ continues.sound rfl rfl rfl rfl rfl)

end Turn

end KanjiPuzzle
