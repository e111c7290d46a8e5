import KanjiPuzzle.Proofs.History
import KanjiPuzzle.Session.Console

set_option autoImplicit false

/- What a request can fail for: a definition that the catalog lacks, or a word that is none. A request that raises a
   fault leaves the session as it was, although the session is worked on in place. -/
namespace KanjiPuzzle

theorem Catalog.get_ok_iff (c : Catalog) (id : DefinitionId) : (∃ d, c.get id = .ok d) ↔ c.contains id = true := by
  rw [get, contains]
  cases c.find? id <;> simp

theorem Catalog.get_error_iff (c : Catalog) (id : DefinitionId) (f : Fault) :
    c.get id = .error f ↔ c.contains id = false ∧ f = .unknownDefinition id := by
  rw [get, contains]
  cases c.find? id <;> simp [eq_comm]

theorem Vocabulary.no_word_iff {α : Type} (v : Vocabulary α) (word : String) :
    v.ofWord? word = none ↔ word ∉ v.members.map v.word := by
  simp [ofWord?, List.find?_eq_none]

theorem Vocabulary.word_of_word {α : Type} (v : Vocabulary α) (word : String) (a : α) (named : v.ofWord? word = some a) :
    v.word a = word := by
  simpa using List.find?_some named

theorem Command.no_word_iff (word : String) :
    ofWord? word = none ↔ word ∉ ["up", "down", "left", "right", "undo", "restart"] := vocabulary.no_word_iff word

theorem Direction.no_word_iff (word : String) : ofWord? word = none ↔ word ∉ ["up", "down", "left", "right"] := by
  rw [ofWord?]
  cases named : Command.ofWord? word with
  | none =>
      have strange := (Command.no_word_iff word).mp named
      simp only [List.mem_cons, not_or] at strange ⊢
      simp [strange]
  | some command =>
      have spelled : command.word = word := Command.vocabulary.word_of_word word command named
      cases command with
      | move d => cases d <;> simp [← spelled, Command.word]
      | undo => simp [← spelled, Command.word]
      | restart => simp [← spelled, Command.word]

namespace Request

-- What a request is refused for, whatever the session that it is made of.
inductive Objection (catalog : Catalog) : Request → Fault → Prop where
  | unknown (level : Level) (before after : List Placement) (p : Placement)
      (listed : level.placements = before ++ p :: after)
      (known : ∀ q ∈ before, catalog.contains q.definition = true) (absent : catalog.contains p.definition = false) :
      Objection catalog (.load level) (.unknownDefinition p.definition)
  | noCommand (word : String) (strange : word ∉ ["up", "down", "left", "right", "undo", "restart"]) :
      Objection catalog (.apply word) .notACommand
  | noMove (word : String) (strange : word ∉ ["up", "down", "left", "right"]) :
      Objection catalog (.move word) .notACommand

theorem apply_objection_iff (catalog : Catalog) (word : String) (f : Fault) :
    (Request.apply word).Objection catalog f ↔ Command.ofWord? word = none ∧ f = .notACommand := by
  rw [Command.no_word_iff]
  constructor
  · intro objection
    cases objection with
    | noCommand _ strange => exact ⟨strange, rfl⟩
  · intro ⟨strange, same⟩
    exact same ▸ .noCommand word strange

theorem move_objection_iff (catalog : Catalog) (word : String) (f : Fault) :
    (Request.move word).Objection catalog f ↔ Direction.ofWord? word = none ∧ f = .notACommand := by
  rw [Direction.no_word_iff]
  constructor
  · intro objection
    cases objection with
    | noMove _ strange => exact ⟨strange, rfl⟩
  · intro ⟨strange, same⟩
    exact same ▸ .noMove word strange

end Request

theorem Level.to_state_error_iff (catalog : Catalog) (l : Level) (f : Fault) :
    l.toState catalog = .error f ↔ (Request.load l).Objection catalog f := by
  have checked : l.toState catalog = .error f ↔
      Attempt.each (fun p => catalog.get p.definition) l.placements = .error f := by
    simp [toState, Attempt.bind_error_iff]
  rw [checked, Attempt.each_error_iff]
  constructor
  · rintro ⟨before, p, after, listed, answers, fails⟩
    obtain ⟨absent, rfl⟩ := (catalog.get_error_iff p.definition f).mp fails
    exact .unknown l before after p listed (fun q member => (catalog.get_ok_iff q.definition).mp (answers q member)) absent
  · intro objection
    cases objection with
    | unknown _ before after p listed known absent =>
        exact ⟨before, p, after, listed, fun q member => (catalog.get_ok_iff q.definition).mpr (known q member),
          (catalog.get_error_iff p.definition _).mpr ⟨absent, rfl⟩⟩

namespace Session

theorem opened_eq (catalog : Catalog) (level : Level) (kind : EventKind) (message : String) :
    opened catalog level kind message =
      (loaded catalog level >>= fun state => .ok ⟨catalog, level, { state with events := [⟨kind, message, []⟩] }, []⟩) := by
  rw [opened, loaded]
  cases level.toState catalog <;> rfl

theorem opened_error_iff (catalog : Catalog) (level : Level) (kind : EventKind) (message : String) (f : Fault) :
    opened catalog level kind message = .error f ↔ (Request.load level).Objection catalog f := by
  rw [← Level.to_state_error_iff, opened_eq]
  cases built : level.toState catalog with
  | error other => simp [loaded, built, bind, Except.bind]
  | ok s =>
      obtain ⟨first, load, _⟩ := loaded_answers catalog level (level.loadable_of_to_state catalog s built)
      simp [load, bind, Except.bind]

theorem answer_cases (s : Session) (net : List Direction) (faithful : s.Faithful net) (r : Request) :
    (∃ f, s.answer r = .error f ∧ ∀ g, r.Objection s.catalog g ↔ g = f) ∨
      ((∀ f, ¬ r.Objection s.catalog f) ∧
        ∃ next counted, s.answer r = .ok next ∧ next.Faithful counted ∧ next.catalog = s.catalog) := by
  have performs (operation : Operation) (loads : ∀ level, operation = .load level → Loads s.catalog level) :
      ∃ next counted, s.perform operation = .ok next ∧ next.Faithful counted ∧ next.catalog = s.catalog := by
    obtain ⟨next, counted, performed, _, kept, catalog, _⟩ := perform_faithful s net faithful operation loads
    exact ⟨next, counted, performed, kept, catalog⟩
  cases r with
  | load level =>
      have objects := opened_error_iff s.catalog level .levelLoad ("Loaded " ++ level.heading.name)
      cases answered : s.load level with
      | error f =>
          refine .inl ⟨f, answered, fun g => ?_⟩
          rw [← objects g, ← start, ← load, answered, Except.error.injEq, eq_comm]
      | ok next =>
          refine .inr ⟨fun f objection => ?_, performs (.load level) fun other same => ?_⟩
          · cases answered.symm.trans ((objects f).mpr objection)
          · cases same
            exact ⟨next, answered⟩
  | apply word =>
      have objects := Request.apply_objection_iff s.catalog word
      rw [answer, runWord]
      cases named : Command.ofWord? word with
      | none => exact .inl ⟨.notACommand, rfl, fun g => (objects g).trans (and_iff_right named)⟩
      | some command =>
          refine .inr ⟨fun f objection => ?_, performs (.command command) nofun⟩
          cases named.symm.trans ((objects f).mp objection).1
  | move word =>
      have objects := Request.move_objection_iff s.catalog word
      rw [answer, moveWord]
      cases named : Direction.ofWord? word with
      | none => exact .inl ⟨.notACommand, rfl, fun g => (objects g).trans (and_iff_right named)⟩
      | some d =>
          refine .inr ⟨fun f objection => ?_, performs (.command (.move d)) nofun⟩
          cases named.symm.trans ((objects f).mp objection).1
  | undo => exact .inr ⟨nofun, performs (.command .undo) nofun⟩
  | restart => exact .inr ⟨nofun, performs (.command .restart) nofun⟩

end Session

namespace Console

def whole (s : Session) : Attempt Session → Except Fault Unit × Session
  | .ok next => (.ok (), next)
  | .error f => (.error f, s)

theorem reload_run (s : Session) (level : Level) :
    (reload level).runOn s =
      match Session.loaded s.catalog level with
      | .ok state => (.ok state, { s with level := level, history := [] })
      | .error f => (.error f, s) := by
  simp only [reload, Session.loaded, run_bind, run_get, run_ask, run_modify, run_pure]
  cases level.toState s.catalog with
  | error f => rfl
  | ok built =>
      simp only [bind, Except.bind]
      cases Turn.settle built <;> rfl

theorem load_run (s : Session) (level : Level) : (load level).runOn s = whole s (s.load level) := by
  rw [load, run_bind, reload_run, Session.load, Session.start, Session.opened_eq]
  cases Session.loaded s.catalog level <;> rfl

theorem restart_run (s : Session) : restart.runOn s = whole s s.restart := by
  simp only [restart, run_bind, run_get, reload_run, Session.restart, Session.opened_eq]
  cases Session.loaded s.catalog s.level <;> rfl

theorem undo_run (s : Session) : undo.runOn s = (.ok (), s.undo) := by
  rw [undo, Session.undo, run_bind, run_get]
  rcases s with ⟨catalog, level, state, history⟩
  cases history <;> rfl

theorem move_run (s : Session) (word : String) : (move word).runOn s = whole s (s.moveWord word) := by
  simp only [move, run_bind, run_get, run_ask, Turn.playWord, Session.moveWord]
  cases Direction.ofWord? word with
  | none => rfl
  | some d =>
      dsimp only
      rw [Session.move]
      cases Turn.play s.state d with
      | error f => rfl
      | ok after =>
          by_cases counted : s.state.moves < after.moves
          · simp only [if_pos counted, run_bind, run_modify]
            simp only [bind, Except.bind, whole, Session.record, if_pos counted]
          · simp only [if_neg counted, run_modify]
            simp only [bind, Except.bind, whole, Session.record, if_neg counted]

theorem serve_run (s : Session) (r : Request) : (serve r).runOn s = whole s (s.answer r) := by
  cases r with
  | load level => exact load_run s level
  | move word => exact move_run s word
  | undo => exact undo_run s
  | restart => exact restart_run s
  | apply word =>
      rw [serve, apply, Session.answer, Session.runWord]
      cases named : Command.ofWord? word with
      | none => exact run_throw .notACommand s
      | some command =>
          cases command with
          | undo => exact undo_run s
          | restart => exact restart_run s
          | move d =>
              have direction : Direction.ofWord? word = some d := by rw [Direction.ofWord?, named]
              have moved := move_run s word
              rw [Session.moveWord, direction] at moved
              exact moved

structure Takes (catalog : Catalog) (s : Session) (r : Request) : Prop where
  fails : ∀ f, s.answer r = .error f ↔ r.Objection catalog f
  raises : ∀ f, ((serve r).runOn s).1 = .error f ↔ r.Objection catalog f
  keeps : ∀ f, r.Objection catalog f → ((serve r).runOn s).2 = s
  answers : (∀ f, ¬ r.Objection catalog f) → ∃ next, s.answer r = .ok next ∧ (serve r).runOn s = (.ok (), next)

theorem serve_takes (s : Session) (net : List Direction) (faithful : s.Faithful net) (r : Request) :
    Takes s.catalog s r ∧
      ∃ counted, ((serve r).runOn s).2.Faithful counted ∧ ((serve r).runOn s).2.catalog = s.catalog := by
  have served := serve_run s r
  rcases Session.answer_cases s net faithful r with ⟨f, failed, objects⟩ | ⟨accepted, next, counted, answered, kept, same⟩
  · have fails (g : Fault) : s.answer r = .error g ↔ r.Objection s.catalog g := by
      rw [failed, objects g, Except.error.injEq, eq_comm]
    rw [failed] at served
    rw [served]
    refine ⟨⟨fails, fun g => ?_, fun _ _ => by rw [served]; rfl, fun accepted => ?_⟩, net, faithful, rfl⟩
    · rw [served, ← fails g, failed]
      simp [whole]
    · exact absurd ((objects f).mpr rfl) (accepted f)
  · have fails (f : Fault) : s.answer r = .error f ↔ r.Objection s.catalog f := by
      rw [answered]
      exact ⟨nofun, fun objection => absurd objection (accepted f)⟩
    rw [answered] at served
    rw [served]
    refine ⟨⟨fails, fun f => ?_, fun f objection => absurd objection (accepted f), fun _ => ⟨next, answered, served⟩⟩,
      counted, kept, same⟩
    rw [served, ← fails f, answered]
    simp [whole]

theorem serve_all_faithful (s : Session) (net : List Direction) (faithful : s.Faithful net) (requests : List Request) :
    ∃ counted, (serveAll s requests).Faithful counted ∧ (serveAll s requests).catalog = s.catalog := by
  induction requests generalizing s net with
  | nil => exact ⟨net, faithful, rfl⟩
  | cons r rest ih =>
      obtain ⟨_, counted, kept, same⟩ := serve_takes s net faithful r
      obtain ⟨total, remaining, catalog⟩ := ih _ counted kept
      exact ⟨total, remaining, catalog.trans same⟩

theorem serve_all_passes (s : Session) (earlier later : List Request) (r : Request)
    (kept : ((serve r).runOn (serveAll s earlier)).2 = serveAll s earlier) :
    serveAll s (earlier ++ r :: later) = serveAll s (earlier ++ later) := by
  rw [serveAll, serveAll, List.foldl_append, List.foldl_append, List.foldl_cons]
  exact congrArg (fun s => later.foldl (fun s request => ((serve request).runOn s).2) s) kept

theorem requests_fail_for_cause (catalog : Catalog) (level : Level) :
    (∀ f, Session.start catalog level = .error f ↔ (Request.load level).Objection catalog f) ∧
      ∀ opened, Session.start catalog level = .ok opened → ∀ earlier r,
        Takes catalog (serveAll opened earlier) r ∧
          ∀ f, r.Objection catalog f → ∀ later,
            serveAll opened (earlier ++ r :: later) = serveAll opened (earlier ++ later) := by
  refine ⟨Session.opened_error_iff catalog level .levelLoad ("Loaded " ++ level.heading.name), ?_⟩
  intro opened started earlier r
  obtain ⟨again, same, fresh, sameCatalog, _⟩ := Session.opened_faithful catalog level ⟨opened, started⟩ .levelLoad
    ("Loaded " ++ level.heading.name)
  cases started.symm.trans same
  obtain ⟨net, faithful, kept⟩ := serve_all_faithful opened [] fresh earlier
  obtain ⟨takes, _⟩ := serve_takes (serveAll opened earlier) net faithful r
  rw [kept, sameCatalog] at takes
  exact ⟨takes, fun f objection later => serve_all_passes opened earlier later r (takes.keeps f objection)⟩

def haunted : Level where
  heading := ⟨"haunted", "Haunted", .null⟩
  extent := ⟨3, 1⟩
  placements := [⟨"obj-human", ⟨0, 0⟩⟩, ⟨"obj-ghost", ⟨1, 0⟩⟩, ⟨"obj-spirit", ⟨2, 0⟩⟩]

theorem corner_passes_over_faults :
    ∃ opened, Session.start .standard Session.corner = .ok opened ∧
      (serve (.load haunted)).runOn (serveAll opened [.move "right"]) =
        (.error (.unknownDefinition "obj-ghost"), serveAll opened [.move "right"]) ∧
      ((serve (.move "undo")).runOn (serveAll opened [.move "right"])).1 = .error .notACommand ∧
      serveAll opened [.move "right", .load haunted, .move "undo", .apply "undo"] =
        serveAll opened [.move "right", .apply "undo"] := by
  obtain ⟨opened, started⟩ : Session.Loads .standard Session.corner := ⟨_, rfl⟩
  have serves := (requests_fail_for_cause .standard Session.corner).2 opened started [.move "right"]
  have unknown : (Request.load haunted).Objection .standard (.unknownDefinition "obj-ghost") :=
    .unknown haunted [⟨"obj-human", ⟨0, 0⟩⟩] [⟨"obj-spirit", ⟨2, 0⟩⟩] ⟨"obj-ghost", ⟨1, 0⟩⟩ rfl
      (by decide +kernel) (by decide +kernel)
  have strange : (Request.move "undo").Objection .standard .notACommand := .noMove "undo" (by decide)
  obtain ⟨loading, passes_load⟩ := serves (.load haunted)
  obtain ⟨moving, passes_move⟩ := serves (.move "undo")
  refine ⟨opened, started, ?_, (moving.raises .notACommand).mpr strange, ?_⟩
  · exact Prod.ext ((loading.raises _).mpr unknown) (loading.keeps _ unknown)
  · exact (passes_load _ unknown [.move "undo", .apply "undo"]).trans (passes_move _ strange [.apply "undo"])

end Console

end KanjiPuzzle
