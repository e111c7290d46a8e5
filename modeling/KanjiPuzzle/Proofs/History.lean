import KanjiPuzzle.Proofs.Loading

set_option autoImplicit false

/- Undoing is replaying. However moves, undos, restarts and loads follow one another, the present state is the one that
   the moves still in force lead to from the loaded state, and the history holds the states on the way. -/
namespace KanjiPuzzle

def State.quiet (s : State) : State := { s with events := [] }

namespace Turn

theorem play_quiet (s : State) (d : Direction) : play s.quiet d = play s d := rfl

theorem play_alike (s t : State) (d : Direction) (same : s.quiet = t.quiet) : play s d = play t d := by
  rw [← play_quiet s, same, play_quiet]

def replay (s : State) (moves : List Direction) : Attempt State := Attempt.through play s moves

-- The state is where the moves lead to, but for what is reported.
def Replays (loaded : State) (moves : List Direction) (s : State) : Prop :=
  ∃ final, replay loaded moves = .ok final ∧ s.quiet = final.quiet

end Turn

theorem State.sound_alike (s t : State) (same : s.quiet = t.quiet) (sound : t.Sound) : s.Sound := by
  have quiet : t.quiet.Sound := ⟨sound.placed, sound.known, sound.celled⟩
  rw [← same] at quiet
  exact ⟨quiet.placed, quiet.known, quiet.celled⟩

theorem State.moves_alike (s t : State) (same : s.quiet = t.quiet) : s.moves = t.moves :=
  show s.quiet.moves = t.quiet.moves from congrArg State.moves same

-- What a session recalls: each state of its history is where the next move in force was made, and led to the state
-- after it.
inductive Recalls (loaded : State) : List Direction → State → List State → Prop where
  | opened (s : State) (same : s.quiet = loaded.quiet) : Recalls loaded [] s []
  | moved (net : List Direction) (d : Direction) (previous next s : State) (earlier : List State)
      (recalls : Recalls loaded net previous earlier) (accepted : Turn.refuses previous d = .ok false)
      (played : Turn.play previous d = .ok next) (same : s.quiet = next.quiet) :
      Recalls loaded (net ++ [d]) s (previous :: earlier)

section Recalls

variable (loaded : State) (net : List Direction) (s : State) (history : List State)
  (recalls : Recalls loaded net s history)
include recalls

theorem recalls_alike (t : State) (same : t.quiet = s.quiet) : Recalls loaded net t history := by
  cases recalls with
  | opened _ start => exact .opened t (same.trans start)
  | moved net d previous next _ earlier recalls accepted played after =>
      exact .moved net d previous next t earlier recalls accepted played (same.trans after)

theorem recalls_length : net.length = history.length := by
  induction recalls with
  | opened => rfl
  | moved net d previous next s earlier _ _ _ _ ih => rw [List.length_append, List.length_cons, ih]; rfl

theorem recalls_sound (sound : loaded.Sound) : s.Sound := by
  induction recalls with
  | opened s same => exact s.sound_alike loaded same sound
  | moved net d previous next s earlier _ accepted played same ih =>
      exact s.sound_alike next same (Turn.play_committed previous next ih d accepted played).1

theorem recalls_moves (sound : loaded.Sound) (none : loaded.moves = 0) : s.moves = history.length := by
  induction recalls with
  | opened s same => exact (s.moves_alike loaded same).trans none
  | moved net d previous next s earlier recalls accepted played same ih =>
      have kept := recalls_sound loaded net previous earlier recalls sound
      obtain ⟨_, counted⟩ := Turn.play_committed previous next kept d accepted played
      rw [s.moves_alike next same, counted, ih, List.length_cons, Int.natCast_succ]

theorem recalls_replays : Turn.Replays loaded net s := by
  induction recalls with
  | opened s same => exact ⟨loaded, rfl, same⟩
  | moved net d previous next s earlier _ _ played same ih =>
      obtain ⟨final, replayed, alike⟩ := ih
      refine ⟨next, ?_, same⟩
      rw [Turn.replay] at replayed ⊢
      rw [Attempt.through_append, replayed]
      simp only [Attempt.through, bind, Except.bind]
      rw [← Turn.play_alike previous final d alike, played]

theorem recalls_earlier (sound : loaded.Sound) (none : loaded.moves = 0) (i : Nat) (state : State)
    (recorded : history.reverse[i]? = some state) : state.moves = i ∧ Turn.Replays loaded (net.take i) state := by
  induction recalls with
  | opened => cases recorded
  | moved net d previous next s earlier recalls _ _ _ ih =>
      have few := recalls_length loaded net previous earlier recalls
      rw [List.reverse_cons] at recorded
      by_cases old : i < earlier.length
      · rw [List.getElem?_append_left (by simpa using old)] at recorded
        rw [List.take_append_of_le_length (by omega)]
        exact ih recorded
      · rw [List.getElem?_append_right (by simpa using Nat.le_of_not_lt old)] at recorded
        obtain ⟨last, rfl⟩ := List.getElem?_eq_some_iff.mp recorded
        have latest : i = earlier.length := by
          rw [List.length_reverse, List.length_singleton] at last
          omega
        subst latest
        simp only [List.length_reverse, Nat.sub_self, List.getElem_cons_zero]
        rw [← few, List.take_left]
        exact ⟨few ▸ recalls_moves loaded net previous earlier recalls sound none,
          recalls_replays loaded net previous earlier recalls⟩

end Recalls

inductive Operation where
  | command (command : Command)
  | load (level : Level)

namespace Session

def perform (s : Session) : Operation → Attempt Session
  | .command command => s.run command
  | .load level => s.load level

def performAll (s : Session) (operations : List Operation) : Attempt Session := Attempt.through perform s operations

def tally (s : Session) (net : List Direction) : Operation → Attempt (List Direction)
  | .command (.move d) => do
      let refused ← Turn.refuses s.state d
      .ok (if refused then net else net ++ [d])
  | .command .undo => .ok net.dropLast
  | .command .restart => .ok []
  | .load _ => .ok []

def netMoves : Session → List Direction → List Operation → Attempt (List Direction)
  | _, net, [] => .ok net
  | s, net, operation :: rest => do
      let counted ← s.tally net operation
      let next ← s.perform operation
      netMoves next counted rest

def lastLevel : Level → List Operation → Level
  | level, [] => level
  | level, .command _ :: rest => lastLevel level rest
  | _, .load level :: rest => lastLevel level rest

def Faithful (s : Session) (net : List Direction) : Prop :=
  ∃ first, loaded s.catalog s.level = .ok first ∧ Recalls first net s.state s.history

theorem opened_faithful (catalog : Catalog) (level : Level) (loads : Loads catalog level) (kind : EventKind)
    (message : String) : ∃ s, opened catalog level kind message = .ok s ∧ s.Faithful [] ∧
      s.catalog = catalog ∧ s.level = level ∧ s.history = [] := by
  obtain ⟨first, load, _⟩ := loaded_answers catalog level ((loads_iff catalog level).mp loads)
  exact ⟨_, opened_ok catalog level kind message first load, ⟨first, load, .opened _ rfl⟩, rfl, rfl, rfl⟩

theorem faithful_loads (s : Session) (net : List Direction) (faithful : s.Faithful net) : Loads s.catalog s.level := by
  obtain ⟨first, load, _⟩ := faithful
  exact ⟨_, opened_ok s.catalog s.level _ _ first load⟩

theorem move_refused (s : Session) (d : Direction) (message : String)
    (played : Turn.play s.state d = .ok (Turn.refuse s.state message)) :
    s.move d = .ok { s with state := Turn.refuse s.state message } := by
  rw [move, played]
  simp [bind, Except.bind, record, Turn.refuse]

theorem move_committed (s : Session) (d : Direction) (t : State) (played : Turn.play s.state d = .ok t)
    (counted : t.moves = s.state.moves + 1) :
    s.move d = .ok { s with state := t, history := s.state :: s.history } := by
  rw [move, played]
  have more : s.state.moves < t.moves := by omega
  simp [bind, Except.bind, record, more]

theorem undo_exhausted (s : Session) (empty : s.history = []) :
    s.undo = { s with state := { s.state with events := [⟨.undo, "Nothing to undo", []⟩] } } := by
  rcases s with ⟨catalog, level, state, history⟩
  cases empty
  rfl

theorem undo_faithful (s : Session) (net : List Direction) (faithful : s.Faithful net) :
    s.undo.Faithful net.dropLast ∧ s.undo.catalog = s.catalog ∧ s.undo.level = s.level ∧
      s.undo.history = s.history.tail := by
  rcases s with ⟨catalog, level, state, history⟩
  obtain ⟨first, load, recalls⟩ := faithful
  cases recalls with
  | opened _ same => exact ⟨⟨first, load, .opened _ same⟩, rfl, rfl, rfl⟩
  | moved net d previous next _ earlier recalls =>
      refine ⟨⟨first, load, ?_⟩, rfl, rfl, rfl⟩
      rw [List.dropLast_concat]
      exact recalls_alike first net previous earlier recalls _ rfl

theorem perform_faithful (s : Session) (net : List Direction) (faithful : s.Faithful net) (operation : Operation)
    (loads : ∀ level, operation = .load level → Loads s.catalog level) :
    ∃ next counted, s.perform operation = .ok next ∧ s.tally net operation = .ok counted ∧ next.Faithful counted ∧
      next.catalog = s.catalog ∧ next.level = lastLevel s.level [operation] := by
  cases operation with
  | load level =>
      obtain ⟨next, opened, fresh, catalog, last, _⟩ := opened_faithful s.catalog level (loads level rfl) .levelLoad
        ("Loaded " ++ level.heading.name)
      exact ⟨next, [], opened, rfl, fresh, catalog, last⟩
  | command command =>
      cases command with
      | restart =>
          obtain ⟨next, opened, fresh, catalog, last, _⟩ := opened_faithful s.catalog s.level
            (faithful_loads s net faithful) .restart ("Restarted " ++ s.level.heading.name)
          exact ⟨next, [], opened, rfl, fresh, catalog, last⟩
      | undo =>
          obtain ⟨undone, catalog, level, _⟩ := undo_faithful s net faithful
          exact ⟨s.undo, net.dropLast, rfl, rfl, undone, catalog, level⟩
      | move d =>
          obtain ⟨first, load, recalls⟩ := faithful
          have sound := recalls_sound first net s.state s.history recalls (loaded_sound _ _ _ load).1
          rcases Turn.play_cases s.state sound d with ⟨refused, message, played⟩ | ⟨accepted, t, played, _, _, counted⟩
          · refine ⟨_, net, move_refused s d message played, ?_, ⟨first, load, ?_⟩, rfl, rfl⟩
            · simp only [tally, refused, bind, Except.bind, if_true]
            · exact recalls_alike first net s.state s.history recalls _ rfl
          · refine ⟨_, net ++ [d], move_committed s d t played counted, ?_, ⟨first, load, ?_⟩, rfl, rfl⟩
            · simp only [tally, accepted, bind, Except.bind, Bool.false_eq_true, if_false]
            · exact .moved net d s.state t t s.history recalls accepted played rfl

theorem perform_all_faithful (s : Session) (net : List Direction) (faithful : s.Faithful net)
    (operations : List Operation) (loads : ∀ level, Operation.load level ∈ operations → Loads s.catalog level) :
    ∃ final counted, s.performAll operations = .ok final ∧ s.netMoves net operations = .ok counted ∧
      final.Faithful counted ∧ final.catalog = s.catalog ∧ final.level = lastLevel s.level operations := by
  induction operations generalizing s net with
  | nil => exact ⟨s, net, rfl, rfl, faithful, rfl, rfl⟩
  | cons operation rest ih =>
      obtain ⟨next, counted, performed, tallied, fresh, catalog, level⟩ := perform_faithful s net faithful operation
        fun level same => loads level (same ▸ List.mem_cons_self)
      obtain ⟨final, total, done, summed, kept, same, last⟩ := ih next counted fresh fun level member =>
        catalog ▸ loads level (List.mem_cons_of_mem operation member)
      refine ⟨final, total, ?_, ?_, kept, same.trans catalog, ?_⟩
      · rw [performAll, Attempt.through, performed]
        exact done
      · rw [netMoves, tallied, performed]
        exact summed
      · rw [last, level]
        cases operation <;> rfl

theorem undo_all_faithful (s : Session) (net : List Direction) (faithful : s.Faithful net) :
    ∃ undone, s.performAll (List.replicate s.history.length (.command .undo)) = .ok undone ∧ undone.Faithful [] ∧
      undone.catalog = s.catalog ∧ undone.level = s.level ∧ undone.history = [] := by
  obtain ⟨first, load, recalls⟩ := faithful
  have few := recalls_length first net s.state s.history recalls
  have faithful : s.Faithful net := ⟨first, load, recalls⟩
  clear first load recalls
  generalize left : s.history.length = n at few ⊢
  induction n generalizing s net with
  | zero =>
      rw [List.eq_nil_of_length_eq_zero few] at faithful
      exact ⟨s, rfl, faithful, rfl, rfl, List.eq_nil_of_length_eq_zero left⟩
  | succ n ih =>
      obtain ⟨once, catalog, level, tail⟩ := undo_faithful s net faithful
      have left : s.undo.history.length = n := by rw [tail, List.length_tail, left, Nat.add_sub_cancel]
      have few : net.dropLast.length = n := by rw [List.length_dropLast, few, Nat.add_sub_cancel]
      obtain ⟨undone, performed, fresh, same, kept, none⟩ := ih s.undo net.dropLast once left few
      exact ⟨undone, performed, fresh, same.trans catalog, kept.trans level, none⟩

structure Remembers (s : Session) (first : State) (net : List Direction) : Prop where
  counted : s.state.moves = s.history.length
  recorded : net.length = s.history.length
  present : Turn.Replays first net s.state
  past : ∀ (i : Nat) (state : State), s.history.reverse[i]? = some state →
    state.moves = i ∧ Turn.Replays first (net.take i) state
  undone : ∃ undone, s.performAll (List.replicate s.history.length (.command .undo)) = .ok undone ∧
    undone.history = [] ∧ undone.state.quiet = first.quiet
  refused : ∀ d, Turn.refuses s.state d = .ok true →
    ∃ events, s.move d = .ok { s with state := { s.state with events := events } }
  exhausted : s.history = [] → ∃ events, s.undo = { s with state := { s.state with events := events } }
  restarted : ∃ again, s.restart = .ok again ∧ again.level = s.level ∧ again.history = [] ∧
    again.state.quiet = first.quiet

theorem faithful_remembers (s : Session) (net : List Direction) (faithful : s.Faithful net) :
    ∃ first, loaded s.catalog s.level = .ok first ∧ s.Remembers first net := by
  obtain ⟨first, load, recalls⟩ := faithful
  obtain ⟨sound, none⟩ := loaded_sound s.catalog s.level first load
  have present := recalls_sound first net s.state s.history recalls sound
  refine ⟨first, load, ?_, recalls_length first net s.state s.history recalls,
    recalls_replays first net s.state s.history recalls, ?_, ?_, ?_, ?_, ?_⟩
  · exact recalls_moves first net s.state s.history recalls sound none
  · exact recalls_earlier first net s.state s.history recalls sound none
  · obtain ⟨undone, performed, ⟨again, loadAgain, start⟩, catalog, level, empty⟩ :=
      undo_all_faithful s net ⟨first, load, recalls⟩
    rw [catalog, level, load] at loadAgain
    cases loadAgain
    obtain ⟨final, nothing, same⟩ := recalls_replays first [] undone.state undone.history start
    cases nothing
    exact ⟨undone, performed, empty, same⟩
  · intro d refused
    obtain ⟨message, played⟩ := Turn.play_refused s.state present d refused
    exact ⟨_, move_refused s d message played⟩
  · exact fun empty => ⟨_, undo_exhausted s empty⟩
  · exact ⟨_, opened_ok s.catalog s.level _ _ first load, rfl, rfl, rfl⟩

theorem history_replays (catalog : Catalog) (level : Level) (operations : List Operation)
    (loads : Loads catalog level) (all_load : ∀ other, Operation.load other ∈ operations → Loads catalog other) :
    ∃ opened session net first, start catalog level = .ok opened ∧ opened.performAll operations = .ok session ∧
      opened.netMoves [] operations = .ok net ∧ session.level = lastLevel level operations ∧
      loaded catalog (lastLevel level operations) = .ok first ∧ session.Remembers first net := by
  obtain ⟨opened, started, fresh, sameCatalog, sameLevel, _⟩ := opened_faithful catalog level loads .levelLoad
    ("Loaded " ++ level.heading.name)
  obtain ⟨session, net, performed, summed, faithful, catalogKept, last⟩ :=
    perform_all_faithful opened [] fresh operations fun other member => sameCatalog ▸ all_load other member
  obtain ⟨first, load, remembers⟩ := faithful_remembers session net faithful
  rw [catalogKept, sameCatalog, last, sameLevel] at load
  exact ⟨opened, session, net, first, started, performed, summed, sameLevel ▸ last, load, remembers⟩

def corner : Level where
  heading := ⟨"corner", "Corner", .null⟩
  extent := ⟨4, 2⟩
  placements := [⟨"obj-human", ⟨0, 0⟩⟩, ⟨"txt-human", ⟨0, 1⟩⟩, ⟨"txt-topic", ⟨1, 1⟩⟩, ⟨"txt-you", ⟨2, 1⟩⟩]

def cornerWalk : List Operation :=
  [.command (.move .right), .load corner, .command (.move .right), .command (.move .up), .command (.move .right),
    .command .undo]

theorem corner_walk_remembered :
    Loads .standard corner ∧ (∀ other, Operation.load other ∈ cornerWalk → Loads .standard other) ∧
      ∃ opened session first, start .standard corner = .ok opened ∧ opened.performAll cornerWalk = .ok session ∧
        opened.netMoves [] cornerWalk = .ok [.right] ∧ session.Remembers first [.right] := by
  have loads : Loads .standard corner := ⟨_, rfl⟩
  have all_load : ∀ other, Operation.load other ∈ cornerWalk → Loads .standard other := by
    simp [cornerWalk, loads]
  have walked : (start .standard corner >>= fun opened => opened.netMoves [] cornerWalk) = .ok [.right] := by rfl
  obtain ⟨opened, session, net, first, started, performed, summed, _, _, remembers⟩ :=
    history_replays .standard corner cornerWalk loads all_load
  rw [started] at walked
  cases summed.symm.trans walked
  exact ⟨loads, all_load, opened, session, first, started, performed, summed, remembers⟩

end Session

end KanjiPuzzle
