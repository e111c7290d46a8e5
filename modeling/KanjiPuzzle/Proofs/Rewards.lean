import KanjiPuzzle.Episode
import KanjiPuzzle.Proofs.Clearing

set_option autoImplicit false

/- Rewards. Only a turn clears a level, and a cleared level takes no more turns; so whoever is rewarded a second time
   has gone back from the cleared level before. -/
namespace KanjiPuzzle

namespace State

theorem place_answers (s : State) (sound : s.Sound) (id : EntityId) (alive : s.Alive id) :
    ∃ place, s.placeInCatalog id = .ok place := by
  obtain ⟨definition, defined⟩ := Option.isSome_iff_exists.mp alive
  obtain ⟨d, listed, same⟩ := (s.catalog.find_is_some_iff definition).mp (sound.known id definition defined)
  have placed : (s.catalog.index? definition).isSome = true := by
    rw [Catalog.index?, List.findIdx?_isSome]
    exact List.any_eq_true.mpr ⟨d, listed, beq_iff_eq.mpr same⟩
  obtain ⟨place, found⟩ := Option.isSome_iff_exists.mp placed
  exact ⟨place, by simp only [placeInCatalog, definitionIdOf, defined, found, bind, Except.bind]⟩

theorem counts_answer (host : Host) (s : State) (sound : s.Sound)
    (granted : host.zeros (Counts.measures s.extent s.catalog.size) = .ok ()) :
    ∃ counts, s.counts host = .ok counts := by
  obtain ⟨places, answered, _⟩ := Attempt.each_answers (fun _ => True)
    (fun entry : EntityId × Cell => do .ok (entry.2, ← s.placeInCatalog entry.1))
    (s.positions.entries.filter fun entry => s.onBoard entry.2) fun entry member => by
      have stands := (s.positions.mem_entries_iff entry.1 entry.2).mp (List.mem_filter.mp member).1
      obtain ⟨place, found⟩ := s.place_answers sound entry.1 (s.placed_alive sound entry.1 entry.2 stands)
      exact ⟨(entry.2, place), by rw [found]; rfl, trivial⟩
  rw [counts, granted]
  simp only [bind, Except.bind] at answered ⊢
  rw [answered]
  exact ⟨_, rfl⟩

end State

section Open

theorem Turn.refuses_won (s : State) (won : s.won = true) (d : Direction) : refuses s d = .ok true := by
  rw [refuses, if_pos won]

theorem Session.loaded_open (catalog : Catalog) (level : Level) (first : State)
    (load : loaded catalog level = .ok first) : first.won = false := by
  obtain ⟨built, accepted, settled⟩ := Attempt.bind_ok _ _ _ load
  obtain ⟨_, _, made⟩ := Attempt.bind_ok _ _ _ accepted
  obtain ⟨read, reads, settled⟩ := Attempt.bind_ok _ _ _ settled
  obtain ⟨cast, casts, marked⟩ := Attempt.bind_ok _ _ _ settled
  cases marked
  rw [State.markStarts, Roles.refresh_won read cast casts, Reading.run_won built read false reads]
  cases made
  rfl

theorem recalls_open (loaded : State) (net : List Direction) (s : State) (history : List State)
    (recalls : Recalls loaded net s history) : ∀ old ∈ history, old.won = false := by
  induction recalls with
  | opened => exact fun _ member => absurd member List.not_mem_nil
  | moved net d previous next s earlier _ accepted _ _ ih =>
      refine List.forall_mem_cons.mpr ⟨Bool.eq_false_iff.mpr fun won => ?_, ih⟩
      cases accepted.symm.trans (Turn.refuses_won previous won d)

end Open

namespace Session

variable (s : Session)

def Past : Prop := ∀ old ∈ s.history, old.won = false

theorem faithful_past (net : List Direction) (faithful : s.Faithful net) : s.Past := by
  obtain ⟨first, _, recalls⟩ := faithful
  exact recalls_open first net s.state s.history recalls

theorem move_won (won : s.state.won = true) (d : Direction) (t : Session) (moved : s.move d = .ok t) :
    t.state.won = true := by
  rw [move_refused s d Turn.clearedMessage (Turn.play_won s.state won d)] at moved
  cases moved
  exact won

theorem undo_won (past : s.Past) (won : s.undo.state.won = true) : s.state.won = true := by
  rcases s with ⟨catalog, level, state, history⟩
  cases history with
  | nil => exact won
  | cons previous earlier => cases (past previous List.mem_cons_self).symm.trans won

theorem opened_open (catalog : Catalog) (level : Level) (kind : EventKind) (message : String) (t : Session)
    (done : opened catalog level kind message = .ok t) : t.state.won = false := by
  obtain ⟨built, accepted, done⟩ := Attempt.bind_ok _ _ _ done
  obtain ⟨first, settled, made⟩ := Attempt.bind_ok _ _ _ done
  cases made
  exact loaded_open catalog level first (by rw [loaded, accepted]; exact settled)

end Session

namespace Episode

inductive Ask where
  | choose (number : Int)
  | reset

def Ask.Valid : Ask → Prop
  | .choose number => 0 ≤ number ∧ number < choices
  | .reset => True

def Ask.command? : Ask → Option Command
  | .choose number => Command.ofNumber? number
  | .reset => none

structure Exchange where
  before : Episode
  ask : Ask
  after : Episode
  outcome : Option Outcome

def exchange (host : Host) (e : Episode) : Ask → Attempt Exchange
  | .choose number => do
      let answer ← e.step host number
      .ok ⟨e, .choose number, answer.1, some answer.2⟩
  | .reset => do
      let answer ← e.reset host
      .ok ⟨e, .reset, answer.1, none⟩

def exchanges (host : Host) : Episode → List Ask → Attempt (List Exchange)
  | _, [] => .ok []
  | e, ask :: rest => do
      let here ← e.exchange host ask
      let later ← exchanges host here.after rest
      .ok (here :: later)

def won (e : Episode) : Bool := e.session.state.won

namespace Exchange

variable (x : Exchange)

-- A turn that ends on a cleared level and did not start on one.
def Clears : Prop := (∃ d, x.ask.command? = some (.move d)) ∧ x.before.won = false ∧ x.after.won = true

def Rewarded : Prop := ∃ outcome, x.outcome = some outcome ∧ outcome.reward = 1

-- Leaving a cleared level, or starting it anew.
def GoesBack : Prop :=
  x.before.won = true ∧ (x.ask = .reset ∨ x.ask.command? = some .undo ∨ x.ask.command? = some .restart)

structure Fair : Prop where
  past : x.after.session.Past
  told : ∀ number, x.ask = .choose number → ∃ outcome, x.outcome = some outcome ∧
    (x.Clears → outcome.reward = 1) ∧ (¬ x.Clears → outcome.reward = 0) ∧ outcome.terminated = x.after.won ∧
    outcome.observation.won = x.after.won
  silent : x.ask = .reset → x.outcome = none ∧ x.after.won = false

end Exchange

section Hosted

variable (host : Host)

structure Going (e : Episode) : Prop where
  faithful : ∃ net, e.session.Faithful net
  sameCatalog : e.session.catalog = e.catalog
  sameLevel : e.session.level = e.level
  granted : host.zeros (Counts.measures e.level.extent e.catalog.size) = .ok ()

theorem observe_answers (e : Episode) (going : e.Going host) :
    ∃ seen, e.observe host = .ok seen ∧ seen.won = e.won := by
  obtain ⟨net, faithful⟩ := going.faithful
  have between := Turn.reached_between _ _ _ (e.session.faithful_reached net faithful)
  have granted : host.zeros (Counts.measures e.session.state.extent e.session.state.catalog.size) = .ok () := by
    rw [between.sameExtent, between.sameCatalog, going.sameLevel, going.sameCatalog]
    exact going.granted
  obtain ⟨board, counted⟩ := e.session.state.counts_answer host between.sound granted
  exact ⟨_, by rw [observe, counted]; rfl, rfl⟩

theorem start_going (level : Level) (catalog : Catalog) (mode : String) (e : Episode)
    (started : start host level catalog mode = .ok e) : e.Going host := by
  obtain ⟨_, _, started⟩ := Attempt.bind_ok _ _ _ started
  obtain ⟨session, loads, started⟩ := Attempt.bind_ok _ _ _ started
  obtain ⟨_, observed, started⟩ := Attempt.bind_ok _ _ _ started
  cases started
  obtain ⟨_, counted, _⟩ := Attempt.bind_ok _ _ _ observed
  obtain ⟨_, granted, _⟩ := Attempt.bind_ok _ _ _ counted
  obtain ⟨again, opened, fresh, sameCatalog, sameLevel, _⟩ := Session.opened_faithful catalog level ⟨session, loads⟩
    .levelLoad ("Loaded " ++ level.heading.name)
  cases loads.symm.trans opened
  have between := Turn.reached_between _ _ _ (session.faithful_reached [] fresh)
  rw [between.sameExtent, between.sameCatalog, sameLevel, sameCatalog] at granted
  exact ⟨⟨[], fresh⟩, sameCatalog, sameLevel, granted⟩

section Commands

variable (e : Episode) (going : e.Going host)
include going

theorem run_going (command : Command) :
    ∃ next, e.session.run command = .ok next ∧ ({ e with session := next } : Episode).Going host := by
  obtain ⟨net, faithful⟩ := going.faithful
  obtain ⟨next, counted, performed, _, kept, catalog, level⟩ :=
    Session.perform_faithful e.session net faithful (.command command) nofun
  exact ⟨next, performed, ⟨counted, kept⟩, catalog.trans going.sameCatalog, level.trans going.sameLevel, going.granted⟩

theorem restart_going :
    ∃ next, Session.start e.catalog e.level = .ok next ∧ ({ e with session := next } : Episode).Going host := by
  obtain ⟨net, faithful⟩ := going.faithful
  have loads := Session.faithful_loads e.session net faithful
  rw [going.sameCatalog, going.sameLevel] at loads
  obtain ⟨next, opened, fresh, sameCatalog, sameLevel, _⟩ := Session.opened_faithful e.catalog e.level loads .levelLoad
    ("Loaded " ++ e.level.heading.name)
  exact ⟨next, opened, ⟨[], fresh⟩, sameCatalog, sameLevel, going.granted⟩

theorem run_clears (command : Command) (next : Session) (ran : e.session.run command = .ok next)
    (before : e.won = false) (after : next.state.won = true) : ∃ d, command = .move d := by
  obtain ⟨net, faithful⟩ := going.faithful
  cases command with
  | move d => exact ⟨d, rfl⟩
  | undo =>
      cases ran
      cases before.symm.trans (e.session.undo_won (e.session.faithful_past net faithful) after)
  | restart => cases (Session.opened_open _ _ _ _ next ran).symm.trans after

theorem choose_fair (number : Int) (valid : (Ask.choose number).Valid) :
    ∃ x, e.exchange host (.choose number) = .ok x ∧ x.ask = .choose number ∧ x.after.Going host ∧ x.Fair := by
  obtain ⟨command, named⟩ : ∃ command, Command.ofNumber? number = some command := by
    obtain ⟨nonnegative, below⟩ := valid
    have few : number.toNat < Command.all.length := by
      rw [choices] at below
      omega
    exact ⟨Command.all[number.toNat], by
      rw [Command.ofNumber?, if_neg (Int.not_lt.mpr nonnegative), List.getElem?_eq_getElem few]⟩
  obtain ⟨next, ran, after⟩ := run_going host e going command
  obtain ⟨counted, kept⟩ := after.faithful
  obtain ⟨seen, observed, shown⟩ := observe_answers host _ after
  have stepped : e.step host number =
      .ok ({ e with session := next }, ⟨seen, if next.state.won && !e.won then 1 else 0, next.state.won, false⟩) := by
    rw [step]
    simp only [named, ran, observed, bind, Except.bind]
    rfl
  rw [exchange, stepped]
  refine ⟨_, rfl, rfl, after, next.faithful_past counted kept, ?_, nofun⟩
  intro _ same
  cases same
  refine ⟨_, rfl, fun clears => ?_, fun other => ?_, rfl, shown⟩
  · obtain ⟨_, open_before, cleared⟩ := clears
    exact if_pos (by rw [show next.state.won = true from cleared, open_before]; rfl)
  · refine if_neg fun both => other ?_
    rw [Bool.and_eq_true, Bool.not_eq_true'] at both
    obtain ⟨d, move⟩ := run_clears host e going command next ran both.2 both.1
    exact ⟨⟨d, move ▸ named⟩, both.2, both.1⟩

theorem reset_fair : ∃ x, e.exchange host .reset = .ok x ∧ x.ask = .reset ∧ x.after.Going host ∧ x.Fair := by
  obtain ⟨next, started, after⟩ := restart_going host e going
  obtain ⟨counted, kept⟩ := after.faithful
  obtain ⟨seen, observed, _⟩ := observe_answers host _ after
  have again : e.reset host = .ok ({ e with session := next }, seen) := by
    rw [reset]
    simp only [started, observed, bind, Except.bind]
  rw [exchange, again]
  exact ⟨_, rfl, rfl, after, next.faithful_past counted kept, nofun,
    fun _ => ⟨rfl, Session.opened_open _ _ _ _ next started⟩⟩

theorem exchange_fair (ask : Ask) (valid : ask.Valid) :
    ∃ x, e.exchange host ask = .ok x ∧ x.ask = ask ∧ x.after.Going host ∧ x.Fair := by
  cases ask with
  | choose number => exact choose_fair host e going number valid
  | reset => exact reset_fair host e going

theorem exchanges_fair (asks : List Ask) (valid : ∀ ask ∈ asks, ask.Valid) :
    ∃ trace, e.exchanges host asks = .ok trace ∧ trace.map Exchange.ask = asks ∧ ∀ x ∈ trace, x.Fair := by
  induction asks generalizing e with
  | nil => exact ⟨[], rfl, rfl, by simp⟩
  | cons ask rest ih =>
      obtain ⟨x, answered, asked, after, fair⟩ := exchange_fair host e going ask (valid ask List.mem_cons_self)
      obtain ⟨trace, later, same, rest_fair⟩ := ih x.after after fun other member =>
        valid other (List.mem_cons_of_mem ask member)
      refine ⟨x :: trace, ?_, by rw [List.map_cons, asked, same], List.forall_mem_cons.mpr ⟨fair, rest_fair⟩⟩
      rw [exchanges, answered]
      simp only [bind, Except.bind, later]

end Commands

theorem exchange_before (e : Episode) (ask : Ask) (x : Exchange) (answered : e.exchange host ask = .ok x) :
    x.before = e ∧ x.ask = ask := by
  cases ask with
  | choose number =>
      obtain ⟨_, _, made⟩ := Attempt.bind_ok _ _ _ answered
      cases made
      exact ⟨rfl, rfl⟩
  | reset =>
      obtain ⟨_, _, made⟩ := Attempt.bind_ok _ _ _ answered
      cases made
      exact ⟨rfl, rfl⟩

theorem exchange_stays (e : Episode) (ask : Ask) (x : Exchange) (answered : e.exchange host ask = .ok x)
    (won : e.won = true) : x.GoesBack ∨ x.after.won = true := by
  obtain ⟨before, asked⟩ := exchange_before host e ask x answered
  cases ask with
  | reset => exact .inl ⟨before ▸ won, .inl asked⟩
  | choose number =>
      obtain ⟨answer, stepped, made⟩ := Attempt.bind_ok _ _ _ answered
      rw [step] at stepped
      cases named : Command.ofNumber? number with
      | none =>
          rw [named] at stepped
          cases stepped
      | some command =>
          rw [named] at stepped
          obtain ⟨next, ran, stepped⟩ := Attempt.bind_ok _ _ _ stepped
          obtain ⟨seen, _, stepped⟩ := Attempt.bind_ok _ _ _ stepped
          cases stepped
          cases made
          cases command with
          | move d => exact .inr (e.session.move_won won d next ran)
          | undo => exact .inl ⟨won, .inr (.inl named)⟩
          | restart => exact .inl ⟨won, .inr (.inr named)⟩

theorem exchanges_cons (e : Episode) (asks : List Ask) (x : Exchange) (rest : List Exchange)
    (answered : e.exchanges host asks = .ok (x :: rest)) :
    ∃ ask later, e.exchange host ask = .ok x ∧ x.after.exchanges host later = .ok rest := by
  cases asks with
  | nil => cases answered
  | cons ask later =>
      obtain ⟨_, here, answered⟩ := Attempt.bind_ok _ _ _ answered
      obtain ⟨_, there, made⟩ := Attempt.bind_ok _ _ _ answered
      cases made
      exact ⟨ask, later, here, there⟩

theorem exchanges_after (e : Episode) (asks : List Ask) (before : List Exchange) (x : Exchange) (rest : List Exchange)
    (answered : e.exchanges host asks = .ok (before ++ x :: rest)) : ∃ later, x.after.exchanges host later = .ok rest := by
  induction before generalizing e asks with
  | nil =>
      obtain ⟨_, later, _, there⟩ := exchanges_cons host e asks x rest answered
      exact ⟨later, there⟩
  | cons y before ih =>
      obtain ⟨_, later, _, there⟩ := exchanges_cons host e asks y (before ++ x :: rest) answered
      exact ih y.after later there

-- By induction over what comes between: the level is cleared on the way, and it is open at the end.
theorem left_between (e : Episode) (asks : List Ask) (between : List Exchange) (last : Exchange) (rest : List Exchange)
    (answered : e.exchanges host asks = .ok (between ++ last :: rest)) (won : e.won = true) (again : last.before.won = false) :
    ∃ x ∈ between, x.GoesBack := by
  induction between generalizing e asks with
  | nil =>
      obtain ⟨ask, _, here, _⟩ := exchanges_cons host e asks last rest answered
      rw [(exchange_before host e ask last here).1, won] at again
      cases again
  | cons x between ih =>
      obtain ⟨ask, later, here, there⟩ := exchanges_cons host e asks x (between ++ last :: rest) answered
      rcases exchange_stays host e ask x here won with back | stays
      · exact ⟨x, List.mem_cons_self, back⟩
      · obtain ⟨y, member, back⟩ := ih x.after later there stays
        exact ⟨y, List.mem_cons_of_mem x member, back⟩

end Hosted

theorem fair_rewarded (x : Exchange) (fair : x.Fair) (rewarded : x.Rewarded) : x.Clears := by
  obtain ⟨outcome, told, one⟩ := rewarded
  cases asked : x.ask with
  | reset => cases (fair.silent asked).1.symm.trans told
  | choose number =>
      obtain ⟨again, same, _, otherwise, _⟩ := fair.told number asked
      cases told.symm.trans same
      by_cases clears : x.Clears
      · exact clears
      · cases (otherwise clears).symm.trans one

theorem rewards_mark_clearings (host : Host) (level : Level) (catalog : Catalog) (mode : String) (opened : Episode)
    (started : start host level catalog mode = .ok opened) (asks : List Ask) (valid : ∀ ask ∈ asks, ask.Valid) :
    opened.session.Past ∧ ∃ trace, opened.exchanges host asks = .ok trace ∧ trace.map Exchange.ask = asks ∧
      (∀ x ∈ trace, x.Fair) ∧
      ∀ before first between second after, trace = before ++ first :: (between ++ second :: after) →
        first.Rewarded → second.Rewarded → ∃ x ∈ between, x.GoesBack := by
  have going := start_going host level catalog mode opened started
  obtain ⟨net, faithful⟩ := going.faithful
  obtain ⟨trace, answered, same, fair⟩ := exchanges_fair host opened going asks valid
  refine ⟨opened.session.faithful_past net faithful, trace, answered, same, fair, ?_⟩
  rintro before first between second after rfl one two
  obtain ⟨_, _, cleared⟩ := fair_rewarded first (fair first (by simp)) one
  obtain ⟨_, again, _⟩ := fair_rewarded second (fair second (by simp)) two
  obtain ⟨later, rest⟩ := exchanges_after host opened asks before first _ answered
  exact left_between host first.after later between second after rest cleared again

def doorstep : Level where
  heading := ⟨"doorstep", "Doorstep", .null⟩
  extent := ⟨3, 3⟩
  placements := [⟨"txt-human", ⟨0, 0⟩⟩, ⟨"txt-topic", ⟨1, 0⟩⟩, ⟨"txt-you", ⟨2, 0⟩⟩, ⟨"txt-gate", ⟨0, 1⟩⟩,
    ⟨"txt-topic", ⟨1, 1⟩⟩, ⟨"txt-win", ⟨2, 1⟩⟩, ⟨"obj-human", ⟨0, 2⟩⟩, ⟨"obj-gate", ⟨1, 2⟩⟩]

def doorstepAsks : List Ask := [.choose 3, .choose 3, .choose 4, .choose 3, .reset]

theorem doorstep_rewarded_twice :
    ∃ opened trace, start .ample doorstep .standard "ansi" = .ok opened ∧ (∀ ask ∈ doorstepAsks, ask.Valid) ∧
      opened.exchanges .ample doorstepAsks = .ok trace ∧
      trace.map (fun x => x.outcome.map Outcome.reward) = [some 1, some 0, some 0, some 1, none] ∧
      (∀ x ∈ trace, x.Fair) ∧ ∃ first second third fourth last, trace = [first, second, third, fourth, last] ∧
        ∃ x ∈ [second, third], x.GoesBack := by
  have walked : (do
      let opened ← start .ample doorstep .standard "ansi"
      let trace ← opened.exchanges .ample doorstepAsks
      .ok (trace.map fun x => x.outcome.map Outcome.reward)) =
      Except.ok [some 1, some 0, some 0, some 1, none] := by rfl
  have valid : ∀ ask ∈ doorstepAsks, ask.Valid := by simp [doorstepAsks, Ask.Valid, choices, Command.all]
  obtain ⟨opened, started, walked⟩ := Attempt.bind_ok _ _ _ walked
  obtain ⟨trace, answered, walked⟩ := Attempt.bind_ok _ _ _ walked
  obtain ⟨_, again, same, _, fair, separated⟩ :=
    rewards_mark_clearings .ample doorstep .standard "ansi" opened started doorstepAsks valid
  cases answered.symm.trans same
  have rewards := Except.ok.inj walked
  refine ⟨opened, trace, started, valid, answered, rewards, fair, ?_⟩
  obtain ⟨first, _, rfl, one, rewards⟩ := List.map_eq_cons_iff.mp rewards
  obtain ⟨second, _, rfl, _, rewards⟩ := List.map_eq_cons_iff.mp rewards
  obtain ⟨third, _, rfl, _, rewards⟩ := List.map_eq_cons_iff.mp rewards
  obtain ⟨fourth, _, rfl, two, rewards⟩ := List.map_eq_cons_iff.mp rewards
  obtain ⟨last, _, rfl, _, rewards⟩ := List.map_eq_cons_iff.mp rewards
  cases List.map_eq_nil_iff.mp rewards
  exact ⟨first, second, third, fourth, last, rfl, separated [] first [second, third] fourth [last] rfl
    (Option.map_eq_some_iff.mp one) (Option.map_eq_some_iff.mp two)⟩

end Episode

end KanjiPuzzle
