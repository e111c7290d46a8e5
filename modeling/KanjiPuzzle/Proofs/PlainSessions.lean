import KanjiPuzzle.Proofs.Clearing
import KanjiPuzzle.Proofs.PlainTurns
import KanjiPuzzle.Proofs.Requests

set_option autoImplicit false

/- What is only shown never comes back into a game. Sessions whose catalogs differ in glyphs and labels and whose levels
   differ in name and hint take the same requests in the same way. -/
namespace KanjiPuzzle

def Level.plain (l : Level) : Level := { l with heading := l.heading.plain }

def Session.plain (s : Session) : Session := ⟨s.catalog.plain, s.level.plain, s.state.plain, s.history.map State.plain⟩

def Request.plain : Request → Request
  | .load level => .load level.plain
  | r => r

theorem Level.to_state_plain (c : Catalog) (l : Level) :
    (l.plain.toState c.plain).map State.plain = (l.toState c).map State.plain := by
  have known (p : Placement) : (c.plain.get p.definition).map (fun _ => ()) = (c.get p.definition).map (fun _ => ()) := by
    rw [c.get_plain]
    cases c.get p.definition <;> rfl
  refine Attempt.bind_alike _ _ _ _ _ _ (Attempt.each_alike _ _ _ known l.placements) fun _ _ _ => ?_
  refine congrArg Except.ok ?_
  simp only [State.plain, c.plain_plain]
  rfl

namespace Session

theorem plain_congr (s t : Session) (catalog : s.catalog.plain = t.catalog.plain)
    (level : s.level.plain = t.level.plain) (state : s.state.plain = t.state.plain)
    (history : s.history.map State.plain = t.history.map State.plain) : s.plain = t.plain := by
  rw [plain, plain, catalog, level, state, history]

theorem history_plain (history : List State) : (history.map State.plain).map State.plain = history.map State.plain := by
  rw [List.map_map]
  exact List.map_congr_left fun s _ => s.plain_plain

theorem opened_plain (c : Catalog) (l : Level) (kind : EventKind) (told message : String) :
    (opened c.plain l.plain kind told).map plain = (opened c l kind message).map plain := by
  refine Attempt.bind_alike _ _ _ _ _ _ (l.to_state_plain c) fun built other same => ?_
  refine Attempt.bind_alike _ _ _ _ _ _ (Turn.settle_blind.alike built other same) fun s t alike => ?_
  exact congrArg Except.ok (plain_congr _ _ c.plain_plain rfl (s.retold_alike t kind told message alike) rfl)

theorem start_events (c : Catalog) (l : Level) (s : Session) (started : start c l = .ok s) :
    s.state.events = [⟨.levelLoad, "Loaded " ++ l.heading.name, []⟩] := by
  obtain ⟨built, _, started⟩ := Attempt.bind_ok _ _ _ started
  obtain ⟨state, _, started⟩ := Attempt.bind_ok _ _ _ started
  cases started
  rfl

theorem undo_plain (s : Session) : s.plain.undo.plain = s.undo.plain := by
  rcases s with ⟨c, l, state, history⟩
  cases history with
  | nil => exact plain_congr _ _ c.plain_plain rfl (state.plain.retold_alike state _ _ _ state.plain_plain) rfl
  | cons previous earlier =>
      exact plain_congr _ _ c.plain_plain rfl (previous.plain.retold_alike previous _ _ _ previous.plain_plain)
        (history_plain earlier)

theorem record_plain (s : Session) (after other : State) (same : after.plain = other.plain) :
    (s.plain.record after).plain = (s.record other).plain := by
  have moves : after.moves = other.moves := (congrArg State.moves same : after.plain.moves = other.plain.moves)
  have before : s.plain.state.moves = s.state.moves := rfl
  refine plain_congr _ _ s.catalog.plain_plain rfl same ?_
  rw [record, record, moves, before]
  by_cases counted : s.state.moves < other.moves
  · rw [if_pos counted, if_pos counted]
    exact history_plain (s.state :: s.history)
  · rw [if_neg counted, if_neg counted]
    exact history_plain s.history

theorem move_plain (s : Session) (d : Direction) : (s.plain.move d).map plain = (s.move d).map plain :=
  Attempt.bind_alike _ _ _ _ _ _ (Turn.play_blind d s.state) fun after other same =>
    congrArg Except.ok (record_plain s after other same)

theorem run_plain (s : Session) (command : Command) : (s.plain.run command).map plain = (s.run command).map plain := by
  cases command with
  | move d => exact move_plain s d
  | undo => exact congrArg Except.ok (undo_plain s)
  | restart => exact opened_plain s.catalog s.level .restart _ _

theorem answer_plain (s : Session) (r : Request) : (s.plain.answer r.plain).map plain = (s.answer r).map plain := by
  cases r with
  | load level => exact opened_plain s.catalog level .levelLoad _ _
  | undo => exact congrArg Except.ok (undo_plain s)
  | restart => exact opened_plain s.catalog s.level .restart _ _
  | apply word =>
      simp only [Request.plain, answer, runWord]
      cases Command.ofWord? word with
      | none => rfl
      | some command => exact run_plain s command
  | move word =>
      simp only [Request.plain, answer, moveWord]
      cases Direction.ofWord? word with
      | none => rfl
      | some d => exact move_plain s d

theorem answer_alike (s t : Session) (r q : Request) (alike : s.plain = t.plain) (same : r.plain = q.plain) :
    (s.answer r).map plain = (t.answer q).map plain := by
  rw [← answer_plain, alike, same, answer_plain]

theorem start_alike (c d : Catalog) (l m : Level) (dressed : c.plain = d.plain) (named : l.plain = m.plain) :
    (start c l).map plain = (start d m).map plain := by
  have opened (c : Catalog) (l : Level) := opened_plain c l .levelLoad "" ("Loaded " ++ l.heading.name)
  rw [start, start, ← opened c l, ← opened d m, dressed, named]

end Session

namespace Console

theorem serve_alike (s t : Session) (r q : Request) (alike : s.plain = t.plain) (same : r.plain = q.plain) :
    ((serve r).runOn s).1 = ((serve q).runOn t).1 ∧
      ((serve r).runOn s).2.plain = ((serve q).runOn t).2.plain := by
  have answers := Session.answer_alike s t r q alike same
  rw [serve_run, serve_run]
  rcases Attempt.alike_cases _ _ _ answers with ⟨cause, one, other⟩ | ⟨next, after, one, other, kept⟩
  · rw [one, other]
    exact ⟨rfl, alike⟩
  · rw [one, other]
    exact ⟨rfl, kept⟩

theorem serve_all_alike (s t : Session) (rs qs : List Request) (alike : s.plain = t.plain)
    (same : rs.map Request.plain = qs.map Request.plain) : (serveAll s rs).plain = (serveAll t qs).plain := by
  induction rs generalizing s t qs with
  | nil =>
      cases qs with
      | nil => exact alike
      | cons q others => cases same
  | cons r rest ih =>
      cases qs with
      | nil => cases same
      | cons q others =>
          obtain ⟨head, tail⟩ := List.cons.inj same
          exact ih _ _ others (serve_alike s t r q alike head).2 tail

theorem presentation_never_matters (c d : Catalog) (l m : Level) (dressed : c.plain = d.plain)
    (named : l.plain = m.plain) :
    (∀ f, Session.start c l = .error f ↔ Session.start d m = .error f) ∧
    ∀ s t, Session.start c l = .ok s → Session.start d m = .ok t →
      ∀ rs qs, rs.map Request.plain = qs.map Request.plain →
        (serveAll s rs).plain = (serveAll t qs).plain ∧
        ∀ r q, r.plain = q.plain →
          ((serve r).runOn (serveAll s rs)).1 = ((serve q).runOn (serveAll t qs)).1 := by
  rcases Attempt.alike_cases _ _ _ (Session.start_alike c d l m dressed named) with
    ⟨cause, one, other⟩ | ⟨first, second, one, other, alike⟩
  · rw [one, other]
    refine ⟨fun f => Iff.rfl, fun s t started => ?_⟩
    cases started
  · rw [one, other]
    refine ⟨fun f => ⟨nofun, nofun⟩, fun s t started opened rs qs same => ?_⟩
    cases started
    cases opened
    have held := serve_all_alike first second rs qs alike same
    exact ⟨held, fun r q request => (serve_alike _ _ r q held request).1⟩

def finaleRetold : Level := { Turn.finale with heading := ⟨"finale", "The End", .text "Go left."⟩ }

def encore (l : Level) : List Request := [.apply "left", .undo, .move "left", .load l, .move "undo"]

theorem finale_told_twice :
    Catalog.standard.plain = Catalog.standard.plain.plain ∧ Turn.finale.plain = finaleRetold.plain ∧
    ∃ s t, Session.start .standard Turn.finale = .ok s ∧ Session.start Catalog.standard.plain finaleRetold = .ok t ∧
      s.state.events ≠ t.state.events ∧
      (encore Turn.finale).map Request.plain = (encore finaleRetold).map Request.plain ∧
      (serveAll s (encore Turn.finale)).plain = (serveAll t (encore finaleRetold)).plain := by
  have dressed : Catalog.standard.plain = Catalog.standard.plain.plain := Catalog.standard.plain_plain.symm
  have named : Turn.finale.plain = finaleRetold.plain := rfl
  have same : (encore Turn.finale).map Request.plain = (encore finaleRetold).map Request.plain := by
    simp only [encore, List.map_cons, List.map_nil, Request.plain, named]
  have play :=
    presentation_never_matters .standard Catalog.standard.plain Turn.finale finaleRetold dressed named
  obtain ⟨first, _, load, _⟩ := Turn.finale_run
  cases one : Session.start .standard Turn.finale with
  | error cause =>
      rw [Session.start, Session.opened_eq, load] at one
      cases one
  | ok s =>
      cases other : Session.start Catalog.standard.plain finaleRetold with
      | error cause => cases one.symm.trans ((play.1 cause).mpr other)
      | ok t =>
          have told : s.state.events ≠ t.state.events := by
            rw [Session.start_events _ _ s one, Session.start_events _ _ t other]
            decide
          exact ⟨dressed, named, s, t, rfl, rfl, told, same, (play.2 s t one other _ _ same).1⟩

end Console

end KanjiPuzzle
