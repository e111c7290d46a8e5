import KanjiPuzzle.Proofs.Clearing
import KanjiPuzzle.Proofs.Identity

set_option autoImplicit false

/- How the report of a turn runs. Every phase tells of itself behind all that was told before, and since the move is
   always told, a turn is never silent. -/
namespace KanjiPuzzle

namespace State

def kinds (s : State) : List EventKind := s.events.map Event.kind

theorem kinds_more (s t : State) (kind : EventKind) (told : List Event) (continued : t.events = s.events ++ told)
    (alike : ∀ e ∈ told, e.kind = kind) : t.kinds = s.kinds ++ List.replicate told.length kind := by
  have same : told.map Event.kind = List.replicate told.length kind := by
    rw [List.eq_replicate_iff, List.length_map]
    exact ⟨rfl, List.forall_mem_map.mpr alike⟩
  rw [kinds, continued, List.map_append, same]
  rfl

theorem reports_kinds (s t : State) (kind : EventKind) (reports : s.Reports kind t) :
    ∃ n, t.kinds = s.kinds ++ List.replicate n kind := by
  obtain ⟨told, continued, alike⟩ := reports
  exact ⟨told.length, s.kinds_more t kind told continued alike⟩

theorem reports_silence (s t u : State) (kind : EventKind) (reports : s.Reports kind t) (same : u.events = t.events) :
    s.Reports kind u :=
  s.reports_trans t u kind reports (t.reports_nothing u kind same)

theorem fusions_eq_count (s : State) : s.fusions = s.kinds.count .fusion := by
  rw [fusions, kinds, List.count_eq_countP, List.countP_map]
  rfl

end State

-- What a turn that is not refused has to tell: how often each phase spoke, and whether the rules changed and the level
-- was cleared.
structure Outline where
  fusions : Nat
  transforms : Nat
  shifts : Nat
  changed : Bool
  hazards : Nat
  won : Bool
deriving DecidableEq, Repr

namespace Outline

def kinds (o : Outline) : List EventKind :=
  [.move] ++ List.replicate o.fusions .fusion ++ List.replicate o.transforms .transform ++
    List.replicate o.shifts .roleShift ++ (if o.changed then [.ruleChange] else []) ++
    List.replicate o.hazards .blocked ++ (if o.won then [.win] else [])

theorem count_fusions (o : Outline) : o.kinds.count .fusion = o.fusions := by
  rcases o with ⟨fusions, transforms, shifts, changed, hazards, won⟩
  cases changed <;> cases won <;> simp [kinds, List.count_replicate]

end Outline

namespace Turn

theorem report_change_kinds (before : List Rule) (s : State) : (reportChange before s).kinds =
    s.kinds ++ if Rule.setSignature s.rules ≠ Rule.setSignature before then [.ruleChange] else [] := by
  rw [reportChange]
  by_cases same : Rule.setSignature s.rules = Rule.setSignature before
  · rw [if_pos same, if_neg (not_not_intro same), List.append_nil]
  · rw [if_neg same, if_pos same]
    exact List.map_append

section Follow

variable (g : Stages) (before : List Rule) (d : Direction) (t : State) (follow : g.Follow before d t)
include follow

theorem shifts_told : g.read.Reports .roleShift g.ranked := by
  have captured := Roles.capture_new_reports g.read g.captured before follow.captures
  have triggered := Roles.trigger_slots_reports g.captured g.triggered follow.triggers
  exact g.read.reports_silence g.triggered g.ranked .roleShift (g.read.reports_trans _ _ _ captured triggered)
    (Roles.refresh_events g.triggered g.ranked follow.ranks)

theorem hazards_told : (reportChange before g.ranked).Reports .blocked g.cast := by
  have sunk := Hazards.strike_reports _ _ _ g.sunk follow.sinks
  have melted := Hazards.strike_reports _ _ _ g.melted follow.melts
  exact State.reports_silence _ g.melted g.cast .blocked (State.reports_trans _ _ _ _ sunk melted)
    (Roles.refresh_events g.melted g.cast follow.casts)

theorem ranked_rules : t.rules = g.ranked.rules :=
  (melted_cast g before d t follow).1.rules.trans (ranked_melted g before d t follow).1.rules

theorem follow_outline (unwon : g.cast.won = false) (opens : g.counted.kinds = [.move]) :
    ∃ o : Outline, g.cleared.kinds = o.kinds ∧ o.won = g.cleared.won ∧
      (o.changed = true ↔ Rule.setSignature t.rules ≠ Rule.setSignature before) := by
  obtain ⟨fused, fusions, fusing, _⟩ := Fusion.run_told g.counted g.fused follow.fuses
  have fused_kinds := g.counted.kinds_more g.fused .fusion fused fusions fusing
  obtain ⟨transforms, read⟩ := State.reports_kinds _ _ _ (Reading.run_reports g.fused g.read true follow.reads)
  obtain ⟨shifts, ranked⟩ := State.reports_kinds _ _ _ (shifts_told g before d t follow)
  have changed := report_change_kinds before g.ranked
  obtain ⟨hazards, cast⟩ := State.reports_kinds _ _ _ (hazards_told g before d t follow)
  obtain ⟨found, _, won, told⟩ := Victory.run_ok g.cast g.cleared unwon follow.clears
  have cleared : g.cleared.kinds = g.cast.kinds ++ if g.cleared.won then [.win] else [] := by
    rw [State.kinds, told, won, List.map_append]
    cases found <;> rfl
  refine ⟨⟨fused.length, transforms, shifts, decide (Rule.setSignature g.ranked.rules ≠ Rule.setSignature before),
    hazards, g.cleared.won⟩, ?_, rfl, ?_⟩
  · rw [cleared, cast, changed, ranked, read, fused_kinds, opens]
    simp only [Outline.kinds, decide_eq_true_eq]
  · rw [decide_eq_true_eq, ranked_rules g before d t follow]

end Follow

theorem counted_kinds (g : Stages) (s t : State) (d : Direction) (lead : g.Lead s d t) : g.counted.kinds = [.move] := by
  rw [State.kinds, counted_told g s t d lead]
  rfl

-- A report that has begun is not silent, so nothing is added at the end.
theorem told_not_silent (d : Direction) (s : State) (told : s.events ≠ []) : reportSilence d s = s := by
  rw [reportSilence, if_neg]
  exact fun silent => told (List.isEmpty_iff.mp silent)

theorem lead_outline (g : Stages) (s t : State) (d : Direction) (lead : g.Lead s d t) :
    g.cleared.events ≠ [] ∧ t = g.cleared ∧ ∃ o : Outline, t.kinds = o.kinds ∧ t.nextId = s.nextId + o.fusions ∧
      (o.changed = true ↔ Rule.setSignature t.rules ≠ Rule.setSignature s.rules) ∧ o.won = t.won := by
  obtain ⟨o, kinds, won, changed⟩ :=
    follow_outline g s.rules d t lead.follow (lead_open g s t d lead) (counted_kinds g s t d lead)
  have told : g.cleared.events ≠ [] := by
    intro silent
    rw [State.kinds, silent] at kinds
    simp [Outline.kinds] at kinds
  have ends : t = g.cleared := lead.follow.ends.trans (told_not_silent d g.cleared told)
  have numbers := lead_fusions g s t d lead
  rw [State.fusions_eq_count, ends, kinds, o.count_fusions, ← ends] at numbers
  exact ⟨told, ends, o, ends ▸ kinds, numbers, changed, ends ▸ won⟩

theorem report_in_order (catalog : Catalog) (level : Level) (s : State) (reached : Reached catalog level s)
    (d : Direction) :
    ∃ t, play s d = .ok t ∧ (t.moves = s.moves + 1 →
      (∃ o : Outline, t.kinds = o.kinds ∧ t.nextId = s.nextId + o.fusions ∧
        (o.changed = true ↔ Rule.setSignature t.rules ≠ Rule.setSignature s.rules) ∧ o.won = t.won) ∧
      ∃ g : Stages, g.Lead s d t ∧ g.cleared.events ≠ [] ∧ t = g.cleared) := by
  obtain ⟨t, played, _⟩ := reached_plays catalog level s reached d
  refine ⟨t, played, fun counted => ?_⟩
  obtain ⟨g, lead⟩ := counted_lead s t d played counted
  obtain ⟨told, ends, outlined⟩ := lead_outline g s t d lead
  exact ⟨outlined, g, lead, told, ends⟩

theorem finale_told_in_order :
    ∃ first t, Session.loaded .standard finale = .ok first ∧ play first .left = .ok t ∧
      t.kinds = Outline.kinds ⟨1, 1, 1, true, 1, true⟩ ∧
      ∃ o : Outline, t.kinds = o.kinds ∧ t.nextId = first.nextId + o.fusions ∧
        (o.changed = true ↔ Rule.setSignature t.rules ≠ Rule.setSignature first.rules) ∧ o.won = t.won := by
  obtain ⟨first, t, load, played, counted, _, kinds⟩ := finale_run
  obtain ⟨again, replayed, outcome⟩ :=
    report_in_order .standard finale first (loaded_reached .standard finale first load) .left
  cases played.symm.trans replayed
  exact ⟨first, t, load, played, kinds, (outcome counted).1⟩

end Turn

end KanjiPuzzle
