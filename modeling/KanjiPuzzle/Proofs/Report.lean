import KanjiPuzzle.Proofs.Appointments
import KanjiPuzzle.Proofs.Stages

set_option autoImplicit false

/- What a turn reports. Every phase adds events of one kind, its own, to the report of the phases before it; a fusion
   adds one for every id that it gives out. -/
namespace KanjiPuzzle

namespace State

def Reports (s : State) (kind : EventKind) (t : State) : Prop :=
  ∃ told, t.events = s.events ++ told ∧ ∀ e ∈ told, e.kind = kind

def fusions (s : State) : Nat := s.events.countP fun e => decide (e.kind = .fusion)

theorem reports_nothing (s t : State) (kind : EventKind) (same : t.events = s.events) : s.Reports kind t :=
  ⟨[], by rw [same, List.append_nil], by simp⟩

theorem reports_one (s : State) (e : Event) : s.Reports e.kind (s.report e) := ⟨[e], rfl, by simp⟩

theorem reports_trans (s t u : State) (kind : EventKind) (first : s.Reports kind t) (second : t.Reports kind u) :
    s.Reports kind u := by
  obtain ⟨sooner, begun, kinds⟩ := first
  obtain ⟨later, continued, rest⟩ := second
  refine ⟨sooner ++ later, ?_, List.forall_mem_append.mpr ⟨kinds, rest⟩⟩
  rw [continued, begun, List.append_assoc]

theorem reports_keep (s t : State) (kind : EventKind) (reports : s.Reports kind t) : s.events <+: t.events := by
  obtain ⟨told, continued, _⟩ := reports
  exact ⟨told, continued.symm⟩

theorem reports_other (s t : State) (kind : EventKind) (reports : s.Reports kind t) (other : kind ≠ .fusion) :
    t.fusions = s.fusions := by
  obtain ⟨told, continued, kinds⟩ := reports
  have none : told.countP (fun e => decide (e.kind = .fusion)) = 0 := by
    rw [List.countP_eq_zero]
    intro e member fusion
    exact other ((kinds e member).symm.trans (of_decide_eq_true fusion))
  rw [fusions, continued, List.countP_append, none]
  rfl

theorem handed_reports (s t : State) (role : Role) (r : Rule) (handed : s.Handed role r t) : s.Reports .roleShift t := by
  obtain ⟨id, cell, told, _, _, _, _, rfl⟩ := handed
  cases role <;> exact ⟨[_], rfl, by simp⟩

end State

namespace Fusion

def Pairing.event (p : Pairing) : Event := ⟨.fusion, p.message, [p.cell]⟩

theorem spawn_all_told (pairings : List Pairing) (s : State) :
    (pairings.foldl spawn s).events = s.events ++ pairings.map Pairing.event ∧
      (pairings.foldl spawn s).nextId = s.nextId + pairings.length := by
  rw [spawn_all_eq]
  exact ⟨rfl, rfl⟩

theorem run_told (s t : State) (done : run s = .ok t) :
    ∃ told, t.events = s.events ++ told ∧ (∀ e ∈ told, e.kind = .fusion) ∧ t.nextId = s.nextId + told.length := by
  obtain ⟨found, _, done⟩ := Attempt.bind_ok _ _ _ done
  cases done
  obtain ⟨told, next⟩ := spawn_all_told found (s.remove (used found))
  refine ⟨found.map Pairing.event, told, fun e member => ?_, by rw [List.length_map]; exact next⟩
  obtain ⟨p, _, rfl⟩ := List.mem_map.mp member
  rfl

theorem run_fusions (s t : State) (done : run s = .ok t) (silent : s.fusions = 0) : t.nextId = s.nextId + t.fusions := by
  obtain ⟨told, continued, kinds, next⟩ := run_told s t done
  have all : told.countP (fun e => decide (e.kind = .fusion)) = told.length := by
    rw [List.countP_eq_length]
    exact fun e member => decide_eq_true (kinds e member)
  have fusions : t.fusions = s.fusions + told.length := by
    rw [State.fusions, continued, List.countP_append, all]
    rfl
  rw [next, fusions, silent, Nat.zero_add]

end Fusion

theorem Reading.run_reports (s t : State) (announce : Bool) (done : Reading.run s announce = .ok t) :
    s.Reports .transform t := by
  obtain ⟨b, _, done⟩ := Attempt.bind_ok _ _ _ done
  obtain ⟨changes, told, _, kinds, rfl⟩ := Transform.run_ok _ t announce done
  exact ⟨told, rfl, fun e member => (kinds e member).2⟩

namespace Roles

theorem capture_new_reports (s t : State) (before : List Rule) (done : captureNew s before = .ok t) :
    s.Reports .roleShift t :=
  (capture_new_keeps (s.Reports .roleShift) s
    (fun t u role r _ reports _ handed => s.reports_trans t u .roleShift reports (t.handed_reports u role r handed))
    (s.reports_nothing s .roleShift rfl) before t done).1

theorem trigger_slots_reports (s t : State) (done : triggerSlots s = .ok t) : s.Reports .roleShift t :=
  (trigger_slots_keeps (s.Reports .roleShift) s
    (fun t u role r _ reports _ handed => s.reports_trans t u .roleShift reports (t.handed_reports u role r handed))
    (s.reports_nothing s .roleShift rfl) t done).1

theorem refresh_role_events (s t : State) (role : Role) (done : refreshRole s role = .ok t) : t.events = s.events := by
  rw [refresh_role_eq] at done
  obtain ⟨id, _, done⟩ := Attempt.bind_ok _ _ _ done
  cases done
  cases role <;> rfl

theorem refresh_events (s t : State) (done : refresh s = .ok t) : t.events = s.events := by
  obtain ⟨middle, first, second⟩ := Attempt.bind_ok _ _ _ done
  exact (refresh_role_events middle t .goal second).trans (refresh_role_events s middle .player first)

end Roles

theorem Hazards.strike_reports (losses : State → List EntityId → Attempt (List EntityId)) (p : Property) (s t : State)
    (done : Hazards.strike losses p s = .ok t) : s.Reports .blocked t := by
  obtain ⟨cells, _, done⟩ := Attempt.bind_ok _ _ _ done
  obtain ⟨struck, _, done⟩ := Attempt.bind_ok _ _ _ done
  dsimp only at done
  rw [State.report_all_eq] at done
  cases done
  refine ⟨_, rfl, fun e member => ?_⟩
  obtain ⟨entry, _, rfl⟩ := List.mem_map.mp member
  rfl

theorem Victory.run_reports (s t : State) (done : Victory.run s = .ok t) : s.Reports .win t := by
  rw [Victory.run] at done
  by_cases won : s.won = true
  · rw [if_pos won] at done
    exact s.reports_nothing t .win (Except.ok.inj done ▸ rfl)
  · rw [if_neg won] at done
    obtain ⟨found, _, done⟩ := Attempt.bind_ok _ _ _ done
    cases found with
    | none => exact s.reports_nothing t .win (Except.ok.inj done ▸ rfl)
    | some cell =>
        cases done
        exact ⟨[_], rfl, by simp⟩

namespace Turn

theorem report_change_reports (before : List Rule) (s : State) : s.Reports .ruleChange (reportChange before s) := by
  rw [reportChange]
  by_cases same : Rule.setSignature s.rules = Rule.setSignature before
  · rw [if_pos same]
    exact s.reports_nothing s .ruleChange rfl
  · rw [if_neg same]
    exact s.reports_one _

theorem report_silence_reports (d : Direction) (s : State) : s.Reports .move (reportSilence d s) := by
  rw [reportSilence]
  by_cases silent : s.events.isEmpty = true
  · rw [if_pos silent]
    exact s.reports_one _
  · rw [if_neg silent]
    exact s.reports_nothing s .move rfl

section Follow

variable (g : Stages) (before : List Rule) (d : Direction) (t : State) (follow : g.Follow before d t)
include follow

theorem triggered_told : g.triggered.events <+: t.events := by
  have ranked := Roles.refresh_events g.triggered g.ranked follow.ranks
  have changed := State.reports_keep _ _ _ (report_change_reports before g.ranked)
  have sunk := State.reports_keep _ _ _ (Hazards.strike_reports _ _ _ g.sunk follow.sinks)
  have melted := State.reports_keep _ _ _ (Hazards.strike_reports _ _ _ g.melted follow.melts)
  have cast := Roles.refresh_events g.melted g.cast follow.casts
  have cleared := State.reports_keep _ _ _ (Victory.run_reports g.cast g.cleared follow.clears)
  have silence := State.reports_keep _ _ _ (report_silence_reports d g.cleared)
  rw [← follow.ends] at silence
  rw [cast] at cleared
  rw [ranked] at changed
  exact changed.trans (sunk.trans (melted.trans (cleared.trans silence)))

theorem fused_fusions : t.fusions = g.fused.fusions := by
  have read := State.reports_other _ _ _ (Reading.run_reports g.fused g.read true follow.reads) nofun
  have captured := State.reports_other _ _ _ (Roles.capture_new_reports g.read g.captured before follow.captures) nofun
  have triggered := State.reports_other _ _ _ (Roles.trigger_slots_reports g.captured g.triggered follow.triggers) nofun
  have ranked : g.ranked.fusions = g.triggered.fusions := by
    rw [State.fusions, Roles.refresh_events g.triggered g.ranked follow.ranks]
    rfl
  have changed := State.reports_other _ _ _ (report_change_reports before g.ranked) nofun
  have sunk := State.reports_other _ _ _ (Hazards.strike_reports _ _ _ g.sunk follow.sinks) nofun
  have melted := State.reports_other _ _ _ (Hazards.strike_reports _ _ _ g.melted follow.melts) nofun
  have cast : g.cast.fusions = g.melted.fusions := by
    rw [State.fusions, Roles.refresh_events g.melted g.cast follow.casts]
    rfl
  have cleared := State.reports_other _ _ _ (Victory.run_reports g.cast g.cleared follow.clears) nofun
  have silence := State.reports_other _ _ _ (report_silence_reports d g.cleared) nofun
  rw [follow.ends, silence, cleared, cast, melted, sunk, changed, ranked, triggered, captured, read]

end Follow

theorem counted_told (g : Stages) (s t : State) (d : Direction) (lead : g.Lead s d t) :
    g.counted.events = [⟨.move, movedMessage d, [g.cell]⟩] := by
  obtain ⟨_, _, _, gone⟩ := Movement.run_ok _ g.gone g.player d lead.moves
  have ready := Roles.refresh_events s.quiet g.ready lead.refreshes
  rw [lead.follow.counts, gone]
  change g.ready.events ++ [_] = _
  rw [ready]
  rfl

end Turn

end KanjiPuzzle
