import KanjiPuzzle.Proofs.Handover

set_option autoImplicit false

/- Who holds a role after a refresh. It falls to nobody where no rule grants it, stays with a holder that is alive, and
   passes from nobody or from the dead to the first carrier. -/
namespace KanjiPuzzle

namespace State

variable (s : State)

def Awards (role : Role) : Prop := ∃ r ∈ s.rules, r.term = .property role.property

-- To whom a role goes by a refresh.
structure Succeeds (role : Role) (heir : Option EntityId) : Prop where
  dropped : ¬ s.Awards role → heir = none
  kept : ∀ id, s.Awards role → s.holder role = some id → s.Alive id → heir = some id
  filled : s.Awards role → (∀ id, s.holder role = some id → ¬ s.Alive id) →
    Roles.firstCarrier s role.property = .ok heir
  entitled : ∀ id, heir = some id → s.holder role ≠ some id → s.Entitled role id
  vacant : heir = none → ∀ id, ¬ s.Entitled role id

end State

namespace Roles

variable (s : State)

theorem heir_dropped (role : Role) (dropped : ¬ s.Awards role) : heir s role = .ok none := by
  have silent : ¬ hasGrantRule s role.property = true :=
    fun granted => dropped ((grant_rule_iff s role.property).mp granted)
  have lost : kept? s role = none := if_neg silent
  rw [heir, lost]
  exact if_neg silent

theorem heir_filled (role : Role) (awards : s.Awards role) (gone : ∀ id, s.holder role = some id → ¬ s.Alive id) :
    heir s role = firstCarrier s role.property := by
  have lost : kept? s role = none := by
    cases kept : kept? s role with
    | none => rfl
    | some id =>
        obtain ⟨_, held, alive⟩ := (kept_iff s role id).mp kept
        exact absurd alive (gone id held)
  rw [heir, lost]
  exact if_pos ((grant_rule_iff s role.property).mpr awards)

theorem heir_succeeds (granting : s.Granting) (role : Role) (id : Option EntityId) (inherits : heir s role = .ok id) :
    s.Succeeds role id := by
  constructor
  · exact fun dropped => Except.ok.inj (inherits.symm.trans (heir_dropped s role dropped))
  · intro holder awards held alive
    have keeps := heir_kept s role holder ((grant_rule_iff s role.property).mpr awards) held alive
    exact Except.ok.inj (inherits.symm.trans keeps)
  · exact fun awards gone => (heir_filled s role awards gone).symm.trans inherits
  · rintro heir rfl other
    exact (s.entitled_iff_backed granting role heir).mpr ((heir_living s role heir inherits).2.2.resolve_left other)
  · rintro rfl other entitled
    obtain ⟨r, listed, grants, _⟩ := entitled.spoken
    have granted := (grant_rule_iff s role.property).mpr ⟨r, listed, grants⟩
    exact heir_vacant s role inherits granted other ((s.entitled_iff_backed granting role other).mp entitled)

theorem refresh_settles (placed : ∀ id, s.positions.contains id = s.definitions.contains id)
    (known : ∀ id definition, s.definitions.get? id = some definition → s.catalog.contains definition = true)
    (granting : s.Granting) :
    ∃ t, refresh s = .ok t ∧ refresh t = .ok t ∧ t = { s with player := t.player, goal := t.goal } ∧
      ∀ role, s.Succeeds role (t.holder role) := by
  have grounded : s.Grounded := ⟨placed, known, fun _ member => nomatch member⟩
  obtain ⟨t, refreshed, _⟩ := refresh_grounded s grounded
  have rest := (refresh_ok s t refreshed).2.2
  refine ⟨t, refreshed, refresh_at_rest t rest, ?_, fun role => ?_⟩
  · obtain ⟨_, _, _, _, rfl⟩ := refresh_parts s t refreshed
    rfl
  · exact heir_succeeds s granting role _ (refresh_heir s t refreshed role)

def meadowTiles : List Tile := [⟨1, "txt-human", ⟨0, 0⟩⟩, ⟨2, "obj-human", ⟨2, 0⟩⟩, ⟨3, "obj-human", ⟨3, 1⟩⟩]

def meadowRules : List Rule :=
  [⟨"human", .property .you, .horizontal, [⟨0, 0⟩, ⟨1, 0⟩, ⟨2, 0⟩]⟩,
    ⟨"gate", .property .win, .vertical, [⟨4, 0⟩, ⟨4, 1⟩, ⟨4, 2⟩]⟩]

def meadow : State :=
  { State.ofTiles ⟨5, 3⟩ meadowTiles (.ofRules meadowRules) (some 8) with rules := meadowRules, goal := some 9 }

theorem meadow_settles :
    ∃ t, refresh meadow = .ok t ∧ refresh t = .ok t ∧ meadow.Granting ∧ ¬ meadow.Alive 8 ∧ ¬ meadow.Alive 9 ∧
      (∀ role, meadow.Succeeds role (t.holder role)) ∧ t.player = some 3 ∧ t.goal = none := by
  have granting : meadow.Granting := fun _ _ => rfl
  obtain ⟨t, refreshed, again, _, succeeds⟩ := refresh_settles meadow
    (State.of_tiles_placed ⟨5, 3⟩ meadowTiles (.ofRules meadowRules) (some 8))
    (State.of_tiles_known ⟨5, 3⟩ meadowTiles (.ofRules meadowRules) (some 8) (by decide)) granting
  have shown := refreshed.symm
  refine ⟨t, refreshed, again, granting, Bool.eq_false_iff.mp rfl, Bool.eq_false_iff.mp rfl, succeeds, ?_, ?_⟩
  · exact Except.ok.inj (congrArg (Except.map State.player) shown)
  · exact Except.ok.inj (congrArg (Except.map State.goal) shown)

end Roles

end KanjiPuzzle
