import KanjiPuzzle.Proofs.Identity
import KanjiPuzzle.Proofs.Occupancy

set_option autoImplicit false

/- What fusions use up and what they yield. Every pair was chosen on the board as it stood before and no entity is in
   two of them; the two are gone, what they yield is new, and all else is left as it was. -/
namespace KanjiPuzzle

namespace EntityMap

variable {α : Type}

structure Exchanges (m : EntityMap α) (gone : List EntityId) (next : EntityId) (values : List α) (n : EntityMap α) :
    Prop where
  lost : ∀ id ∈ gone, n.get? id = none
  kept : ∀ id, id < next → id ∉ gone → n.get? id = m.get? id
  new : ∀ (i : Nat) value, values[i]? = some value → n.get? (next + i) = some value
  beyond : ∀ id, next + values.length ≤ id → n.get? id = none

theorem appended_exchanges (m : EntityMap α) (gone : List EntityId) (next : Int) (values : List α)
    (old : ∀ id, next ≤ id → m.get? id = none) (lost : ∀ id ∈ gone, id < next) :
    m.Exchanges gone next values ((m.eraseAll gone).appended next values) := by
  have before (id : EntityId) (earlier : id < next) :
      ((m.eraseAll gone).appended next values).get? id = if id ∈ gone then none else m.get? id := by
    rw [get_appended, if_neg fun new => absurd new.1 (Int.not_le.mpr earlier), get_erase_all]
  constructor
  · exact fun id member => (before id (lost id member)).trans (if_pos member)
  · exact fun id earlier stays => (before id earlier).trans (if_neg stays)
  · intro i value listed
    obtain ⟨bound, _⟩ := List.getElem?_eq_some_iff.mp listed
    have place : (next + (i : Int) - next).toNat = i := by omega
    rw [get_appended, if_pos ⟨by omega, by omega⟩, place, listed]
  · intro id further
    have later : next ≤ id := Int.le_trans (Int.le_add_of_nonneg_right (Int.natCast_nonneg _)) further
    rw [get_appended, if_neg fun new => absurd new.2 (Int.not_lt.mpr further), get_erase_all, old id later, ite_self]

end EntityMap

namespace Fusion

-- Two objects of the world, the second one right of the first or below it, whose nouns make up a recipe.
structure Match (s : State) (a b : EntityId) (d e : Definition) (cell : Cell) (recipe : Recipe) : Prop where
  nouns : ∃ n m, s.Embodies a d n ∧ s.Embodies b e m ∧ s.catalog.recipeFor? n m = some recipe
  beside : ∃ origin, s.positions.get? a = some origin ∧ cell ∈ neighbours origin
  inside : s.onBoard cell = true
  there : s.positions.get? b = some cell

def Pairing.Fits (s : State) (p : Pairing) : Prop :=
  ∃ d e recipe output, Match s p.first p.second d e p.cell recipe ∧ s.catalog.get recipe.output = .ok output ∧
    p.output = recipe.output ∧ p.message = d.glyph ++ " + " ++ e.glyph ++ " → " ++ output.glyph

structure Chosen (s : State) (found : List Pairing) : Prop where
  fits : ∀ p ∈ found, p.Fits s
  apart : (used found).Nodup

structure Yields (s : State) (found : List Pairing) (t : State) : Prop where
  definitions : s.definitions.Exchanges (used found) s.nextId (found.map Pairing.output) t.definitions
  positions : s.positions.Exchanges (used found) s.nextId (found.map Pairing.cell) t.positions
  next : t.nextId = s.nextId + found.length
  told : t.events = s.events ++ found.map Pairing.event
  rest : t = { s with
    definitions := t.definitions, positions := t.positions, nextId := t.nextId, events := t.events }

theorem fusible_iff (s : State) (id : EntityId) (d : Definition) (noun : Noun) :
    fusible? s id = .ok (some (d, noun)) ↔ s.Embodies id d noun := by
  constructor
  · intro fuses
    obtain ⟨e, defined, fuses⟩ := Attempt.bind_ok _ _ _ fuses
    have named := Except.ok.inj fuses
    split at named
    case isTrue isObject =>
      obtain ⟨_, named, same⟩ := Option.map_eq_some_iff.mp named
      cases same
      exact ⟨defined, isObject, named⟩
    case isFalse => cases named
  · rintro ⟨defined, isObject, named⟩
    rw [fusible?, defined, Attempt.ok_bind, if_pos isObject, named]
    rfl

theorem partner_iff (s : State) (taken : List EntityId) (id other : EntityId) :
    isPartner s taken id other = .ok true ↔ other ≠ id ∧ other ∉ taken ∧ ∃ d noun, s.Embodies other d noun := by
  rw [isPartner]
  by_cases excluded : other = id ∨ other ∈ taken
  · rw [if_pos excluded]
    exact iff_of_false (by simp) fun free => excluded.elim free.1 free.2.1
  · obtain ⟨different, unused⟩ := not_or.mp excluded
    rw [if_neg excluded]
    constructor
    · intro answer
      obtain ⟨fuses, fusible, answer⟩ := Attempt.bind_ok _ _ _ answer
      obtain ⟨⟨d, noun⟩, same⟩ := Option.isSome_iff_exists.mp (Except.ok.inj answer)
      exact ⟨different, unused, d, noun, (fusible_iff s other d noun).mp (same ▸ fusible)⟩
    · rintro ⟨_, _, d, noun, embodies⟩
      rw [(fusible_iff s other d noun).mpr embodies]
      rfl

theorem mem_used_iff (found : List Pairing) (id : EntityId) :
    id ∈ used found ↔ ∃ p ∈ found, id = p.first ∨ id = p.second := by
  simp [used]

theorem used_append (found more : List Pairing) : used (found ++ more) = used found ++ used more := List.flatMap_append

theorem add_pairing_chosen (s : State) (found next : List Pairing) (id : EntityId) (chosen : Chosen s found)
    (added : addPairing s found id = .ok next) : Chosen s next := by
  rcases add_pairing_ok s found next id added with rfl |
    ⟨p, ⟨d, n⟩, origin, cell, rfl, free, fusible, stands, beside, paired⟩
  · exact chosen
  · obtain ⟨rfl, rfl, inside, found_partner, ⟨e, m⟩, recipe, output, fuses, accepted, known, yields, message⟩ :=
      pairing_in_ok s (used found) id (d, n) cell p paired
    obtain ⟨here, partner⟩ := Attempt.first_ok _ _ _ found_partner
    obtain ⟨different, unused, _⟩ := (partner_iff s _ _ _).mp partner
    have matched : Match s p.first p.second d e p.cell recipe :=
      ⟨⟨n, m, (fusible_iff s _ d n).mp fusible, (fusible_iff s _ e m).mp fuses, accepted⟩,
        ⟨origin, s.stands_of_cell _ origin stands, beside⟩, inside, (s.mem_entities_at_iff _ _).mp here⟩
    have same := s.catalog.find_id recipe.output output (s.catalog.find_of_get _ output known)
    constructor
    · refine List.forall_mem_append.mpr ⟨chosen.fits, List.forall_mem_singleton.mpr ?_⟩
      exact ⟨d, e, recipe, output, matched, known, yields.trans same, message⟩
    · rw [used_append, List.nodup_append]
      refine ⟨chosen.apart, by simpa [used] using Ne.symm different, fun other taken newest member equal => ?_⟩
      rw [equal] at taken
      rcases List.mem_cons.mp member with rfl | last
      · exact free taken
      · exact unused (List.mem_singleton.mp last ▸ taken)

theorem pairings_chosen (s : State) (found : List Pairing) (done : pairings s = .ok found) : Chosen s found :=
  Attempt.through_keeps (Chosen s) (addPairing s) s.definitions.ids
    (fun found next id _ chosen added => add_pairing_chosen s found next id chosen added) [] found
    ⟨by simp, List.nodup_nil⟩ done

theorem fits_alive (s : State) (p : Pairing) (fits : p.Fits s) : s.Alive p.first ∧ s.Alive p.second := by
  obtain ⟨d, e, _, _, ⟨⟨_, _, first, second, _⟩, _⟩, _⟩ := fits
  exact ⟨s.definition_alive _ d first.defined, s.definition_alive _ e second.defined⟩

theorem used_alive (s : State) (found : List Pairing) (chosen : Chosen s found) (id : EntityId)
    (taken : id ∈ used found) : s.Alive id := by
  obtain ⟨p, member, both⟩ := (mem_used_iff found id).mp taken
  obtain ⟨first, second⟩ := fits_alive s p (chosen.fits p member)
  rcases both with rfl | rfl
  · exact first
  · exact second

section WellFormed

variable (s : State) (placed : ∀ id, s.positions.contains id = s.definitions.contains id)
  (known : ∀ id definition, s.definitions.get? id = some definition → s.catalog.contains definition = true)
  (fresh : ∀ id, s.Alive id → id < s.nextId)
include placed known fresh

theorem run_yields : ∃ found t, pairings s = .ok found ∧ run s = .ok t ∧ Chosen s found ∧ Yields s found t := by
  obtain ⟨found, done, _⟩ : ∃ found, pairings s = .ok found ∧ ∀ p ∈ found, s.catalog.contains p.output = true :=
    pairings_answer { s with rules := [] } ⟨placed, known, fun _ member => nomatch member⟩
  have chosen := pairings_chosen s found done
  have lost (id : EntityId) (taken : id ∈ used found) : id < s.nextId := fresh id (used_alive s found chosen id taken)
  have undefined (id : EntityId) (later : s.nextId ≤ id) : s.definitions.contains id = false :=
    Bool.eq_false_iff.mpr fun alive => absurd (fresh id alive) (Int.not_lt.mpr later)
  refine ⟨found, found.foldl spawn (s.remove (used found)), done, by rw [run, done]; rfl, chosen, ?_⟩
  rw [spawn_all_eq]
  refine ⟨?_, ?_, rfl, rfl, rfl⟩
  · refine s.definitions.appended_exchanges _ _ _ (fun id later => ?_) lost
    exact Option.not_isSome_iff_eq_none.mp (Bool.eq_false_iff.mp (undefined id later))
  · refine s.positions.appended_exchanges _ _ _ (fun id later => ?_) lost
    exact Option.not_isSome_iff_eq_none.mp (Bool.eq_false_iff.mp ((placed id).trans (undefined id later)))

theorem fusion_conserves :
    ∃ found t, run s = .ok t ∧ (∀ p ∈ found, p.Fits s) ∧ (used found).Nodup ∧ (∀ id ∈ used found, id < s.nextId) ∧
      Yields s found t ∧ (found = [] → t = s) := by
  obtain ⟨found, t, done, ran, chosen, yields⟩ := run_yields s placed known fresh
  refine ⟨found, t, ran, chosen.fits, chosen.apart, fun id taken => fresh id (used_alive s found chosen id taken), yields,
    fun none => ?_⟩
  rw [run, done, none] at ran
  exact (Except.ok.inj ran).symm

end WellFormed

def hearth : State :=
  .ofTiles ⟨3, 3⟩
    [⟨1, "obj-tree", ⟨0, 0⟩⟩, ⟨2, "obj-fire", ⟨1, 0⟩⟩, ⟨3, "obj-mountain", ⟨2, 0⟩⟩, ⟨4, "obj-water", ⟨0, 1⟩⟩,
      ⟨5, "obj-fire", ⟨0, 2⟩⟩, ⟨6, "obj-fire", ⟨1, 2⟩⟩, ⟨7, "txt-water", ⟨1, 1⟩⟩] .none none

theorem hearth_burns :
    ∃ found t, run hearth = .ok t ∧ (used found).Nodup ∧ Yields hearth found t ∧
      t.definitions.entries = [(3, "obj-mountain"), (6, "obj-fire"), (7, "txt-water"), (8, "obj-charcoal"),
        (9, "obj-hotspring")] ∧
      t.events = [⟨.fusion, "木 + 火 → 炭", [⟨1, 0⟩]⟩, ⟨.fusion, "水 + 火 → 湯", [⟨0, 2⟩]⟩] := by
  obtain ⟨found, t, done, _, apart, _, yields, _⟩ := fusion_conserves hearth (State.of_tiles_placed _ _ _ _)
    (State.of_tiles_known _ _ _ _ (by decide)) (State.of_tiles_fresh _ _ _ _ (by decide))
  refine ⟨found, t, done, apart, yields, ?_, ?_⟩
  · exact Except.ok.inj (congrArg (Except.map fun t : State => t.definitions.entries) done.symm)
  · exact Except.ok.inj (congrArg (Except.map State.events) done.symm)

end Fusion

end KanjiPuzzle
