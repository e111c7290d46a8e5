import KanjiPuzzle.Proofs.Pairs

set_option autoImplicit false

/- Fusions that are missed. An entity asks only the lowest free object of a cell for a recipe, so that an object further
   up is overlooked while the lower one makes up none. Nothing else is missed. -/
namespace KanjiPuzzle.Fusion

-- Stands lower in the cell, is not used up before the first of the two has looked there, and makes up no recipe with it.
structure Screens (s : State) (found : List Pairing) (a b : EntityId) (cell : Cell) (c : EntityId) : Prop where
  lower : c < b
  there : s.positions.get? c = some cell
  clash : ∃ d e n k, s.Embodies a d n ∧ s.Embodies c e k ∧ s.catalog.recipeFor? n k = none
  free : ∀ p ∈ found, c = p.first ∨ c = p.second → a < p.first

theorem neighbours_apart (c : Cell) : c ∉ neighbours c := by
  rcases c with ⟨x, y⟩
  simp only [neighbours, Cell.shift, Axis.offset, List.mem_cons, Cell.mk.injEq, List.not_mem_nil, or_false]
  omega

theorem pairing_in_none (s : State) (taken : List EntityId) (id : EntityId) (first : Definition × Noun) (cell : Cell)
    (paired : pairingIn? s taken id first cell = .ok none) (inside : s.onBoard cell = true) (b : EntityId)
    (there : s.positions.get? b = some cell) (partner : isPartner s taken id b = .ok true) :
    ∃ c e k, (c = b ∨ c < b) ∧ s.positions.get? c = some cell ∧ c ∉ taken ∧ s.Embodies c e k ∧
      s.catalog.recipeFor? first.2 k = none := by
  rw [pairingIn?, if_pos inside] at paired
  obtain ⟨found, looked, paired⟩ := Attempt.bind_ok _ _ _ paired
  obtain ⟨c, rfl, least⟩ := Attempt.first_passes (· < ·) _ _ (s.entities_at_ascending cell) found looked b
    ((s.mem_entities_at_iff cell b).mpr there) partner
  obtain ⟨here, passes⟩ := Attempt.first_ok _ _ _ looked
  obtain ⟨_, free, e, k, embodies⟩ := (partner_iff s taken id c).mp passes
  refine ⟨c, e, k, least, (s.mem_entities_at_iff cell c).mp here, free, embodies, ?_⟩
  dsimp only at paired
  rw [(fusible_iff s c e k).mpr embodies, Attempt.ok_bind] at paired
  dsimp only at paired
  cases accepted : s.catalog.recipeFor? first.2 k with
  | none => rfl
  | some recipe =>
      rw [accepted] at paired
      obtain ⟨_, _, paired⟩ := Attempt.bind_ok _ _ _ paired
      cases paired

theorem first_pairing_none (s : State) (taken : List EntityId) (id : EntityId) (first : Definition × Noun)
    (cells : List Cell) (paired : firstPairing? s taken id first cells = .ok none) :
    ∀ cell ∈ cells, pairingIn? s taken id first cell = .ok none := by
  induction cells with
  | nil => simp
  | cons cell rest ih =>
      obtain ⟨pairing, here, paired⟩ := Attempt.bind_ok _ _ _ paired
      cases pairing with
      | none => exact List.forall_mem_cons.mpr ⟨here, ih paired⟩
      | some p => cases paired

theorem add_pairing_idle (s : State) (found : List Pairing) (id : EntityId) (d : Definition) (n : Noun) (origin : Cell)
    (added : addPairing s found id = .ok found) (free : id ∉ used found) (embodies : s.Embodies id d n)
    (stands : s.positions.get? id = some origin) :
    ∀ cell ∈ neighbours origin, pairingIn? s (used found) id (d, n) cell = .ok none := by
  have place : s.cellOf id = .ok origin := by rw [State.cellOf, stands]
  rw [addPairing, if_neg free, (fusible_iff s id d n).mpr embodies, Attempt.ok_bind] at added
  dsimp only at added
  rw [place, Attempt.ok_bind] at added
  obtain ⟨pairing, paired, added⟩ := Attempt.bind_ok _ _ _ added
  cases pairing with
  | none => exact first_pairing_none s (used found) id (d, n) (neighbours origin) paired
  | some p => exact absurd (Except.ok.inj added) (by simp)

theorem pairings_extend (s : State) (found final : List Pairing) (ids : List EntityId)
    (done : Attempt.through (addPairing s) found ids = .ok final) :
    ∃ more, final = found ++ more ∧ ∀ p ∈ more, p.first ∈ ids := by
  refine Attempt.through_keeps (fun next => ∃ more, next = found ++ more ∧ ∀ p ∈ more, p.first ∈ ids) (addPairing s) ids
    ?_ found final ⟨[], (List.append_nil found).symm, by simp⟩ done
  rintro _ next id member ⟨more, rfl, looked⟩ added
  rcases add_pairing_ok s _ next id added with rfl | ⟨p, first, _, cell, rfl, _, _, _, _, paired⟩
  · exact ⟨more, rfl, looked⟩
  · obtain ⟨rfl, _⟩ := pairing_in_ok s _ id first cell p paired
    exact ⟨more ++ [p], List.append_assoc .., List.forall_mem_append.mpr ⟨looked, List.forall_mem_singleton.mpr member⟩⟩

theorem idle_turn (s : State) (found : List Pairing) (done : pairings s = .ok found) (id : EntityId) (alive : s.Alive id)
    (free : id ∉ used found) :
    ∃ sooner, addPairing s sooner id = .ok sooner ∧ (∀ p ∈ sooner, p ∈ found) ∧
      ∀ p ∈ found, p ∈ sooner ∨ id < p.first := by
  obtain ⟨before, after, ids⟩ := List.append_of_mem ((s.alive_iff id).mp alive)
  rw [pairings, ids, Attempt.through_append] at done
  obtain ⟨sooner, _, done⟩ := Attempt.bind_ok _ _ _ done
  obtain ⟨next, added, done⟩ := Attempt.bind_ok _ _ _ done
  obtain ⟨more, rfl, later⟩ := pairings_extend s next found after done
  have idle : next = sooner := by
    rcases add_pairing_ok s sooner next id added with same | ⟨p, _, _, cell, rfl, _, _, _, _, paired⟩
    · exact same
    · obtain ⟨rfl, _⟩ := pairing_in_ok s _ id _ cell p paired
      exact absurd ((mem_used_iff _ _).mpr ⟨p, by simp, .inl rfl⟩) free
  subst idle
  refine ⟨next, added, fun p early => List.mem_append_left more early, fun p member => ?_⟩
  refine (List.mem_append.mp member).imp_right fun late => ?_
  have ascending := s.definitions.ids_ascending
  rw [ids] at ascending
  exact (List.pairwise_cons.mp (List.pairwise_append.mp ascending).2.1).1 p.first (later p late)

theorem embodies_unique (s : State) (id : EntityId) (d e : Definition) (n m : Noun) (first : s.Embodies id d n)
    (second : s.Embodies id e m) : n = m := by
  obtain rfl : d = e := Except.ok.inj (first.defined.symm.trans second.defined)
  exact Option.some.inj (first.named.symm.trans second.named)

theorem match_screened (s : State) (found : List Pairing) (done : pairings s = .ok found) (a b : EntityId)
    (d e : Definition) (cell : Cell) (recipe : Recipe) (matched : Match s a b d e cell recipe) (free : a ∉ used found)
    (unused : b ∉ used found) : ∃ c, Screens s found a b cell c := by
  obtain ⟨⟨n, m, first, second, accepted⟩, ⟨origin, stands, beside⟩, inside, there⟩ := matched
  obtain ⟨sooner, idle, early, late⟩ := idle_turn s found done a (s.definition_alive a d first.defined) free
  have spared (id : EntityId) (left : id ∉ used found) : id ∉ used sooner := fun taken => by
    obtain ⟨p, member, both⟩ := (mem_used_iff sooner id).mp taken
    exact left ((mem_used_iff found id).mpr ⟨p, early p member, both⟩)
  have different : b ≠ a := by
    rintro rfl
    exact neighbours_apart origin (Option.some.inj (stands.symm.trans there) ▸ beside)
  have partner : isPartner s (used sooner) a b = .ok true :=
    (partner_iff s _ a b).mpr ⟨different, spared b unused, e, m, second⟩
  have nothing := add_pairing_idle s sooner a d n origin idle (spared a free) first stands cell beside
  obtain ⟨c, f, k, least, place, spare, embodies, clash⟩ :=
    pairing_in_none s (used sooner) a (d, n) cell nothing inside b there partner
  have lower : c < b := by
    rcases least with rfl | lower
    · rw [embodies_unique s c f e k m embodies second, accepted] at clash
      cases clash
    · exact lower
  refine ⟨c, lower, place, ⟨d, f, n, k, first, embodies, clash⟩, fun p member both => ?_⟩
  exact (late p member).resolve_left fun taken => spare ((mem_used_iff sooner c).mpr ⟨p, taken, both⟩)

theorem fusion_misses_screened (s : State) (placed : ∀ id, s.positions.contains id = s.definitions.contains id)
    (known : ∀ id definition, s.definitions.get? id = some definition → s.catalog.contains definition = true)
    (fresh : ∀ id, s.Alive id → id < s.nextId) :
    ∃ found t, pairings s = .ok found ∧ run s = .ok t ∧
      (∀ a b d e cell recipe, Match s a b d e cell recipe → t.Alive a → t.Alive b → ∃ c, Screens s found a b cell c) ∧
      ((∀ b c d e m k cell, s.Embodies b d m → s.Embodies c e k → s.positions.get? b = some cell →
          s.positions.get? c = some cell → b = c) →
        ∀ a b d e cell recipe, Match s a b d e cell recipe → ¬ (t.Alive a ∧ t.Alive b)) := by
  obtain ⟨found, t, done, ran, _, yields⟩ := run_yields s placed known fresh
  have left (id : EntityId) (alive : t.Alive id) : id ∉ used found := fun taken => by
    rw [State.Alive, EntityMap.contains, yields.definitions.lost id taken] at alive
    cases alive
  have screened (a b : EntityId) (d e : Definition) (cell : Cell) (recipe : Recipe)
      (matched : Match s a b d e cell recipe) (first : t.Alive a) (second : t.Alive b) :=
    match_screened s found done a b d e cell recipe matched (left a first) (left b second)
  refine ⟨found, t, done, ran, screened, fun alone a b d e cell recipe matched both => ?_⟩
  obtain ⟨c, screens⟩ := screened a b d e cell recipe matched both.1 both.2
  obtain ⟨_, m, _, second, _⟩ := matched.nouns
  obtain ⟨_, f, _, k, _, other, _⟩ := screens.clash
  have same := alone b c e f m k cell second other matched.there screens.there
  exact absurd screens.lower (same ▸ Int.lt_irrefl b)

def buried : State :=
  .ofTiles ⟨2, 1⟩ [⟨1, "obj-fire", ⟨0, 0⟩⟩, ⟨2, "obj-rock", ⟨1, 0⟩⟩, ⟨3, "obj-mountain", ⟨1, 0⟩⟩] .none none

theorem fire_beside_mountain :
    ∃ d e recipe, Match buried 1 3 d e ⟨1, 0⟩ recipe ∧ recipe.output = "obj-volcano" :=
  ⟨_, _, _, ⟨⟨"fire", "mountain", ⟨rfl, rfl, rfl⟩, ⟨rfl, rfl, rfl⟩, rfl⟩, ⟨⟨0, 0⟩, rfl, by decide⟩, rfl, rfl⟩, rfl⟩

theorem rock_screens_mountain :
    ∃ found c, run buried = .ok buried ∧ buried.Alive 1 ∧ buried.Alive 3 ∧ Screens buried found 1 3 ⟨1, 0⟩ c := by
  obtain ⟨found, t, _, ran, screened, _⟩ := fusion_misses_screened buried (State.of_tiles_placed _ _ _ _)
    (State.of_tiles_known _ _ _ _ (by decide)) (State.of_tiles_fresh _ _ _ _ (by decide))
  have still : run buried = .ok buried := rfl
  obtain rfl : buried = t := Except.ok.inj (still.symm.trans ran)
  obtain ⟨d, e, recipe, matched, _⟩ := fire_beside_mountain
  obtain ⟨c, screens⟩ := screened 1 3 d e ⟨1, 0⟩ recipe matched rfl rfl
  exact ⟨found, c, ran, rfl, rfl, screens⟩

-- Fire and mountain are left side by side, though they make up a volcano.
theorem mountain_overlooked :
    run buried = .ok buried ∧ buried.Alive 1 ∧ buried.Alive 3 ∧
      ∃ d e recipe, Match buried 1 3 d e ⟨1, 0⟩ recipe ∧ recipe.output = "obj-volcano" :=
  ⟨rfl, rfl, rfl, fire_beside_mountain⟩

end KanjiPuzzle.Fusion
