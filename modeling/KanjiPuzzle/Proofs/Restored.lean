import KanjiPuzzle.Proofs.Nameless
import KanjiPuzzle.Proofs.Rewards
import KanjiPuzzle.View.Counts
import KanjiPuzzle.View.Picture

set_option autoImplicit false

/- A game that is kept as a level and taken up again. The level leaves out what lies off the board and numbers the rest
   anew, in the same order; and what a board says and shows is a matter of that order alone, not of the numbers. -/
namespace KanjiPuzzle

namespace EntityMap

variable {α : Type}

theorem put_last (id : EntityId) (value : α) (entries : List (EntityId × α)) (last : ∀ entry ∈ entries, entry.1 < id) :
    put id value entries = entries ++ [(id, value)] := by
  induction entries with
  | nil => rfl
  | cons head rest ih =>
      rcases head with ⟨key, old⟩
      have before : key < id := last (key, old) List.mem_cons_self
      rw [put, if_neg (Int.not_lt.mpr (Int.le_of_lt before)), if_neg (Int.ne_of_gt before),
        ih fun entry member => last entry (List.mem_cons_of_mem _ member)]
      rfl

-- By induction over what is still to come: all that is in the map so far comes before it.
theorem fold_insert_entries (entries : List (EntityId × α)) (m : EntityMap α)
    (ascending : (m.entries ++ entries).Pairwise fun a b => a.1 < b.1) :
    (entries.foldl (fun m entry => m.insert entry.1 entry.2) m).entries = m.entries ++ entries := by
  induction entries generalizing m with
  | nil => exact (List.append_nil m.entries).symm
  | cons entry rest ih =>
      have placed : (m.insert entry.1 entry.2).entries = m.entries ++ [entry] :=
        put_last entry.1 entry.2 m.entries fun old member =>
          (List.pairwise_append.mp ascending).2.2 old member entry List.mem_cons_self
      have regrouped : m.entries ++ entry :: rest = (m.insert entry.1 entry.2).entries ++ rest := by simp [placed]
      rw [List.foldl_cons, regrouped]
      exact ih (m.insert entry.1 entry.2) (regrouped ▸ ascending)

theorem of_list_entries (entries : List (EntityId × α)) (ascending : entries.Pairwise fun a b => a.1 < b.1) :
    (ofList entries).entries = entries := fold_insert_entries entries empty ascending

end EntityMap

def Catalog.placeOf (c : Catalog) (definition : DefinitionId) : Attempt Nat :=
  match c.index? definition with
  | some k => .ok k
  | none => .error (.noEntry definition)

namespace State

theorem stored_of_id (s : State) (id : EntityId) (definition : DefinitionId)
    (stored : s.definitionIdOf id = .ok definition) : s.definitions.get? id = some definition := by
  rw [definitionIdOf] at stored
  cases found : s.definitions.get? id with
  | none => simp [found] at stored
  | some other => simpa [found] using stored

section Kept

variable (s : State) (l : Level) (kept : s.toLevel = .ok l)
include kept

theorem kept_frame : l.heading = s.heading ∧ l.extent = s.extent := by
  obtain ⟨_, _, made⟩ := Attempt.bind_ok _ _ _ kept
  cases made
  exact ⟨rfl, rfl⟩

theorem kept_placements :
    Attempt.each (fun entry : EntityId × Cell => do .ok ⟨← s.definitionIdOf entry.1, entry.2⟩)
      (s.positions.entries.filter fun entry => s.onBoard entry.2) = Except.ok l.placements := by
  obtain ⟨_, answered, made⟩ := Attempt.bind_ok _ _ _ kept
  cases made
  exact answered

theorem kept_placement (p : Placement) (member : p ∈ l.placements) :
    s.onBoard p.cell = true ∧ ∃ id, s.definitions.get? id = some p.definition := by
  obtain ⟨entry, listed, answer⟩ := Attempt.each_mem _ _ _ (s.kept_placements l kept) p member
  obtain ⟨definition, stored, made⟩ := Attempt.bind_ok _ _ _ answer
  cases made
  exact ⟨(List.mem_filter.mp listed).2, entry.1, s.stored_of_id entry.1 definition stored⟩

end Kept

theorem seen_each {γ : Type} (s : State) (seen : List (EntityId × Cell)) (placements : List Placement)
    (made : Attempt.each (fun entry : EntityId × Cell => do .ok ⟨← s.definitionIdOf entry.1, entry.2⟩) seen =
      Except.ok placements) (look : EntityId × Cell → Attempt γ) (shown : Placement → Attempt γ)
    (same : ∀ id definition cell, s.definitions.get? id = some definition → look (id, cell) = shown ⟨definition, cell⟩) :
    Attempt.each look seen = Attempt.each shown placements := by
  refine Attempt.each_each _ _ _ _ _ made fun entry _ p answer => ?_
  obtain ⟨definition, stored, done⟩ := Attempt.bind_ok _ _ _ answer
  cases done
  exact same entry.1 definition entry.2 (s.stored_of_id entry.1 definition stored)

section Views

variable (host : Host) (s t : State) (l : Level) (kept : s.toLevel = .ok l) (again : t.toLevel = .ok l)
  (catalog : t.catalog = s.catalog)
include kept again catalog

theorem counts_alike : t.counts host = s.counts host := by
  have shown (u : State) (kept : u.toLevel = .ok l) := u.seen_each _ l.placements (u.kept_placements l kept)
    (fun entry => do .ok (entry.2, ← u.placeInCatalog entry.1))
    (fun p => do .ok (p.cell, ← u.catalog.placeOf p.definition)) fun id definition cell stored => by
      refine congrArg (· >>= fun place => Except.ok (cell, place)) ?_
      rw [placeInCatalog, definitionIdOf, stored]
      rfl
  rw [counts, counts]
  dsimp only
  rw [shown s kept, shown t again, ← (s.kept_frame l kept).2, ← (t.kept_frame l again).2, catalog]

theorem picture_alike : t.picture host = s.picture host := by
  have shown (u : State) (kept : u.toLevel = .ok l) := u.seen_each _ l.placements.reverse
    (Attempt.each_reverse _ _ _ (u.kept_placements l kept)) u.glyphAt
    (fun p => do .ok (p.cell, (← u.catalog.get p.definition).glyph)) fun id definition cell stored => by
      simp only [glyphAt, definitionOf, definitionIdOf, stored, bind, Except.bind]
  rw [picture, picture]
  dsimp only
  rw [List.filter_reverse, List.filter_reverse, shown s kept, shown t again, ← (s.kept_frame l kept).2,
    ← (t.kept_frame l again).2, catalog]

end Views

theorem ids_alike (s : State) (placed : ∀ id, s.positions.contains id = s.definitions.contains id) :
    s.definitions.ids = s.positions.ids := by
  refine List.Perm.eq_of_pairwise ?_ s.definitions.ids_ascending s.positions.ids_ascending ?_
  · exact fun a b _ _ less more => absurd (Int.lt_trans less more) (Int.lt_irrefl a)
  · have nodup {α : Type} (m : EntityMap α) : m.ids.Nodup := m.ids_ascending.imp Int.ne_of_lt
    refine (List.perm_ext_iff_of_nodup (nodup _) (nodup _)).mpr fun id => ?_
    rw [← EntityMap.contains_iff, ← EntityMap.contains_iff, placed]

theorem entry_defined (s : State) (placed : ∀ id, s.positions.contains id = s.definitions.contains id)
    (entry : EntityId × Cell) (member : entry ∈ s.positions.entries) :
    ∃ definition, s.definitionIdOf entry.1 = .ok definition := by
  have listed : entry.1 ∈ s.positions.ids := List.mem_map.mpr ⟨entry, member, rfl⟩
  have alive := (placed entry.1).symm.trans ((s.positions.contains_iff entry.1).mpr listed)
  obtain ⟨definition, stored⟩ := Option.isSome_iff_exists.mp alive
  exact ⟨definition, by rw [definitionIdOf, stored]⟩

theorem tokens_kept (s : State) (placed : ∀ id, s.positions.contains id = s.definitions.contains id) (l : Level)
    (kept : s.toLevel = .ok l) :
    s.tokens.map TokenBoard.nameless =
      Attempt.through (fun b p => TokenBoard.place s.catalog b ⟨0, p.definition, p.cell⟩) (TokenBoard.empty l.extent)
        l.placements := by
  have tiles (entry : EntityId × Cell) (member : entry ∈ s.positions.entries) :
      s.tileOf entry.1 = (s.definitionIdOf entry.1).map fun definition => ⟨entry.1, definition, entry.2⟩ := by
    have stands := (s.positions.mem_entries_iff entry.1 entry.2).mp member
    rw [tileOf, cellOf, stands]
    cases s.definitionIdOf entry.1 <;> rfl
  rw [tokens, (s.kept_frame l kept).2, s.ids_alike placed, EntityMap.ids, Attempt.through_map,
    Attempt.through_filter (fun b => b.extent = s.extent) _ (fun entry => s.onBoard entry.2) _ _ rfl]
  · refine Attempt.through_look TokenBoard.nameless _ _ _ _ _ (s.kept_placements l kept) ?_ _
    intro b entry member p answer
    obtain ⟨definition, stored, made⟩ := Attempt.bind_ok _ _ _ answer
    cases made
    rw [tiles entry (List.mem_filter.mp member).1, stored]
    exact TokenBoard.nameless_place s.catalog b ⟨entry.1, definition, entry.2⟩
  · intro b next entry same answer
    obtain ⟨tile, _, placed⟩ := Attempt.bind_ok _ _ _ answer
    exact (TokenBoard.place_extent s.catalog b next tile placed).trans same
  · intro b entry member same off
    obtain ⟨definition, stored⟩ := s.entry_defined placed entry member
    rw [tiles entry member, stored]
    exact if_neg (by rw [same]; exact Bool.eq_false_iff.mp off)

theorem inside_shown (s : State) (inside : s.Inside) :
    (s.positions.entries.filter fun entry => s.onBoard entry.2) = s.positions.entries :=
  List.filter_eq_self.mpr fun entry member =>
    inside entry.1 entry.2 ((s.positions.mem_entries_iff entry.1 entry.2).mp member)

theorem kept_answers (s : State) (placed : ∀ id, s.positions.contains id = s.definitions.contains id) :
    ∃ l, s.toLevel = .ok l := by
  obtain ⟨placements, answered, _⟩ := Attempt.each_answers (fun _ => True)
    (fun entry : EntityId × Cell => do .ok (⟨← s.definitionIdOf entry.1, entry.2⟩ : Placement))
    (s.positions.entries.filter fun entry => s.onBoard entry.2) fun entry member => by
      obtain ⟨definition, stored⟩ := s.entry_defined placed entry (List.mem_filter.mp member).1
      exact ⟨⟨definition, entry.2⟩, by rw [stored]; rfl, trivial⟩
  rw [toLevel]
  simp only [bind, Except.bind] at answered ⊢
  rw [answered]
  exact ⟨_, rfl⟩

end State

namespace Level

theorem numbered_ascending (first : EntityId) (placements : List Placement) :
    (numbered first placements).Pairwise fun a b => a.1 < b.1 := by
  induction placements generalizing first with
  | nil => exact .nil
  | cons p rest ih =>
      refine List.pairwise_cons.mpr ⟨fun entry member => ?_, ih (first + 1)⟩
      exact Int.lt_of_lt_of_le (Int.lt_succ first) (numbered_bounds (first + 1) rest entry member).1

theorem numbered_placements (first : EntityId) (placements : List Placement) :
    (numbered first placements).map Prod.snd = placements := by
  induction placements generalizing first with
  | nil => rfl
  | cons p rest ih => rw [numbered, List.map_cons, ih]

theorem numbered_entries {α : Type} (placements : List Placement) (part : Placement → α) :
    (EntityMap.ofList ((numbered 1 placements).map fun entry => (entry.1, part entry.2))).entries =
      (numbered 1 placements).map fun entry => (entry.1, part entry.2) :=
  EntityMap.of_list_entries _ (List.pairwise_map.mpr (numbered_ascending 1 placements))

theorem numbered_length (first : EntityId) (placements : List Placement) :
    (numbered first placements).length = placements.length := by
  rw [← List.length_map Prod.snd, numbered_placements]

def shown (l : Level) : Level := { l with placements := l.placements.filter fun p => l.extent.contains p.cell }

theorem shown_inside (l : Level) (inside : l.AllInside) : l.shown = l := by
  rw [shown, List.filter_eq_self.mpr inside]

theorem built_shown (l : Level) (catalog : Catalog) (t : State) (built : l.toState catalog = .ok t) :
    t.toLevel = .ok l.shown := by
  obtain ⟨_, _, made⟩ := Attempt.bind_ok _ _ _ built
  cases made
  have kept : ((numbered 1 l.placements).filter fun entry => l.extent.contains entry.2.cell).map Prod.snd =
      l.shown.placements := by
    rw [shown, ← numbered_placements 1 l.placements, List.filter_map, numbered_placements]
    rfl
  rw [State.toLevel]
  simp only [numbered_entries l.placements Placement.cell, List.filter_map]
  rw [Attempt.each_map, Attempt.each_total _ Prod.snd]
  · exact congrArg (fun placements => Except.ok (Level.mk l.heading l.extent placements)) kept
  · intro entry member
    have stored := (EntityMap.mem_entries_iff (EntityMap.ofList ((numbered 1 l.placements).map fun entry =>
      (entry.1, entry.2.definition))) entry.1 entry.2.definition).mp (by
        rw [numbered_entries l.placements Placement.definition]
        exact List.mem_map.mpr ⟨entry, (List.mem_filter.mp member).1, rfl⟩)
    simp only [State.definitionIdOf, stored, bind, Except.bind]

theorem built_kept (l : Level) (catalog : Catalog) (inside : l.AllInside) (t : State)
    (built : l.toState catalog = .ok t) : t.toLevel = .ok l := by
  rw [l.built_shown catalog t built, l.shown_inside inside]

theorem level_restored (l : Level) (catalog : Catalog) (loadable : l.Loadable catalog) :
    ∃ s, l.toState catalog = .ok s ∧
      s.toLevel = .ok ⟨l.heading, l.extent, l.placements.filter fun p =>
        decide ((0 ≤ p.cell.x ∧ p.cell.x < l.extent.width) ∧ 0 ≤ p.cell.y ∧ p.cell.y < l.extent.height)⟩ ∧
      ((∀ p ∈ l.placements, (0 ≤ p.cell.x ∧ p.cell.x < l.extent.width) ∧ 0 ≤ p.cell.y ∧ p.cell.y < l.extent.height) →
        s.toLevel = .ok l) := by
  obtain ⟨s, built, _⟩ := l.to_state_answers catalog loadable
  have restored := l.built_shown catalog s built
  refine ⟨s, built, ?_, fun inside => ?_⟩
  · have same : (fun p : Placement => l.extent.contains p.cell) = fun p =>
        decide ((0 ≤ p.cell.x ∧ p.cell.x < l.extent.width) ∧ 0 ≤ p.cell.y ∧ p.cell.y < l.extent.height) := by
      funext p
      rw [Bool.eq_iff_iff, decide_eq_true_iff, Extent.contains_iff]
    rw [restored, shown, same]
  · exact l.built_kept catalog (fun p member => (l.extent.contains_iff p.cell).mpr (inside p member)) s built

def flotsam : Level :=
  ⟨⟨"flotsam", "Flotsam", .text "Look ashore."⟩, ⟨3, 2⟩, [⟨"obj-tree", ⟨0, 0⟩⟩, ⟨"obj-rock", ⟨3, 1⟩⟩, ⟨"obj-tree", ⟨0, 0⟩⟩,
    ⟨"txt-tree", ⟨-1, 0⟩⟩, ⟨"obj-fire", ⟨2, 1⟩⟩, ⟨"obj-rock", ⟨2, 1⟩⟩]⟩

def ashore : Level :=
  { flotsam with placements := [⟨"obj-tree", ⟨0, 0⟩⟩, ⟨"obj-tree", ⟨0, 0⟩⟩, ⟨"obj-fire", ⟨2, 1⟩⟩, ⟨"obj-rock", ⟨2, 1⟩⟩] }

theorem flotsam_restored_ashore :
    (flotsam.Loadable .standard ∧ ∃ s, flotsam.toState .standard = .ok s ∧ s.toLevel = .ok ashore) ∧
      ashore.Loadable .standard ∧ ∃ s, ashore.toState .standard = .ok s ∧ s.toLevel = .ok ashore := by
  have drifting : flotsam.Loadable .standard := by
    unfold Loadable
    decide
  have landed : ashore.Loadable .standard := by
    unfold Loadable
    decide
  obtain ⟨s, built, restored, _⟩ := level_restored flotsam .standard drifting
  obtain ⟨t, again, _, restores⟩ := level_restored ashore .standard landed
  exact ⟨⟨drifting, s, built, restored⟩, landed, t, again, restores (by decide)⟩

end Level

namespace State

theorem picture_answers (host : Host) (s : State) (sound : s.Sound) (rows : List (List String))
    (granted : Picture.canvas host s.extent = .ok rows) : ∃ text, s.picture host = .ok text := by
  obtain ⟨glyphs, answered, _⟩ := Attempt.each_answers (fun _ => True) s.glyphAt
    (s.positions.entries.reverse.filter fun entry => s.onBoard entry.2) fun entry member => by
      have listed := List.mem_reverse.mp (List.mem_filter.mp member).1
      have stands := (s.positions.mem_entries_iff entry.1 entry.2).mp listed
      obtain ⟨d, defined⟩ := s.definition_answers sound entry.1 (s.placed_alive sound entry.1 entry.2 stands)
      exact ⟨(entry.2, d.glyph), by rw [glyphAt, defined]; rfl, trivial⟩
  rw [picture, granted]
  simp only [answered, bind, Except.bind]
  exact ⟨_, rfl⟩

theorem board_restored (host : Host) (s : State)
    (placed : ∀ id, s.positions.contains id = s.definitions.contains id)
    (known : ∀ id definition, s.definitions.get? id = some definition → s.catalog.contains definition = true) :
    ∃ l t read again, s.toLevel = .ok l ∧ l.toState s.catalog = .ok t ∧ s.tokens = .ok read ∧ t.tokens = .ok again ∧
      again.rules = read.rules ∧ t.counts host = s.counts host ∧ t.picture host = s.picture host ∧ t.toLevel = .ok l ∧
      (host.zeros (Counts.measures s.extent s.catalog.size) = .ok () → ∃ board, s.counts host = .ok board) ∧
      (∀ rows, Picture.canvas host s.extent = .ok rows → ∃ text, s.picture host = .ok text) := by
  obtain ⟨l, kept⟩ := s.kept_answers placed
  have loadable : l.Loadable s.catalog := fun p member => by
    obtain ⟨_, id, stored⟩ := s.kept_placement l kept p member
    exact known id p.definition stored
  have inside : l.AllInside := fun p member => by
    rw [(s.kept_frame l kept).2]
    exact (s.kept_placement l kept p member).1
  obtain ⟨t, built, sound, _⟩ := l.to_state_answers s.catalog loadable
  have catalog := (l.to_state_fresh s.catalog t built).1
  have restored := l.built_kept s.catalog inside t built
  -- The rules that are in force do not matter here.
  have bare : State.Sound { s with rules := [] } := ⟨placed, known, by simp⟩
  obtain ⟨read, reads⟩ : ∃ read, s.tokens = .ok read := tokens_answer { s with rules := [] } bare
  obtain ⟨again, rereads⟩ := t.tokens_answer sound
  have same : again.nameless = read.nameless := by
    have first := s.tokens_kept placed l kept
    have second := t.tokens_kept sound.placed l restored
    rw [reads] at first
    rw [rereads, catalog, ← first] at second
    exact Except.ok.inj second
  refine ⟨l, t, read, again, kept, built, reads, rereads, ?_, s.counts_alike host t l kept restored catalog,
    s.picture_alike host t l kept restored catalog, restored, counts_answer host { s with rules := [] } bare,
    picture_answers host { s with rules := [] } bare⟩
  rw [← again.nameless_rules, same, read.nameless_rules]

def ragged : State where
  heading := ⟨"ragged", "Ragged", .null⟩
  extent := ⟨3, 2⟩
  catalog := .standard
  definitions := .ofList [(2, "txt-push"), (5, "txt-tree"), (9, "txt-topic"), (11, "obj-rock"), (14, "obj-tree"),
    (20, "obj-fire")]
  positions := .ofList [(2, ⟨2, 0⟩), (5, ⟨0, 0⟩), (9, ⟨1, 0⟩), (11, ⟨1, 1⟩), (14, ⟨1, 1⟩), (20, ⟨3, 1⟩)]
  starts := .empty
  nextId := 23
  rules := []
  effects := .none
  player := none
  goal := none
  moves := 4
  won := false
  events := []

theorem ragged_board_restored :
    (∀ id, ragged.positions.contains id = ragged.definitions.contains id) ∧
      (∀ id definition, ragged.definitions.get? id = some definition →
        ragged.catalog.contains definition = true) ∧
      ∃ l t again, ragged.toLevel = .ok l ∧ l.toState .standard = .ok t ∧ t.definitions.ids = [1, 2, 3, 4, 5] ∧
        t.tokens = .ok again ∧ again.rules = [⟨"tree", .property .push, .horizontal, [⟨0, 0⟩, ⟨1, 0⟩, ⟨2, 0⟩]⟩] ∧
        t.counts .ample = ragged.counts .ample ∧ t.picture .ample = .ok "木は押\n.石." ∧ t.toLevel = .ok l := by
  have placed : ∀ id, ragged.positions.contains id = ragged.definitions.contains id := fun id => by
    refine Bool.eq_iff_iff.mpr ?_
    simp [ragged, EntityMap.contains_of_list_iff]
  have known : ∀ id definition, ragged.definitions.get? id = some definition →
      ragged.catalog.contains definition = true := fun id definition stored => by
    have listed := EntityMap.get_of_list _ id definition stored
    simp only [List.mem_cons, Prod.mk.injEq, List.not_mem_nil, or_false] at listed
    rcases listed with ⟨_, rfl⟩ | ⟨_, rfl⟩ | ⟨_, rfl⟩ | ⟨_, rfl⟩ | ⟨_, rfl⟩ | ⟨_, rfl⟩ <;> rfl
  have numbered : (do
      let l ← ragged.toLevel
      let t ← l.toState .standard
      .ok t.definitions.ids) = Except.ok (ε := Fault) [1, 2, 3, 4, 5] := by rfl
  have spelled : (do
      let read ← ragged.tokens
      .ok read.rules) =
      Except.ok (ε := Fault) [⟨"tree", .property .push, .horizontal, [⟨0, 0⟩, ⟨1, 0⟩, ⟨2, 0⟩]⟩] := by rfl
  have drawn : ragged.picture .ample = .ok "木は押\n.石." := by rfl
  obtain ⟨l, t, read, again, kept, built, reads, rereads, rules, counts, picture, restored, _⟩ :=
    board_restored .ample ragged placed known
  obtain ⟨_, same, numbered⟩ := Attempt.bind_ok _ _ _ numbered
  cases kept.symm.trans same
  obtain ⟨_, same, ids⟩ := Attempt.bind_ok _ _ _ numbered
  cases built.symm.trans same
  rw [reads] at spelled
  exact ⟨placed, known, l, t, again, kept, built, Except.ok.inj ids, rereads, rules.trans (Except.ok.inj spelled),
    counts, picture.trans drawn, restored⟩

end State

end KanjiPuzzle
