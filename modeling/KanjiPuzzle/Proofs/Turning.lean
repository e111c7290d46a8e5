import KanjiPuzzle.Proofs.Occupancy
import KanjiPuzzle.Proofs.Settling

set_option autoImplicit false

/- Turning all at once. What an object becomes is a matter of the board as it was read, so nothing is turned twice and
   things may change places; and all that turned from one noun to another is told in one event. -/
namespace KanjiPuzzle.Transform

-- All the objects of one noun that become those of another, and what is told of them.
structure Turning where
  source : Noun
  target : Noun
  ids : List EntityId
  event : Event

structure Turning.Tells (s : State) (turning : Turning) : Prop where
  members : ∀ id, id ∈ turning.ids ↔ ∃ d object, s.Destined id d turning.source turning.target object
  ascending : turning.ids.Pairwise (· < ·)
  kind : turning.event.kind = .transform
  cells : turning.event.cells.map some = turning.ids.map s.positions.get?
  message : ∃ first d object, turning.ids.head? = some first ∧
    s.Destined first d turning.source turning.target object ∧
    turning.event.message = d.glyph ++ " → " ++ object.glyph ++
      if 1 < turning.ids.length then " x" ++ toString turning.ids.length else ""

structure Told (s : State) (told : List Turning) : Prop where
  tells : ∀ turning ∈ told, turning.Tells s
  complete : ∀ id d source target object, s.Destined id d source target object →
    ∃ turning ∈ told, turning.source = source ∧ turning.target = target
  distinct : (told.map fun turning => (turning.source, turning.target)).Nodup
  order : told.Pairwise fun first later => ∃ a b, first.ids.head? = some a ∧ later.ids.head? = some b ∧ a < b

theorem run_answers (s : State) (grounded : s.Grounded) (announce : Bool) : ∃ t, run s announce = .ok t := by
  rw [run]
  split
  · exact ⟨s, rfl⟩
  · obtain ⟨changes, looked, _⟩ := Attempt.each_answers (fun _ => True) (change? s) s.definitions.ids fun id member => by
      obtain ⟨change, answered, _⟩ := change_answers { s with rules := [] } grounded id ((s.alive_iff id).mpr member)
      exact ⟨change, answered, trivial⟩
    rw [looked]
    exact ⟨_, rfl⟩

theorem apply_kept (s : State) (changes : List Change) (id : EntityId) (spared : ∀ c ∈ changes, c.id ≠ id) :
    (apply s changes).definitions.get? id = s.definitions.get? id := by
  rw [apply]
  generalize s.definitions = definitions
  induction changes generalizing definitions with
  | nil => rfl
  | cons c rest ih =>
      obtain ⟨other, others⟩ := List.forall_mem_cons.mp spared
      exact (ih others _).trans ((definitions.get_insert c.id id c.definition).trans (if_neg other))

def keyed (changes : List Change) : List ((Noun × Noun) × Change) := changes.map fun c => ((c.source, c.target), c)

def summaryOf (group : (Noun × Noun) × List Change) : Summary :=
  ⟨group.1.1, group.1.2, (group.2.head?.map Change.message).getD "", group.2.map Change.cell⟩

def turningOf (group : (Noun × Noun) × List Change) : Turning :=
  ⟨group.1.1, group.1.2, group.2.map Change.id, (summaryOf group).event⟩

theorem add_change_enlists (c : Change) (groups : List ((Noun × Noun) × List Change))
    (filled : ∀ group ∈ groups, group.2 ≠ []) :
    addChange c (groups.map summaryOf) = (Gathering.enlist (c.source, c.target) c groups).map summaryOf := by
  induction groups with
  | nil => rfl
  | cons group rest ih =>
      obtain ⟨first, others⟩ := List.forall_mem_cons.mp filled
      have nouns : (summaryOf group).source = c.source ∧ (summaryOf group).target = c.target ↔
          group.1 = (c.source, c.target) := ⟨fun both => Prod.ext both.1 both.2, fun same => Prod.ext_iff.mp same⟩
      rw [List.map_cons, addChange, Gathering.enlist]
      by_cases same : group.1 = (c.source, c.target)
      · obtain ⟨earlier, more, members⟩ := List.exists_cons_of_ne_nil first
        rw [if_pos (nouns.mpr same), if_pos same]
        simp [summaryOf, members]
      · rw [if_neg (mt nouns.mp same), if_neg same, ih others]
        rfl

theorem summaries_gathered (changes : List Change) (groups : List ((Noun × Noun) × List Change))
    (filled : ∀ group ∈ groups, group.2 ≠ []) :
    changes.foldl (fun summaries c => addChange c summaries) (groups.map summaryOf) =
      ((keyed changes).foldl (fun groups entry => Gathering.enlist entry.1 entry.2 groups) groups).map summaryOf := by
  induction changes generalizing groups with
  | nil => rfl
  | cons c rest ih =>
      rw [List.foldl_cons, add_change_enlists c groups filled]
      exact ih _ (Gathering.enlist_filled _ c groups filled)

theorem share_keyed (changes : List Change) (key : Noun × Noun) :
    Gathering.share key (keyed changes) = changes.filter fun c => decide ((c.source, c.target) = key) := by
  rw [Gathering.share, keyed, List.filter_map, List.map_map]
  exact List.map_id _

section Changes

variable (s : State) (grounded : s.Grounded) (changes : List Change)
  (asked : ∀ c, c ∈ changes ↔ ∃ id, s.Alive id ∧ change? s id = .ok (some c))
include asked

theorem change_destined (c : Change) (member : c ∈ changes) :
    ∃ d object, s.Destined c.id d c.source c.target object ∧ c.message = d.glyph ++ " → " ++ object.glyph ∧
      s.positions.get? c.id = some c.cell := by
  obtain ⟨_, _, changed⟩ := (asked c).mp member
  obtain ⟨rfl, d, object, destined, _, message, stands⟩ := change_made s _ c changed
  exact ⟨d, object, destined, message, stands⟩

include grounded

theorem destined_change (id : EntityId) (d : Definition) (source target : Noun) (object : Definition)
    (destined : s.Destined id d source target object) :
    ∃ c ∈ changes, c.id = id ∧ c.definition = object.id ∧ (c.source, c.target) = (source, target) := by
  obtain ⟨cell, _, changed⟩ := destined_changes s grounded id d source target object destined
  exact ⟨_, (asked _).mpr ⟨id, s.definition_alive id d destined.embodies.defined, changed⟩, rfl, rfl, rfl⟩

theorem turning_tells (ascending : (changes.map Change.id).Pairwise (· < ·)) (key : Noun × Noun)
    (filled : changes.filter (fun c => decide ((c.source, c.target) = key)) ≠ []) :
    (turningOf (key, changes.filter fun c => decide ((c.source, c.target) = key))).Tells s := by
  have listed (c : Change) : c ∈ changes.filter (fun c => decide ((c.source, c.target) = key)) ↔
      c ∈ changes ∧ (c.source, c.target) = key := by rw [List.mem_filter, decide_eq_true_iff]
  constructor
  · intro id
    rw [turningOf, List.mem_map]
    constructor
    · rintro ⟨c, member, rfl⟩
      obtain ⟨inside, rfl⟩ := (listed c).mp member
      obtain ⟨d, object, destined, _⟩ := change_destined s changes asked c inside
      exact ⟨d, object, destined⟩
    · rintro ⟨d, object, destined⟩
      obtain ⟨c, member, same, _, nouns⟩ := destined_change s grounded changes asked id d key.1 key.2 object destined
      exact ⟨c, (listed c).mpr ⟨member, nouns⟩, same⟩
  · exact ascending.sublist (List.filter_sublist.map Change.id)
  · rfl
  · simp only [turningOf, summaryOf, Summary.event, List.map_map]
    refine List.map_congr_left fun c member => ?_
    obtain ⟨_, _, _, _, stands⟩ := change_destined s changes asked c ((listed c).mp member).1
    exact stands.symm
  · obtain ⟨c, first⟩ := Option.isSome_iff_exists.mp (List.isSome_head?.mpr filled)
    obtain ⟨inside, rfl⟩ := (listed c).mp (List.mem_of_mem_head? first)
    obtain ⟨d, object, destined, message, _⟩ := change_destined s changes asked c inside
    refine ⟨c.id, d, object, ?_, destined, ?_⟩
    · rw [turningOf, List.head?_map, first]
      rfl
    · simp only [turningOf, summaryOf, Summary.event, first, Option.map_some, Option.getD_some, message, List.length_map]

theorem changes_told (ascending : (changes.map Change.id).Pairwise (· < ·)) :
    Told s ((Gathering.gather (keyed changes)).map turningOf) := by
  have rising : (keyed changes).Pairwise fun first later => first.2.id < later.2.id :=
    List.pairwise_map.mpr (List.pairwise_map.mp ascending)
  have gathers := Gathering.gather_gathers (fun first later : Change => first.id < later.id) (keyed changes) rising
  constructor
  · intro turning member
    obtain ⟨⟨key, members⟩, listed, rfl⟩ := List.mem_map.mp member
    have filled : members ≠ [] := Gathering.gathers_filled _ _ _ gathers (key, members) listed
    cases (gathers.shares (key, members) listed).trans (share_keyed changes key)
    exact turning_tells s grounded changes asked ascending key filled
  · intro id d source target object destined
    obtain ⟨c, member, _, _, nouns⟩ := destined_change s grounded changes asked id d source target object destined
    have came : (source, target) ∈ (keyed changes).map Prod.fst :=
      List.mem_map.mpr ⟨_, List.mem_map.mpr ⟨c, member, rfl⟩, nouns⟩
    obtain ⟨group, listed, key⟩ := List.mem_map.mp ((gathers.keys (source, target)).mpr came)
    exact ⟨turningOf group, List.mem_map.mpr ⟨group, listed, rfl⟩, congrArg Prod.fst key, congrArg Prod.snd key⟩
  · rw [List.map_map]
    exact gathers.distinct
  · refine List.pairwise_map.mpr (gathers.order.imp fun order => ?_)
    obtain ⟨a, b, first, later, less⟩ := order
    exact ⟨a.id, b.id, by rw [turningOf, List.head?_map, first]; rfl, by rw [turningOf, List.head?_map, later]; rfl, less⟩

end Changes

theorem transforms_at_once (s : State) (placed : ∀ id, s.positions.contains id = s.definitions.contains id)
    (known : ∀ id definition, s.definitions.get? id = some definition → s.catalog.contains definition = true)
    (announce : Bool) :
    ∃ t, run s announce = .ok t ∧
      (∀ id d source target object, s.Destined id d source target object → t.definitions.get? id = some object.id) ∧
      (∀ id, ¬ s.Due id → t.definitions.get? id = s.definitions.get? id) ∧
      t = { s with definitions := t.definitions, events := t.events } ∧
      ∃ told, Told s told ∧ t.events = s.events ++ if announce then told.map Turning.event else [] := by
  have grounded : s.Grounded := ⟨placed, known, fun _ member => nomatch member⟩
  obtain ⟨t, done⟩ := run_answers s grounded announce
  obtain ⟨changes, ascending, asked, rfl⟩ := run_changes s t announce done
  refine ⟨_, done, ?_, ?_, rfl, _, changes_told s grounded changes asked ascending, ?_⟩
  · intro id d source target object destined
    obtain ⟨c, member, rfl, becomes, _⟩ := destined_change s grounded changes asked id d source target object destined
    rw [← becomes]
    exact apply_changed s changes asked c member
  · intro id still
    refine apply_kept s changes id fun c member same => still ?_
    obtain ⟨d, object, destined, _⟩ := change_destined s changes asked c member
    exact (s.due_iff id).mpr ⟨d, c.source, c.target, object, same ▸ destined⟩
  · have summaries := summaries_gathered changes [] (by simp)
    rw [List.map_nil] at summaries
    rw [summaries, List.map_map, List.map_map]
    rfl

def carousel : State :=
  .ofTiles ⟨4, 2⟩
    [⟨1, "obj-tree", ⟨0, 0⟩⟩, ⟨2, "obj-rock", ⟨1, 0⟩⟩, ⟨3, "obj-tree", ⟨2, 0⟩⟩, ⟨4, "obj-fire", ⟨3, 0⟩⟩,
      ⟨5, "obj-water", ⟨0, 1⟩⟩, ⟨6, "txt-tree", ⟨1, 1⟩⟩, ⟨7, "obj-human", ⟨2, 1⟩⟩, ⟨8, "obj-gate", ⟨3, 1⟩⟩]
    ⟨[], [("tree", "rock"), ("rock", "tree"), ("fire", "water"), ("water", "volcano"), ("human", "human"),
      ("gate", "ghost")]⟩ none

theorem carousel_turns :
    ∃ t told, run carousel true = .ok t ∧ Told carousel told ∧ t.events = told.map Turning.event ∧
      t.definitions.entries = [(1, "obj-rock"), (2, "obj-tree"), (3, "obj-rock"), (4, "obj-water"), (5, "obj-volcano"),
        (6, "txt-tree"), (7, "obj-human"), (8, "obj-gate")] ∧
      t.events = [⟨.transform, "木 → 石 x2", [⟨0, 0⟩, ⟨2, 0⟩]⟩, ⟨.transform, "石 → 木", [⟨1, 0⟩]⟩,
        ⟨.transform, "火 → 水", [⟨3, 0⟩]⟩, ⟨.transform, "水 → 火山", [⟨0, 1⟩]⟩] := by
  obtain ⟨t, done, _, _, _, told, tells, events⟩ := transforms_at_once carousel (State.of_tiles_placed _ _ _ _)
    (State.of_tiles_known _ _ _ _ (by decide)) true
  refine ⟨t, told, done, tells, events, ?_, ?_⟩
  · exact Except.ok.inj (congrArg (Except.map fun t : State => t.definitions.entries) done.symm)
  · exact Except.ok.inj (congrArg (Except.map State.events) done.symm)

end KanjiPuzzle.Transform
