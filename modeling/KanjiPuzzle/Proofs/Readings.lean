import KanjiPuzzle.Proofs.Identity
import KanjiPuzzle.Proofs.TileSentences

set_option autoImplicit false

/- The rules in force are those that were read. A turn reads the board once, after the fusion; what is turned or taken
   away from then on does not change the rules before the next reading, though it may have spelled some of them. -/
namespace KanjiPuzzle

namespace State

def Shows (s : State) (tile : Tile) : Prop := s.tileOf tile.id = .ok tile

theorem shows_alive (s : State) (tile : Tile) (shows : s.Shows tile) : s.Alive tile.id := by
  obtain ⟨definition, listed, _⟩ := Attempt.bind_ok _ _ _ shows
  exact s.listed_alive tile.id definition listed

theorem tile_alike (s t : State) (id : EntityId) (definition : t.definitions.get? id = s.definitions.get? id)
    (place : t.positions.get? id = s.positions.get? id) : t.tileOf id = s.tileOf id := by
  rw [tileOf, tileOf, definitionIdOf, definitionIdOf, cellOf, cellOf, definition, place]

theorem tokens_tiles (s : State) (b : TokenBoard) (read : s.tokens = .ok b) :
    ∃ tiles, (∀ tile, s.Shows tile → tile ∈ tiles) ∧ TokenBoard.ofTiles s.extent s.catalog tiles = .ok b := by
  obtain ⟨tiles, asked, placed⟩ := Attempt.through_each (TokenBoard.place s.catalog) s.tileOf s.definitions.ids _ b read
  refine ⟨tiles, fun tile shows => ?_, placed⟩
  exact Attempt.mem_each _ _ _ asked tile.id tile ((s.alive_iff tile.id).mp (s.shows_alive tile shows)) shows

theorem sentence_read (s : State) (b : TokenBoard) (read : s.tokens = .ok b) (tiles : List Tile)
    (shown : ∀ tile ∈ tiles, s.Shows tile) (r : Rule) (origin : Cell) (k : Nat)
    (sentence : TokenBoard.Sentence s.extent s.catalog tiles origin r.axis k r.subject r.term) :
    ∃ rule ∈ b.rules, rule.signature = r.signature := by
  obtain ⟨all, every, placed⟩ := s.tokens_tiles b read
  refine (TokenBoard.signature_spelled_iff s.extent s.catalog all b placed r.signature).mpr ⟨r, rfl, origin, k, ?_⟩
  exact TokenBoard.sentence_mono s.extent s.catalog tiles all origin r.axis k r.subject r.term
    (TokenBoard.covers_of_subset all tiles fun tile member => every tile (shown tile member)) sentence

theorem tokens_alike (s t : State) (extent : t.extent = s.extent) (catalog : t.catalog = s.catalog)
    (definitions : ∀ id, t.definitions.get? id = s.definitions.get? id)
    (places : ∀ id, t.Alive id → t.positions.get? id = s.positions.get? id) : t.tokens = s.tokens := by
  have same := t.definitions.eq_of_get s.definitions definitions
  rw [tokens, tokens, extent, ← same]
  refine Attempt.through_congr _ _ _ (fun b id member => ?_) _
  rw [catalog, s.tile_alike t id (definitions id) (places id ((t.alive_iff id).mpr member))]

structure Remains (board s : State) : Prop where
  extent : s.extent = board.extent
  catalog : s.catalog = board.catalog
  alive : ∀ id, s.Alive id → board.Alive id
  stands : ∀ id, s.Alive id → s.positions.get? id = board.positions.get? id
  becomes : ∀ id, s.Alive id → board.Becomes s id

theorem remains_onward (board s t : State) (remains : board.Remains s) (onward : s.Onward t) : board.Remains t := by
  constructor
  · exact onward.upkeep.extent.trans remains.extent
  · exact onward.upkeep.catalog.trans remains.catalog
  · exact fun id alive => remains.alive id (onward.alive id alive)
  · exact fun id alive => (onward.stands id alive).trans (remains.stands id (onward.alive id alive))
  · intro id alive
    rw [Becomes, Turned, onward.defined id alive]
    exact remains.becomes id (onward.alive id alive)

theorem remains_tokens (board s : State) (remains : board.Remains s)
    (kept : ∀ id, board.Alive id → s.Alive id ∧ s.definitions.get? id = board.definitions.get? id) :
    s.tokens = board.tokens := by
  have definitions (id : EntityId) : s.definitions.get? id = board.definitions.get? id := by
    by_cases before : board.Alive id
    · exact (kept id before).2
    · exact (s.gone_get id fun alive => before (remains.alive id alive)).trans (board.gone_get id before).symm
  exact board.tokens_alike s remains.extent remains.catalog definitions remains.stands

-- The rules in force were read from a board of which the present one is what remains.
structure ReadFrom (s board : State) : Prop where
  read : ∃ b, board.tokens = .ok b ∧ s.rules = b.rules
  remains : board.Remains s
  agrees : ∀ tiles, (∀ tile ∈ tiles, board.Shows tile ∧ s.Shows tile) → ∀ (r : Rule) (origin : Cell) (k : Nat),
    TokenBoard.Sentence s.extent s.catalog tiles origin r.axis k r.subject r.term →
      (∃ rule ∈ s.rules, rule.signature = r.signature) ∧
        ∃ now, s.tokens = .ok now ∧ ∃ rule ∈ now.rules, rule.signature = r.signature
  current : (∀ id, board.Alive id → s.Alive id ∧ s.definitions.get? id = board.definitions.get? id) →
    ∃ now, s.tokens = .ok now ∧ s.rules = now.rules

theorem remains_read_from (board s : State) (remains : board.Remains s) (b now : TokenBoard)
    (spelled : board.tokens = .ok b) (rules : s.rules = b.rules) (tokens : s.tokens = .ok now) : s.ReadFrom board := by
  constructor
  · exact ⟨b, spelled, rules⟩
  · exact remains
  · intro tiles shown r origin k sentence
    have spells := s.sentence_read now tokens tiles (fun tile member => (shown tile member).2) r origin k sentence
    rw [remains.extent, remains.catalog] at sentence
    have stored := board.sentence_read b spelled tiles (fun tile member => (shown tile member).1) r origin k sentence
    exact ⟨rules ▸ stored, now, tokens, spells⟩
  · intro kept
    exact ⟨b, (board.remains_tokens s remains kept).trans spelled, rules⟩

end State

theorem Reading.run_rules (s t : State) (announce : Bool) (done : Reading.run s announce = .ok t) :
    ∃ b, s.tokens = .ok b ∧ t.rules = b.rules := by
  obtain ⟨b, read, done⟩ := Attempt.bind_ok _ _ _ done
  obtain ⟨changes, told, _, _, rfl⟩ := Transform.run_ok _ t announce done
  exact ⟨b, read, rfl⟩

theorem Reading.run_alive_iff (s t : State) (announce : Bool) (done : Reading.run s announce = .ok t) (id : EntityId) :
    t.Alive id ↔ s.Alive id := by
  obtain ⟨_, definitions, _, redefines, rfl⟩ := Reading.run_reread s t announce done
  exact Bool.eq_iff_iff.mp (redefines.same id)

theorem Reading.run_remains (s t : State) (announce : Bool) (done : Reading.run s announce = .ok t) : s.Remains t := by
  have becomes := Reading.run_becomes s t announce done
  have alive := Reading.run_alive_iff s t announce done
  obtain ⟨_, _, _, _, rfl⟩ := Reading.run_reread s t announce done
  exact ⟨rfl, rfl, fun id => (alive id).mp, fun _ _ => rfl, becomes⟩

namespace Turn

theorem settle_read_from (built first : State) (settled : settle built = .ok first) (now : TokenBoard)
    (tokens : first.tokens = .ok now) : first.ReadFrom built ∧ ∀ id, built.Alive id → first.Alive id := by
  obtain ⟨read, reads, settled⟩ := Attempt.bind_ok _ _ _ settled
  obtain ⟨cast, casts, settled⟩ := Attempt.bind_ok _ _ _ settled
  cases settled
  obtain ⟨justified, recast, _⟩ := Roles.refresh_ok read cast casts
  have onward := read.onward_recast cast justified recast
  have remains := built.remains_onward read cast (Reading.run_remains built read false reads) onward
  have marked : built.Remains cast.markStarts :=
    ⟨remains.extent, remains.catalog, remains.alive, remains.stands, remains.becomes⟩
  obtain ⟨b, spelled, rules⟩ := Reading.run_rules built read false reads
  constructor
  · exact built.remains_read_from cast.markStarts marked b now spelled (onward.rules.trans rules) tokens
  · intro id alive
    exact (read.recast_alive cast recast id).mpr ((Reading.run_alive_iff built read false reads id).mpr alive)

section Follow

variable (g : Stages) (before : List Rule) (d : Direction) (t : State) (follow : g.Follow before d t)
include follow

theorem follow_read_from (now : TokenBoard) (tokens : t.tokens = .ok now) : t.ReadFrom g.fused := by
  have onward := (read_onward g before d t follow).1
  obtain ⟨b, spelled, rules⟩ := Reading.run_rules g.fused g.read true follow.reads
  have remains := g.fused.remains_onward g.read t (Reading.run_remains g.fused g.read true follow.reads) onward
  exact g.fused.remains_read_from t remains b now spelled (onward.rules.trans rules) tokens

theorem ranked_alive_iff (id : EntityId) : g.ranked.Alive id ↔ g.fused.Alive id := by
  have triggering := (read_triggered g before d t follow).2
  have ranking := (triggered_ranked g before d t follow).2
  rw [g.triggered.recast_alive g.ranked ranking, g.read.recast_alive g.triggered triggering]
  exact Reading.run_alive_iff g.fused g.read true follow.reads id

theorem melted_alive_iff (id : EntityId) : t.Alive id ↔ g.melted.Alive id :=
  g.melted.recast_alive t (melted_cast g before d t follow).2.1 id

end Follow

theorem rules_as_read (catalog : Catalog) (level : Level) :
    (∀ built, level.toState catalog = .ok built → ∃ first, settle built = .ok first ∧ first.ReadFrom built ∧
      ∀ id, built.Alive id → first.Alive id) ∧
    ∀ s, Reached catalog level s → ∀ d, ∃ t, play s d = .ok t ∧
      ((Stalls s d ∧ ∃ message, t = refuse s message) ∨
        ∃ g : Stages, g.Lead s d t ∧ t.ReadFrom g.fused ∧ (∀ id, g.ranked.Alive id ↔ g.fused.Alive id) ∧
          ∀ id, t.Alive id ↔ g.melted.Alive id) := by
  constructor
  · intro built accepted
    obtain ⟨first, settled, between⟩ := settle_between catalog level built accepted
    obtain ⟨now, tokens⟩ := first.tokens_answer between.sound
    exact ⟨first, settled, settle_read_from built first settled now tokens⟩
  · intro s reached d
    obtain ⟨t, played, later⟩ := reached_plays catalog level s reached d
    refine ⟨t, played, (play_stages s t d played).imp_right fun ⟨g, lead⟩ => ⟨g, lead, ?_, ?_, ?_⟩⟩
    · obtain ⟨now, tokens⟩ := t.tokens_answer (reached_between catalog level t later).sound
      exact follow_read_from g s.rules d t lead.follow now tokens
    · exact ranked_alive_iff g s.rules d t lead.follow
    · exact melted_alive_iff g s.rules d t lead.follow

def orchard : Level where
  heading := ⟨"orchard", "Orchard", .null⟩
  extent := ⟨5, 3⟩
  placements := [⟨"txt-human", ⟨0, 0⟩⟩, ⟨"txt-topic", ⟨1, 0⟩⟩, ⟨"txt-you", ⟨2, 0⟩⟩, ⟨"obj-tree", ⟨0, 1⟩⟩,
    ⟨"txt-topic", ⟨1, 1⟩⟩, ⟨"txt-push", ⟨2, 1⟩⟩, ⟨"txt-tree", ⟨0, 2⟩⟩, ⟨"txt-topic", ⟨1, 2⟩⟩, ⟨"txt-rock", ⟨3, 2⟩⟩,
    ⟨"obj-human", ⟨4, 2⟩⟩]

theorem orchard_run :
    ∃ first t now, Session.loaded .standard orchard = .ok first ∧ play first .left = .ok t ∧ t.tokens = .ok now ∧
      t.moves = first.moves + 1 ∧ t.rules.map Rule.signature = ["p:human:you", "p:tree:push", "n:tree:rock"] ∧
      now.rules.map Rule.signature = ["p:human:you", "p:rock:push", "n:tree:rock"] := by
  have walked : (do
      let first ← Session.loaded .standard orchard
      let t ← play first .left
      let now ← t.tokens
      .ok (first.moves, t.moves, t.rules.map Rule.signature, now.rules.map Rule.signature)) =
      Except.ok (0, 1, ["p:human:you", "p:tree:push", "n:tree:rock"], ["p:human:you", "p:rock:push", "n:tree:rock"]) := by
    rfl
  obtain ⟨first, load, walked⟩ := Attempt.bind_ok _ _ _ walked
  obtain ⟨t, played, walked⟩ := Attempt.bind_ok _ _ _ walked
  obtain ⟨now, tokens, walked⟩ := Attempt.bind_ok _ _ _ walked
  simp only [Except.ok.injEq, Prod.mk.injEq] at walked
  obtain ⟨none, one, stored, spelled⟩ := walked
  exact ⟨first, t, now, load, played, tokens, by omega, stored, spelled⟩

-- The sentence on trees was read, and the tree that began it is a rock by the end of the turn.
theorem orchard_keeps_its_reading :
    ∃ built first t, orchard.toState .standard = .ok built ∧ first.ReadFrom built ∧ play first .left = .ok t ∧
      ∃ g : Stages, g.Lead first .left t ∧ t.ReadFrom g.fused ∧ ∀ id, t.Alive id ↔ g.melted.Alive id := by
  obtain ⟨first, t, _, load, played, _, counted, _⟩ := orchard_run
  obtain ⟨built, accepted, settled⟩ := Attempt.bind_ok _ _ _ load
  obtain ⟨loads, turns⟩ := rules_as_read .standard orchard
  obtain ⟨start, settled_again, opening, _⟩ := loads built accepted
  cases settled.symm.trans settled_again
  obtain ⟨u, played_again, outcome⟩ := turns first (loaded_reached .standard orchard first load) .left
  cases played.symm.trans played_again
  obtain ⟨g, lead, reading, _, hazards⟩ :=
    outcome.resolve_left fun ⟨_, refused⟩ => counted_not_refused first t counted refused
  exact ⟨built, first, t, accepted, opening, played, g, lead, reading, hazards⟩

theorem rules_outlast_their_tiles :
    ∃ first t now, Session.loaded .standard orchard = .ok first ∧ play first .left = .ok t ∧
      t.moves = first.moves + 1 ∧ t.tokens = .ok now ∧ (∃ r ∈ t.rules, r.signature = "p:tree:push") ∧
      ¬ ∃ r ∈ now.rules, r.signature = "p:tree:push" := by
  obtain ⟨first, t, now, load, played, tokens, counted, stored, spelled⟩ := orchard_run
  refine ⟨first, t, now, load, played, counted, tokens, List.mem_map.mp ?_, fun spells => ?_⟩
  · rw [stored]
    decide
  · have member := List.mem_map.mpr spells
    rw [spelled] at member
    revert member
    decide

end Turn

end KanjiPuzzle
