import KanjiPuzzle.Catalog.Standard
import KanjiPuzzle.Proofs.Answers
import KanjiPuzzle.Proofs.Grammar

set_option autoImplicit false

/- Sentences as tiles spell them. What a board of tokens shows in a cell is what the tiles of that cell are, so the
   rules of a board are those that its tiles spell. -/
namespace KanjiPuzzle

section Signatures

theorem last_word (before after other word : String) (bare : ':' ∉ after.toList) (plain : ':' ∉ word.toList)
    (same : before ++ ":" ++ after = other ++ ":" ++ word) : before = other ∧ after = word := by
  have lists : before.toList ++ ':' :: after.toList = other.toList ++ ':' :: word.toList := by
    simpa using congrArg String.toList same
  rcases List.append_eq_append_iff.mp lists with ⟨between, longer, rest⟩ | ⟨between, longer, rest⟩
  · cases between with
    | nil => exact ⟨(String.toList_inj.mp (by simpa using longer)).symm, String.toList_inj.mp (List.cons.inj rest).2⟩
    | cons first between =>
        refine absurd ?_ bare
        rw [(List.cons.inj rest).2]
        exact List.mem_append_right between List.mem_cons_self
  · cases between with
    | nil => exact ⟨String.toList_inj.mp (by simpa using longer), (String.toList_inj.mp (List.cons.inj rest).2).symm⟩
    | cons first between =>
        refine absurd ?_ plain
        rw [(List.cons.inj rest).2]
        exact List.mem_append_right between List.mem_cons_self

theorem property_word_plain (p : Property) : ':' ∉ p.word.toList := by cases p <;> decide

theorem mark_first (a b : Term) (before after : String) (same : a.mark ++ before = b.mark ++ after) :
    a.mark = b.mark ∧ before = after := by
  cases a <;> cases b
  case property.property | noun.noun => exact ⟨rfl, (String.append_right_inj _).mp same⟩
  all_goals
    have lists := congrArg String.toList same
    simp [Term.mark] at lists

theorem mark_word_injective (a b : Term) (marks : a.mark = b.mark) (words : a.word = b.word) : a = b := by
  cases a <;> cases b
  case property.property p q => exact congrArg Term.property (Property.word_injective p q words)
  case noun.noun => exact congrArg Term.noun words
  all_goals simp [Term.mark] at marks

theorem signature_mark (a b : Rule) (same : a.signature = b.signature) : a.term.mark = b.term.mark := by
  unfold Rule.signature at same
  simp only [String.append_assoc] at same
  exact (mark_first a.term b.term _ _ same).1

theorem signature_tells (a b : Rule) (aPlain : ':' ∉ a.term.word.toList) (bPlain : ':' ∉ b.term.word.toList)
    (same : a.signature = b.signature) : a.subject = b.subject ∧ a.term = b.term := by
  obtain ⟨front, words⟩ := last_word _ _ _ _ aPlain bPlain same
  simp only [String.append_assoc] at front
  obtain ⟨marks, subjects⟩ := mark_first a.term b.term _ _ front
  exact ⟨(String.append_right_inj _).mp subjects, mark_word_injective a.term b.term marks words⟩

end Signatures

namespace TokenBoard

def Holds (catalog : Catalog) (tiles : List Tile) (cell : Cell) (wanted : Definition → Prop) : Prop :=
  ∃ tile ∈ tiles, tile.cell = cell ∧ ∃ d, catalog.find? tile.definition = some d ∧ wanted d

theorem holds_cons (catalog : Catalog) (tile : Tile) (rest : List Tile) (cell : Cell) (wanted : Definition → Prop) :
    Holds catalog (tile :: rest) cell wanted ↔ Holds catalog [tile] cell wanted ∨ Holds catalog rest cell wanted := by
  simp [Holds, or_and_right, exists_or]

structure ByTile (shown : CellTokens → Prop) (wanted : Definition → Prop) : Prop where
  blank : ¬ shown .empty
  add : ∀ tokens id d, shown (tokens.add id d) ↔ shown tokens ∨ wanted d

theorem by_tile_tells (term : Term) : ByTile (·.tells term) (·.tells term) := by
  cases term with
  | property p =>
      refine ⟨by simp [CellTokens.tells, CellTokens.empty], fun tokens id d => ?_⟩
      cases said : d.property? <;> simp [CellTokens.tells, CellTokens.add, Definition.tells, said, exists_or, eq_comm]
  | noun noun =>
      refine ⟨by simp [CellTokens.tells, CellTokens.empty], fun tokens id d => ?_⟩
      cases said : d.noun? <;> simp [CellTokens.tells, CellTokens.add, Definition.tells, said, exists_or, eq_comm]

theorem by_tile_topic : ByTile (·.topic = true) (·.isTopic = true) :=
  ⟨by simp [CellTokens.empty], by simp [CellTokens.add]⟩

theorem by_tile_conjunction : ByTile (·.conjunction = true) (·.isConjunction = true) :=
  ⟨by simp [CellTokens.empty], by simp [CellTokens.add]⟩

theorem cell_tokens_record (id : EntityId) (d : Definition) (cell other : Cell) (cells : List (Cell × CellTokens)) :
    cellTokens? other (record id d cell cells) =
      if cell = other then some (((cellTokens? other cells).getD .empty).add id d) else cellTokens? other cells := by
  induction cells with
  | nil => simp [record, cellTokens?]
  | cons head rest ih =>
      rcases head with ⟨here, tokens⟩
      by_cases same : here = cell
      · subst same
        by_cases wanted : here = other <;> simp [record, cellTokens?, wanted]
      · simp only [record, if_neg same, cellTokens?, ih]
        by_cases found : here = other
        · have different : cell ≠ other := fun equal => same (found.trans equal.symm)
          simp [found, different]
        · simp [found]

theorem shows_iff (b : TokenBoard) (cell : Cell) (shown : CellTokens → Prop) : b.Shows cell shown ↔
    b.extent.contains cell = true ∧ ∃ tokens, cellTokens? cell b.cells = some tokens ∧ shown tokens := by
  rw [Shows, tokensAt]
  cases b.extent.contains cell <;> simp

theorem shows_record (shown : CellTokens → Prop) (wanted : Definition → Prop) (byTile : ByTile shown wanted)
    (b : TokenBoard) (id : EntityId) (d : Definition) (place cell : Cell) :
    Shows ⟨b.extent, record id d place b.cells⟩ cell shown ↔
      b.Shows cell shown ∨ b.extent.contains cell = true ∧ place = cell ∧ wanted d := by
  rw [shows_iff, shows_iff, cell_tokens_record]
  by_cases same : place = cell
  · cases found : cellTokens? cell b.cells with
    | none => simp [same, byTile.add, byTile.blank]
    | some tokens => simp [same, byTile.add, and_or_left]
  · simp [same]

theorem shows_place (shown : CellTokens → Prop) (wanted : Definition → Prop) (byTile : ByTile shown wanted)
    (catalog : Catalog) (b next : TokenBoard) (tile : Tile) (placed : place catalog b tile = .ok next) :
    next.extent = b.extent ∧ ∀ cell, next.Shows cell shown ↔
      b.Shows cell shown ∨ b.extent.contains cell = true ∧ Holds catalog [tile] cell wanted := by
  rw [place] at placed
  split at placed
  case isTrue inside =>
    obtain ⟨d, known, placed⟩ := Attempt.bind_ok _ _ _ placed
    cases placed
    refine ⟨rfl, fun cell => ?_⟩
    have found := catalog.find_of_get tile.definition d known
    rw [shows_record shown wanted byTile]
    simp [Holds, found]
  case isFalse outside =>
    cases placed
    refine ⟨rfl, fun cell => ?_⟩
    constructor
    · exact .inl
    · rintro (shows | ⟨inside, other, member, same, _⟩)
      · exact shows
      · rw [List.mem_singleton.mp member] at same
        exact absurd (same ▸ inside) outside

theorem shows_through (shown : CellTokens → Prop) (wanted : Definition → Prop) (byTile : ByTile shown wanted)
    (catalog : Catalog) (tiles : List Tile) (b final : TokenBoard)
    (read : Attempt.through (place catalog) b tiles = .ok final) :
    final.extent = b.extent ∧ ∀ cell, final.Shows cell shown ↔
      b.Shows cell shown ∨ b.extent.contains cell = true ∧ Holds catalog tiles cell wanted := by
  induction tiles generalizing b with
  | nil =>
      cases read
      exact ⟨rfl, fun cell => by simp [Holds]⟩
  | cons tile rest ih =>
      obtain ⟨next, placed, read⟩ := Attempt.bind_ok _ _ _ read
      obtain ⟨same, first⟩ := shows_place shown wanted byTile catalog b next tile placed
      obtain ⟨extent, later⟩ := ih next read
      refine ⟨extent.trans same, fun cell => ?_⟩
      rw [later, first, same, holds_cons catalog tile rest, and_or_left, or_assoc]

theorem shows_tiles (shown : CellTokens → Prop) (wanted : Definition → Prop) (byTile : ByTile shown wanted)
    (extent : Extent) (catalog : Catalog) (tiles : List Tile) (b : TokenBoard)
    (read : ofTiles extent catalog tiles = .ok b) (cell : Cell) :
    b.Shows cell shown ↔ extent.contains cell = true ∧ Holds catalog tiles cell wanted := by
  obtain ⟨_, shows⟩ := shows_through shown wanted byTile catalog tiles (empty extent) b read
  rw [shows, shows_iff]
  simp [empty, cellTokens?]

theorem tiles_answer (extent : Extent) (catalog : Catalog) (tiles : List Tile)
    (known : ∀ tile ∈ tiles, extent.contains tile.cell = true → catalog.contains tile.definition = true) :
    ∃ b, ofTiles extent catalog tiles = .ok b ∧ b.extent = extent := by
  refine Attempt.through_answers (fun b => b.extent = extent) (place catalog) tiles (empty extent) rfl ?_
  intro b tile member same
  rw [place]
  split
  case isTrue inside =>
    obtain ⟨d, found⟩ := Option.isSome_iff_exists.mp (known tile member (same ▸ inside))
    refine ⟨⟨b.extent, record tile.id d tile.cell b.cells⟩, ?_, same⟩
    rw [Catalog.get, found]
    rfl
  case isFalse => exact ⟨b, rfl, same⟩

-- A sentence as tiles spell it: the noun at the origin, the connector next to it, and a term in every second cell from
-- there on to the last, with conjunctions between them.
structure Sentence (extent : Extent) (catalog : Catalog) (tiles : List Tile) (origin : Cell) (axis : Axis) (k : Nat)
    (noun : Noun) (said : Term) : Prop where
  start : extent.contains origin = true
  subject : Holds catalog tiles origin (·.noun? = some noun)
  topic : Holds catalog tiles (along origin axis 1) (·.isTopic = true)
  terms : ∀ j ≤ k, extent.contains (along origin axis (2 + 2 * j)) = true ∧
    ∃ term, Holds catalog tiles (along origin axis (2 + 2 * j)) (·.tells term)
  links : ∀ j < k, Holds catalog tiles (along origin axis (3 + 2 * j)) (·.isConjunction = true)
  term : Holds catalog tiles (along origin axis (2 + 2 * k)) (·.tells said)

def Covers (others tiles : List Tile) : Prop :=
  ∀ tile ∈ tiles, ∃ other ∈ others, other.definition = tile.definition ∧ other.cell = tile.cell

theorem covers_of_subset (others tiles : List Tile) (subset : ∀ tile ∈ tiles, tile ∈ others) : Covers others tiles :=
  fun tile member => ⟨tile, subset tile member, rfl, rfl⟩

theorem holds_mono (catalog : Catalog) (tiles others : List Tile) (cell : Cell) (wanted : Definition → Prop)
    (covered : Covers others tiles) (holds : Holds catalog tiles cell wanted) : Holds catalog others cell wanted := by
  obtain ⟨tile, member, here, d, found, fits⟩ := holds
  obtain ⟨other, listed, same, place⟩ := covered tile member
  exact ⟨other, listed, place.trans here, d, same ▸ found, fits⟩

theorem sentence_mono (extent : Extent) (catalog : Catalog) (tiles others : List Tile) (origin : Cell) (axis : Axis)
    (k : Nat) (noun : Noun) (said : Term) (covered : Covers others tiles)
    (sentence : Sentence extent catalog tiles origin axis k noun said) :
    Sentence extent catalog others origin axis k noun said where
  start := sentence.start
  subject := holds_mono catalog tiles others _ _ covered sentence.subject
  topic := holds_mono catalog tiles others _ _ covered sentence.topic
  terms := fun j few =>
    have ⟨here, term, holds⟩ := sentence.terms j few
    ⟨here, term, holds_mono catalog tiles others _ _ covered holds⟩
  links := fun j few => holds_mono catalog tiles others _ _ covered (sentence.links j few)
  term := holds_mono catalog tiles others _ _ covered sentence.term

theorem inside_between (extent : Extent) (origin : Cell) (axis : Axis) (near far : Nat) (less : near ≤ far)
    (start : extent.contains origin = true) (last : extent.contains (along origin axis far) = true) :
    extent.contains (along origin axis near) = true := by
  rw [Extent.contains_iff] at start last ⊢
  cases axis <;> simp only [along, Axis.offset] at last ⊢ <;> omega

theorem spells_iff (extent : Extent) (catalog : Catalog) (tiles : List Tile) (b : TokenBoard)
    (read : ofTiles extent catalog tiles = .ok b) (origin : Cell) (k : Nat) (r : Rule) :
    b.Spells origin k r ↔ Sentence extent catalog tiles origin r.axis k r.subject r.term ∧
      r.cells = [origin, along origin r.axis 1, along origin r.axis (2 + 2 * k)] := by
  have tells (term : Term) := shows_tiles _ _ (by_tile_tells term) extent catalog tiles b read
  have topics := shows_tiles _ _ by_tile_topic extent catalog tiles b read
  have conjunctions := shows_tiles _ _ by_tile_conjunction extent catalog tiles b read
  have third (j : Nat) : 2 + 2 * j + 1 = 3 + 2 * j := by omega
  constructor
  · rintro ⟨subject, topic, ⟨terms, links⟩, term, cells⟩
    obtain ⟨start, noun⟩ := (tells _ _).mp subject
    refine ⟨⟨start, noun, ((topics _).mp topic).2, ?_, ?_, ((tells _ _).mp term).2⟩, cells⟩
    · intro j few
      obtain ⟨other, shows⟩ := terms j few
      exact ⟨((tells other _).mp shows).1, other, ((tells other _).mp shows).2⟩
    · intro j few
      exact third j ▸ ((conjunctions _).mp (links j few)).2
  · rintro ⟨⟨start, subject, topic, terms, links, term⟩, cells⟩
    have last := (terms k (Nat.le_refl k)).1
    have inside (near : Nat) (less : near ≤ 2 + 2 * k) := inside_between extent origin r.axis near _ less start last
    refine ⟨(tells _ _).mpr ⟨start, subject⟩, (topics _).mpr ⟨inside 1 (by omega), topic⟩, ⟨?_, ?_⟩,
      (tells _ _).mpr ⟨last, term⟩, cells⟩
    · intro j few
      obtain ⟨here, other, holds⟩ := terms j few
      exact ⟨other, (tells other _).mpr ⟨here, holds⟩⟩
    · intro j few
      rw [third]
      exact (conjunctions _).mpr ⟨inside _ (by omega), links j few⟩

theorem signature_spelled_iff (extent : Extent) (catalog : Catalog) (tiles : List Tile) (b : TokenBoard)
    (read : ofTiles extent catalog tiles = .ok b) (signature : String) :
    (∃ r ∈ b.rules, r.signature = signature) ↔ ∃ r : Rule, r.signature = signature ∧
      ∃ origin k, Sentence extent catalog tiles origin r.axis k r.subject r.term := by
  constructor
  · rintro ⟨r, member, same⟩
    obtain ⟨origin, k, spells⟩ := rules_spelled b r member
    exact ⟨r, same, origin, k, ((spells_iff extent catalog tiles b read origin k r).mp spells).1⟩
  · rintro ⟨r, same, origin, k, sentence⟩
    obtain ⟨rule, member, equal⟩ := spelled_said b origin k
      { r with cells := [origin, along origin r.axis 1, along origin r.axis (2 + 2 * k)] }
      ((spells_iff extent catalog tiles b read origin k _).mpr ⟨sentence, rfl⟩)
    exact ⟨rule, member, equal.trans same⟩

-- A colon may stand in a noun. Only a board on which none does tells the two nouns of a signature apart.
theorem said_spelled_iff (extent : Extent) (catalog : Catalog) (tiles : List Tile) (b : TokenBoard)
    (read : ofTiles extent catalog tiles = .ok b) (noun : Noun) (said : Term) (plain : ':' ∉ said.word.toList)
    (bare : said.mark = "n" → ∀ d ∈ catalog.definitions, ∀ word, d.noun? = some word → ':' ∉ word.toList) :
    (∃ r ∈ b.rules, r.signature = said.mark ++ ":" ++ noun ++ ":" ++ said.word) ↔
      ∃ origin axis k, Sentence extent catalog tiles origin axis k noun said := by
  rw [signature_spelled_iff extent catalog tiles b read]
  constructor
  · rintro ⟨r, same, origin, k, sentence⟩
    have mark := signature_mark r ⟨noun, said, r.axis, []⟩ same
    have word : ':' ∉ r.term.word.toList := by
      cases term : r.term with
      | property p => exact property_word_plain p
      | noun other =>
          rw [term] at mark
          obtain ⟨_, _, _, d, found, tells⟩ := term ▸ sentence.term
          exact bare mark.symm d (catalog.find_mem _ d found) other tells
    obtain ⟨subjects, terms⟩ : r.subject = noun ∧ r.term = said :=
      signature_tells r ⟨noun, said, r.axis, []⟩ word plain same
    rw [subjects, terms] at sentence
    exact ⟨origin, r.axis, k, sentence⟩
  · rintro ⟨origin, axis, k, sentence⟩
    exact ⟨⟨noun, said, axis, []⟩, rfl, origin, k, sentence⟩

theorem rules_accept_grammar (extent : Extent) (catalog : Catalog) (tiles : List Tile)
    (known : ∀ tile ∈ tiles, extent.contains tile.cell = true → catalog.contains tile.definition = true) :
    ∃ b, ofTiles extent catalog tiles = .ok b ∧
      (∀ signature, (∃ r ∈ b.rules, r.signature = signature) ↔ ∃ r : Rule, r.signature = signature ∧
        ∃ origin k, Sentence extent catalog tiles origin r.axis k r.subject r.term) ∧
      (∀ (noun : Noun) (p : Property), (∃ r ∈ b.rules, r.signature = "p:" ++ noun ++ ":" ++ p.word) ↔
        ∃ origin axis k, Sentence extent catalog tiles origin axis k noun (.property p)) ∧
      ((∀ d ∈ catalog.definitions, ∀ word, d.noun? = some word → ':' ∉ word.toList) →
        ∀ noun target : Noun, ':' ∉ target.toList → ((∃ r ∈ b.rules, r.signature = "n:" ++ noun ++ ":" ++ target) ↔
          ∃ origin axis k, Sentence extent catalog tiles origin axis k noun (.noun target))) ∧
      (∀ r ∈ b.rules, ∃ origin k, Sentence extent catalog tiles origin r.axis k r.subject r.term ∧
        r.cells = [origin, along origin r.axis 1, along origin r.axis (2 + 2 * k)] ∧
        ∀ cell ∈ r.cells, extent.contains cell = true) ∧
      (b.rules.map Rule.signature).Nodup := by
  obtain ⟨b, read, _⟩ := tiles_answer extent catalog tiles known
  have property_mark (p : Property) : (Term.property p).mark ≠ "n" := by simp [Term.mark]
  refine ⟨b, read, signature_spelled_iff extent catalog tiles b read, ?_, ?_, ?_, rules_nodup b⟩
  · intro noun p
    exact said_spelled_iff extent catalog tiles b read noun (.property p) (property_word_plain p)
      fun noun_mark => absurd noun_mark (property_mark p)
  · intro bare noun target plain
    exact said_spelled_iff extent catalog tiles b read noun (.noun target) plain fun _ => bare
  · intro r member
    obtain ⟨origin, k, spells⟩ := rules_spelled b r member
    obtain ⟨sentence, cells⟩ := (spells_iff extent catalog tiles b read origin k r).mp spells
    have last := (sentence.terms k (Nat.le_refl k)).1
    refine ⟨origin, k, sentence, cells, fun cell inside => ?_⟩
    rw [cells] at inside
    rcases List.mem_cons.mp inside with rfl | inside
    · exact sentence.start
    · rcases List.mem_cons.mp inside with rfl | inside
      · exact inside_between extent origin r.axis 1 _ (by omega) sentence.start last
      · exact List.mem_singleton.mp inside ▸ last

theorem tree_sentence_accepted :
    let tiles : List Tile := [⟨1, "obj-tree", ⟨0, 0⟩⟩, ⟨2, "txt-topic", ⟨1, 0⟩⟩, ⟨3, "txt-push", ⟨2, 0⟩⟩,
      ⟨4, "txt-and", ⟨3, 0⟩⟩, ⟨5, "txt-rock", ⟨4, 0⟩⟩]
    ∃ b, ofTiles ⟨5, 1⟩ .standard tiles = .ok b ∧ ∃ r ∈ b.rules, r.signature = "n:tree:rock" := by
  intro tiles
  obtain ⟨b, read, signatures, _⟩ := rules_accept_grammar ⟨5, 1⟩ .standard tiles (by decide)
  refine ⟨b, read, (signatures "n:tree:rock").mpr ⟨⟨"tree", .noun "rock", .horizontal, []⟩, rfl, ⟨0, 0⟩, 1, ?_⟩⟩
  refine ⟨rfl, ⟨_, .head _, rfl, _, rfl, rfl⟩, ⟨_, .tail _ (.head _), rfl, _, rfl, rfl⟩, fun j few => ?_, fun j few => ?_,
    ⟨_, .tail _ (.tail _ (.tail _ (.tail _ (.head _)))), rfl, _, rfl, rfl⟩⟩
  · rcases Nat.le_one_iff_eq_zero_or_eq_one.mp few with rfl | rfl
    · exact ⟨rfl, .property .push, _, .tail _ (.tail _ (.head _)), rfl, _, rfl, rfl⟩
    · exact ⟨rfl, .noun "rock", _, .tail _ (.tail _ (.tail _ (.tail _ (.head _)))), rfl, _, rfl, rfl⟩
  · cases Nat.lt_one_iff.mp few
    exact ⟨_, .tail _ (.tail _ (.tail _ (.head _))), rfl, _, rfl, rfl⟩

end TokenBoard

end KanjiPuzzle
