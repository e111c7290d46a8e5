import KanjiPuzzle.Proofs.Answers
import KanjiPuzzle.Proofs.Spelling

set_option autoImplicit false

/- Tokens without the numbers of their tiles. Reading looks at what stands in a cell and in which order, and never at
   the tiles that say it. -/
namespace KanjiPuzzle

namespace CellTokens

def nameless (t : CellTokens) : CellTokens :=
  ⟨t.nouns.map fun token => (0, token.2), t.properties.map fun token => (0, token.2), t.topic, t.conjunction⟩

theorem nameless_add (t : CellTokens) (id : EntityId) (d : Definition) :
    (t.add id d).nameless = t.nameless.add 0 d := by
  cases named : d.noun? <;> cases said : d.property? <;> simp [add, nameless, named, said]

end CellTokens

namespace TokenBoard

def nameless (b : TokenBoard) : TokenBoard := ⟨b.extent, b.cells.map fun entry => (entry.1, entry.2.nameless)⟩

theorem nameless_record (id : EntityId) (d : Definition) (cell : Cell) (cells : List (Cell × CellTokens)) :
    (record id d cell cells).map (fun entry => (entry.1, entry.2.nameless)) =
      record 0 d cell (cells.map fun entry => (entry.1, entry.2.nameless)) := by
  induction cells with
  | nil => exact congrArg (fun tokens => [(cell, tokens)]) (CellTokens.nameless_add .empty id d)
  | cons head rest ih =>
      rcases head with ⟨here, tokens⟩
      by_cases same : here = cell
      · simp [record, same, CellTokens.nameless_add]
      · simp [record, same, ih]

theorem nameless_place (catalog : Catalog) (b : TokenBoard) (tile : Tile) :
    (place catalog b tile).map nameless = place catalog b.nameless ⟨0, tile.definition, tile.cell⟩ := by
  rw [place, place]
  by_cases inside : b.extent.contains tile.cell = true
  · rw [if_pos inside, if_pos (show b.nameless.extent.contains tile.cell = true from inside)]
    cases catalog.get tile.definition with
    | error cause => rfl
    | ok d => exact congrArg (fun cells => Except.ok (TokenBoard.mk b.extent cells)) (nameless_record tile.id d tile.cell b.cells)
  · rw [if_neg inside, if_neg (show ¬ b.nameless.extent.contains tile.cell = true from inside)]
    rfl

theorem place_extent (catalog : Catalog) (b next : TokenBoard) (tile : Tile) (placed : place catalog b tile = .ok next) :
    next.extent = b.extent := by
  rw [place] at placed
  split at placed
  · obtain ⟨_, _, made⟩ := Attempt.bind_ok _ _ _ placed
    cases made
    rfl
  · cases placed
    rfl

theorem nameless_cell_tokens (cell : Cell) (cells : List (Cell × CellTokens)) :
    cellTokens? cell (cells.map fun entry => (entry.1, entry.2.nameless)) =
      (cellTokens? cell cells).map CellTokens.nameless := by
  induction cells with
  | nil => rfl
  | cons head rest ih =>
      rcases head with ⟨here, tokens⟩
      by_cases same : here = cell
      · simp [cellTokens?, same]
      · simpa [cellTokens?, same] using ih

theorem nameless_tokens (b : TokenBoard) (cell : Cell) :
    b.nameless.tokensAt cell = (b.tokensAt cell).map CellTokens.nameless := by
  rw [tokensAt, tokensAt]
  by_cases inside : b.extent.contains cell = true
  · rw [if_pos inside, if_pos (show b.nameless.extent.contains cell = true from inside)]
    exact nameless_cell_tokens cell b.cells
  · rw [if_neg inside, if_neg (show ¬ b.nameless.extent.contains cell = true from inside)]
    rfl

theorem nameless_term_rules (subject : Noun) (axis : Axis) (cells : List Cell) (tokens : CellTokens) :
    termRules subject axis cells tokens.nameless = termRules subject axis cells tokens := by
  simp [termRules, CellTokens.nameless, Function.comp_def]

theorem nameless_spelled_terms (b : TokenBoard) (subject : Noun) (origin : Cell) (axis : Axis) (links place : Nat) :
    b.nameless.spelledTerms subject origin axis links place = b.spelledTerms subject origin axis links place := by
  induction links generalizing place with
  | zero => rfl
  | succ links ih =>
      rw [spelledTerms, spelledTerms, nameless_tokens, nameless_tokens]
      cases b.tokensAt (along origin axis place) with
      | none => rfl
      | some tokens =>
          simp only [Option.map_some, nameless_term_rules, ih]
          cases b.tokensAt (along origin axis (place + 1)) <;> rfl

theorem nameless_spelled_at (b : TokenBoard) (origin : Cell) (axis : Axis) :
    b.nameless.spelledAt origin axis = b.spelledAt origin axis := by
  rw [spelledAt, spelledAt, nameless_tokens, nameless_tokens]
  cases b.tokensAt origin with
  | none => rfl
  | some start =>
      cases b.tokensAt (along origin axis 1) with
      | none => rfl
      | some link =>
          have same : b.nameless.longest = b.longest := rfl
          simp only [Option.map_some, nameless_spelled_terms, same]
          simp [CellTokens.nameless, List.flatMap_map]

theorem nameless_rules (b : TokenBoard) : b.nameless.rules = b.rules := by
  rw [rules_eq, rules_eq, spelled, spelled]
  simp only [nameless_spelled_at]
  rfl

end TokenBoard

end KanjiPuzzle
