import KanjiPuzzle.Vocabulary

set_option autoImplicit false

/- Fusion recipes: two nouns side by side, or one above the other, become a tile of another definition. -/
namespace KanjiPuzzle

structure Recipe where
  id : String
  first : Noun
  second : Noun
  output : DefinitionId
  ordered : Bool
deriving DecidableEq, Repr

-- An ordered recipe wants its first noun left of, or above, its second.
def Recipe.accepts (r : Recipe) (a b : Noun) : Bool :=
  (a == r.first && b == r.second) || (!r.ordered && a == r.second && b == r.first)

theorem Recipe.accepts_swap (r : Recipe) (a b : Noun) (free : r.ordered = false) : r.accepts a b = r.accepts b a := by
  simp only [accepts, free, Bool.not_false, Bool.true_and]
  rw [Bool.or_comm, Bool.and_comm (a == r.second), Bool.and_comm (a == r.first)]

end KanjiPuzzle
