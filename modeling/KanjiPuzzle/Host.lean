import KanjiPuzzle.Attempt
import KanjiPuzzle.Grid
import KanjiPuzzle.Json.Value

set_option autoImplicit false

/- What lies beneath the program and may refuse it: the arrays and the spaces of a library, and the memory and the stack
   of the machine. A host is asked before a thing is made, and answers the same question always alike. -/
namespace KanjiPuzzle

-- An array of zeros of some measures, a space of such arrays, all the rows of a picture, and the text of a value with an
-- indentation.
structure Host where
  zeros : List Int → Attempt Unit
  space : List Int → Attempt Unit
  rows : Extent → Attempt Unit
  text : Option Int → Json → Attempt Unit

namespace Host

-- A host that refuses nothing.
def ample : Host := ⟨fun _ => .ok (), fun _ => .ok (), fun _ => .ok (), fun _ _ => .ok ()⟩

-- A length is a signed number of 64 bits on every host.
def greatestLength : Int := 9223372036854775807

def isLength (n : Int) : Bool := -greatestLength - 1 ≤ n && n ≤ greatestLength

end Host

end KanjiPuzzle
