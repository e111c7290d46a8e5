import KanjiPuzzle.Level.Format
import KanjiPuzzle.Proofs.Answers
import KanjiPuzzle.Proofs.Documents

set_option autoImplicit false

/- A level that is written down is read as itself, whatever its names hold and however it is laid out. What cannot be
   written has no text: an indentation that is no length, a number of too many digits, what the host refuses. -/
namespace KanjiPuzzle

namespace Level

end Level

namespace Level

section Written

variable (host : Host) (l : Level) (indent : Option Int)

end Written

end Level

end KanjiPuzzle
