import KanjiPuzzle.Json.Value
import KanjiPuzzle.Number.Shortest
import KanjiPuzzle.Text.Quoted

set_option autoImplicit false

/- How a message shows a JSON value, and the text that a value of any kind becomes where a text is called for. -/
namespace KanjiPuzzle.Json

def realSpelling : Number.Spelling := ⟨"nan", "inf"⟩

mutual
def shown : Json → String
  | .null => "None"
  | .bool true => "True"
  | .bool false => "False"
  | .integer n => toString n
  | .real x => x.text realSpelling
  | .text s => Text.quoted s
  | .array items => "[" ++ ", ".intercalate (shownItems items) ++ "]"
  | .object members => "\x7b" ++ ", ".intercalate (shownMembers members) ++ "\x7d"

def shownItems : List Json → List String
  | [] => []
  | v :: vs => shown v :: shownItems vs

def shownMembers : List (String × Json) → List String
  | [] => []
  | (k, v) :: ms => (Text.quoted k ++ ": " ++ shown v) :: shownMembers ms
end

def asText : Json → String
  | .text s => s
  | v => shown v

end KanjiPuzzle.Json
