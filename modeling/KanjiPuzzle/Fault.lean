import KanjiPuzzle.Command
import KanjiPuzzle.Text.Decimal

set_option autoImplicit false

/- The causes for which an operation gives no answer, with their texts; a refused turn is none of them but an event. The
   numbers in a text are written when the fault arises, the key that was not found by whoever shows it. -/
namespace KanjiPuzzle

inductive Fault where
  | unknownDefinition (id : DefinitionId)
  | duplicateDefinition (id : DefinitionId)
  | objectWithTextKeys (id : DefinitionId)
  | textWithoutRole (id : DefinitionId)
  | textKeysMismatch (id : DefinitionId) (role : TextRole) (populated : List TextRole)
  | notAMember (shown vocabulary : String)
  | notACommand
  | notADirection (word : String)
  | notAChoice (number : Int)
  | notANumeral (text : String)
  | tooManyDigits (count : Nat)
  | tooLongToWrite
  | undefinedNumber
  | infiniteNumber
  | noEntity (id : EntityId)
  | noEntry (key : String)
  | outOfBounds (cell : Cell) (extent : Extent)
  | tooFewRuleCells
  | lengthOutOfRange
  | refused (kind text : String)
  | unsupportedRendering (mode : String)
  | wrongShape
  | malformedText
deriving DecidableEq, Repr

namespace Fault

def abridged (s : String) : String := String.ofList (s.toList.take 200)

def written (numbers : List Int) (fault : Fault) : Fault :=
  if numbers.all Text.isWritable then fault else .tooLongToWrite

def message : Fault → String
  | .unknownDefinition id => "Unknown entity definition: " ++ id
  | .duplicateDefinition id => "Duplicate entity definition: " ++ id
  | .objectWithTextKeys id => "Object definition " ++ id ++ " carries text keys"
  | .textWithoutRole id => "Text definition " ++ id ++ " has no text role"
  | .textKeysMismatch id role populated =>
      "Text definition " ++ id ++ " with role " ++ role.word ++ " must populate exactly its own key, got [" ++
        ", ".intercalate (populated.map fun r => memberLabel TextRole.vocabulary.name r.word) ++ "]"
  | .notAMember shown vocabulary => shown ++ " is not a valid " ++ vocabulary
  | .notACommand => "Action is not valid"
  | .notADirection word =>
      match Command.ofWord? word with
      | some _ => memberLabel Command.vocabulary.name word
      | none => Text.quoted word
  | .notAChoice number => "Invalid action: " ++ toString number
  | .notANumeral text => "invalid literal for int() with base 10: " ++ abridged (Text.quoted text)
  | .tooManyDigits count =>
      "Exceeds the limit (" ++ toString Text.digitLimit ++ " digits) for integer string conversion: value has " ++
        toString count ++ " digits; use sys.set_int_max_str_digits() to increase the limit"
  | .tooLongToWrite =>
      "Exceeds the limit (" ++ toString Text.digitLimit ++
        " digits) for integer string conversion; use sys.set_int_max_str_digits() to increase the limit"
  | .undefinedNumber => "cannot convert float NaN to integer"
  | .infiniteNumber => "cannot convert float infinity to integer"
  | .noEntity id => toString id
  | .noEntry key => Text.quoted key
  | .outOfBounds cell extent =>
      "Out of bounds: (" ++ toString cell.x ++ ", " ++ toString cell.y ++ ") for grid " ++ toString extent.width ++
        "x" ++ toString extent.height
  | .tooFewRuleCells => "tuple index out of range"
  | .lengthOutOfRange => "a length is out of range"
  | .refused _ text => text
  | .unsupportedRendering mode => "Render mode '" ++ mode ++ "' not supported."
  | .wrongShape => "a value of another kind is needed here"
  | .malformedText => "the text is not JSON"

end Fault

end KanjiPuzzle
