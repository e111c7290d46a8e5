import KanjiPuzzle.Grid
import KanjiPuzzle.Text.Quoted

set_option autoImplicit false

/- The closed vocabularies of the puzzle, and the words by which levels, rules and players name their members. Nouns and
   definitions are open: any text can name one. -/
namespace KanjiPuzzle

abbrev Noun := String
abbrev DefinitionId := String
abbrev EntityId := Int

structure Vocabulary (α : Type) where
  name : String
  members : List α
  word : α → String

def Vocabulary.ofWord? {α : Type} (v : Vocabulary α) (w : String) : Option α :=
  v.members.find? fun a => v.word a == w

def memberLabel (name word : String) : String :=
  "<" ++ name ++ "." ++ word.toUpper ++ ": " ++ Text.quoted word ++ ">"

inductive Property where
  | you
  | push
  | pull
  | stop
  | win
  | float
  | sink
  | hot
  | melt
deriving DecidableEq, Repr

def Property.word : Property → String
  | .you => "you"
  | .push => "push"
  | .pull => "pull"
  | .stop => "stop"
  | .win => "win"
  | .float => "float"
  | .sink => "sink"
  | .hot => "hot"
  | .melt => "melt"

def Property.all : List Property := [.you, .push, .pull, .stop, .win, .float, .sink, .hot, .melt]

def Property.vocabulary : Vocabulary Property := ⟨"PropertyKey", Property.all, Property.word⟩

theorem Property.mem_all (p : Property) : p ∈ Property.all := by cases p <;> simp [Property.all]

theorem Property.of_word_word (p : Property) : Property.vocabulary.ofWord? p.word = some p := by cases p <;> decide

theorem Property.word_injective (p q : Property) (same : p.word = q.word) : p = q := by
  simpa [same, Property.of_word_word] using (Property.of_word_word p).symm

inductive Kind where
  | object
  | text
deriving DecidableEq, Repr

def Kind.word : Kind → String
  | .object => "object"
  | .text => "text"

def Kind.vocabulary : Vocabulary Kind := ⟨"EntityKind", [.object, .text], Kind.word⟩

inductive TextRole where
  | noun
  | property
  | connector
  | operator
deriving DecidableEq, Repr

def TextRole.word : TextRole → String
  | .noun => "noun"
  | .property => "property"
  | .connector => "connector"
  | .operator => "operator"

def TextRole.vocabulary : Vocabulary TextRole :=
  ⟨"TextRole", [.noun, .property, .connector, .operator], TextRole.word⟩

inductive Connector where
  | topic
deriving DecidableEq, Repr

def Connector.word : Connector → String
  | .topic => "topic"

def Connector.vocabulary : Vocabulary Connector := ⟨"ConnectorKey", [.topic], Connector.word⟩

inductive Operator where
  | conjunction
deriving DecidableEq, Repr

def Operator.word : Operator → String
  | .conjunction => "and"

def Operator.vocabulary : Vocabulary Operator := ⟨"OperatorKey", [.conjunction], Operator.word⟩

def Axis.word : Axis → String
  | .horizontal => "horizontal"
  | .vertical => "vertical"

def Axis.vocabulary : Vocabulary Axis := ⟨"Axis", [.horizontal, .vertical], Axis.word⟩

end KanjiPuzzle
