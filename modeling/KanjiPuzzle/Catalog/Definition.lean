import KanjiPuzzle.Attempt

set_option autoImplicit false

/- What a tile is. A tile on a board only carries the id of its definition. -/
namespace KanjiPuzzle

inductive Meaning where
  | object (noun : Option Noun)
  | noun (noun : Noun)
  | property (property : Property)
  | connector (connector : Connector)
  | operator (operator : Operator)
deriving DecidableEq, Repr

structure Definition where
  id : DefinitionId
  glyph : String
  meaning : Meaning
  defaults : List Property
  pushable : Bool
  stop : Bool
  label : String
deriving DecidableEq, Repr

namespace Definition

def kind (d : Definition) : Kind :=
  match d.meaning with
  | .object _ => .object
  | _ => .text

def role? (d : Definition) : Option TextRole :=
  match d.meaning with
  | .object _ => none
  | .noun _ => some .noun
  | .property _ => some .property
  | .connector _ => some .connector
  | .operator _ => some .operator

def noun? (d : Definition) : Option Noun :=
  match d.meaning with
  | .object noun => noun
  | .noun noun => some noun
  | _ => none

def property? (d : Definition) : Option Property :=
  match d.meaning with
  | .property p => some p
  | _ => none

def connector? (d : Definition) : Option Connector :=
  match d.meaning with
  | .connector c => some c
  | _ => none

def operator? (d : Definition) : Option Operator :=
  match d.meaning with
  | .operator o => some o
  | _ => none

def isObject (d : Definition) : Bool := d.kind == .object

def isText (d : Definition) : Bool := d.kind == .text

def isCarrier (d : Definition) : Bool := d.noun?.isSome

def isTopic (d : Definition) : Bool := d.connector? == some .topic

def isConjunction (d : Definition) : Bool := d.operator? == some .conjunction

def hasDefault (d : Definition) (p : Property) : Bool := d.defaults.contains p

theorem is_text_eq_not_is_object (d : Definition) : d.isText = !d.isObject := by
  unfold isText isObject kind
  cases d.meaning <;> rfl

end Definition

structure Draft where
  id : DefinitionId
  glyph : String
  kind : Kind
  role : Option TextRole
  noun : Option Noun
  property : Option Property
  connector : Option Connector
  operator : Option Operator
  defaults : List Property
  pushable : Bool
  stop : Bool
  label : String
deriving DecidableEq, Repr

namespace Draft

def populated (d : Draft) : List TextRole :=
  (if d.noun.isSome then [.noun] else []) ++ (if d.property.isSome then [.property] else []) ++
    (if d.connector.isSome then [.connector] else []) ++ (if d.operator.isSome then [.operator] else [])

def meaning (d : Draft) : Attempt Meaning :=
  match d.kind with
  | .object =>
      if d.role.isSome || d.property.isSome || d.connector.isSome || d.operator.isSome then
        .error (.objectWithTextKeys d.id)
      else .ok (.object d.noun)
  | .text =>
      match d.role with
      | none => .error (.textWithoutRole d.id)
      | some role =>
          match role, d.noun, d.property, d.connector, d.operator with
          | .noun, some noun, none, none, none => .ok (.noun noun)
          | .property, none, some property, none, none => .ok (.property property)
          | .connector, none, none, some connector, none => .ok (.connector connector)
          | .operator, none, none, none, some operator => .ok (.operator operator)
          | _, _, _, _, _ => .error (.textKeysMismatch d.id role d.populated)

def check (d : Draft) : Attempt Definition := do
  let meaning ← d.meaning
  .ok ⟨d.id, d.glyph, meaning, Property.all.filter d.defaults.contains, d.pushable, d.stop, d.label⟩

end Draft

end KanjiPuzzle
