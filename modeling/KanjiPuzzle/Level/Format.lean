import KanjiPuzzle.Json.Field
import KanjiPuzzle.Json.Reader
import KanjiPuzzle.Level

set_option autoImplicit false

/- The format in which levels are kept. Names may be given as any value, sizes and coordinates as anything that can be
   taken as a whole number; unknown keys are passed over. -/
namespace KanjiPuzzle

def Placement.toJson (p : Placement) : Json :=
  .object [("defId", .text p.definition), ("x", .integer p.cell.x), ("y", .integer p.cell.y)]

def Placement.ofJson (j : Json) : Attempt Placement := do
  let definition ← j.field "defId"
  let x ← (← j.field "x").asInteger
  let y ← (← j.field "y").asInteger
  .ok ⟨definition.asText, ⟨x, y⟩⟩

namespace Level

def toJson (l : Level) : Json :=
  .object ([("id", .text l.heading.id), ("name", .text l.heading.name), ("width", .integer l.extent.width),
    ("height", .integer l.extent.height)] ++
    (if l.heading.hint.isNull then [] else [("hint", l.heading.hint)]) ++
    [("entities", .array (l.placements.map Placement.toJson))])

-- No placements at all may be said by an empty value of any kind that has members.
def placementsOfJson : Option Json → Attempt (List Placement)
  | none => .ok []
  | some (.array items) => Attempt.each Placement.ofJson items
  | some (.text s) => if s.isEmpty then .ok [] else .error .wrongShape
  | some (.object members) => if members.isEmpty then .ok [] else .error .wrongShape
  | some _ => .error .wrongShape

def ofJson (j : Json) : Attempt Level := do
  let id ← j.field "id"
  let name ← j.field "name"
  let width ← (← j.field "width").asInteger
  let height ← (← j.field "height").asInteger
  let placements ← placementsOfJson (j.member? "entities")
  .ok ⟨⟨id.asText, name.asText, (j.member? "hint").getD .null⟩, ⟨width, height⟩, placements⟩

def write (l : Level) (layout : Json.Layout) : String := l.toJson.write layout

def written (host : Host) (l : Level) (indent : Option Int) : Attempt String := do
  let layout ← Json.Layout.chosen indent
  host.text indent l.toJson
  if l.toJson.writable then .ok (l.write layout) else .error .tooLongToWrite

def parse (text : String) : Attempt Level := do
  ofJson (← Json.parse text)

def survivesWriting (host : Host) (l : Level) : Attempt Bool := do
  .ok ((← parse (← l.written host (some 2))).same l)

end Level

end KanjiPuzzle
