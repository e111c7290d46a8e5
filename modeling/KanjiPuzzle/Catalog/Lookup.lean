import KanjiPuzzle.Catalog.Definition
import KanjiPuzzle.Catalog.Recipe

set_option autoImplicit false

/- A catalog: definitions with distinct ids, in the order in which they were declared, and recipes whose outputs are
   among them. -/
namespace KanjiPuzzle

structure Catalog where
  definitions : List Definition
  recipes : List Recipe
  distinct : (definitions.map Definition.id).Nodup
  outputs_known : ∀ r ∈ recipes, ∃ d ∈ definitions, d.id = r.output
deriving Repr

namespace Catalog

def firstRepeated (seen : List DefinitionId) : List DefinitionId → Option DefinitionId
  | [] => none
  | id :: rest => if id ∈ seen then some id else firstRepeated (id :: seen) rest

theorem first_repeated_eq_none_iff (seen ids : List DefinitionId) :
    firstRepeated seen ids = none ↔ ids.Nodup ∧ ∀ id ∈ ids, id ∉ seen := by
  induction ids generalizing seen with
  | nil => simp [firstRepeated]
  | cons id rest ih =>
      by_cases known : id ∈ seen
      · simp [firstRepeated, known]
      · simp only [firstRepeated, if_neg known, ih, List.nodup_cons, List.mem_cons, not_or]
        constructor
        · rintro ⟨nodup, fresh⟩
          exact ⟨⟨fun inside => (fresh id inside).1 rfl, nodup⟩, fun other member =>
            member.elim (fun same => same ▸ known) fun inside => (fresh other inside).2⟩
        · rintro ⟨⟨absent, nodup⟩, fresh⟩
          exact ⟨nodup, fun other inside => ⟨fun same => absent (same ▸ inside), fresh other (.inr inside)⟩⟩

def knows (definitions : List Definition) (id : DefinitionId) : Bool := definitions.any (·.id == id)

theorem knows_iff (definitions : List Definition) (id : DefinitionId) :
    knows definitions id = true ↔ ∃ d ∈ definitions, d.id = id := by
  simp [knows]

-- Repeated ids are found before unknown outputs.
def build (definitions : List Definition) (recipes : List Recipe) : Attempt Catalog :=
  match distinct : firstRepeated [] (definitions.map Definition.id) with
  | some id => .error (.duplicateDefinition id)
  | none =>
      match closed : recipes.find? fun r => !knows definitions r.output with
      | some r => .error (.unknownDefinition r.output)
      | none => .ok {
          definitions
          recipes
          distinct := ((first_repeated_eq_none_iff _ _).mp distinct).1
          outputs_known := fun r member => (knows_iff _ _).mp (by simpa using List.find?_eq_none.mp closed r member) }

def find? (c : Catalog) (id : DefinitionId) : Option Definition := c.definitions.find? (·.id == id)

def get (c : Catalog) (id : DefinitionId) : Attempt Definition :=
  match c.find? id with
  | some d => .ok d
  | none => .error (.unknownDefinition id)

def contains (c : Catalog) (id : DefinitionId) : Bool := (c.find? id).isSome

def size (c : Catalog) : Nat := c.definitions.length

def index? (c : Catalog) (id : DefinitionId) : Option Nat := c.definitions.findIdx? (·.id == id)

def isObjectFor (noun : Noun) (d : Definition) : Bool := d.isObject && d.noun? == some noun

def isTextFor (noun : Noun) (d : Definition) : Bool := d.isText && d.noun? == some noun

def objectFor? (c : Catalog) (noun : Noun) : Option Definition := c.definitions.find? (isObjectFor noun)

def recipeFor? (c : Catalog) (a b : Noun) : Option Recipe := c.recipes.find? (·.accepts a b)

-- A noun is shown by the glyph of the last object declared for it, else of its first noun tile, else by itself.
def nounGlyph (c : Catalog) (noun : Noun) : String :=
  match c.definitions.reverse.find? (isObjectFor noun) with
  | some d => d.glyph
  | none =>
      match c.definitions.find? (isTextFor noun) with
      | some d => d.glyph
      | none => noun

def propertyGlyph (c : Catalog) (p : Property) : String :=
  match c.definitions.find? (·.property? == some p) with
  | some d => d.glyph
  | none => p.word.toUpper

theorem find_id (c : Catalog) (id : DefinitionId) (d : Definition) (found : c.find? id = some d) : d.id = id := by
  simpa using List.find?_some found

theorem find_mem (c : Catalog) (id : DefinitionId) (d : Definition) (found : c.find? id = some d) :
    d ∈ c.definitions := List.mem_of_find?_eq_some found

theorem find_of_get (c : Catalog) (id : DefinitionId) (d : Definition) (known : c.get id = .ok d) :
    c.find? id = some d := by
  rw [get] at known
  split at known
  case h_1 found => exact found.trans (congrArg some (Except.ok.inj known))
  case h_2 => cases known

theorem find_is_some_iff (c : Catalog) (id : DefinitionId) :
    (c.find? id).isSome = true ↔ ∃ d ∈ c.definitions, d.id = id := by
  simp [find?, List.find?_isSome]

theorem output_known (c : Catalog) (r : Recipe) (member : r ∈ c.recipes) : ∃ d, c.find? r.output = some d :=
  Option.isSome_iff_exists.mp ((find_is_some_iff c r.output).mpr (c.outputs_known r member))

end Catalog

end KanjiPuzzle
