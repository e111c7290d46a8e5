import KanjiPuzzle.Rule

set_option autoImplicit false

/- What a list of rules puts in force. A noun becomes what the first rule that transforms it says. -/
namespace KanjiPuzzle

abbrev NounTable (α : Type) := List (Noun × α)

namespace NounTable

variable {α : Type}

def get? (noun : Noun) : NounTable α → Option α
  | [] => none
  | (key, value) :: rest => if key = noun then some value else get? noun rest

def update (noun : Noun) (change : Option α → α) : NounTable α → NounTable α
  | [] => [(noun, change none)]
  | (key, value) :: rest =>
      if key = noun then (key, change (some value)) :: rest else (key, value) :: update noun change rest

theorem get_update (noun other : Noun) (change : Option α → α) (table : NounTable α) :
    get? other (update noun change table) = if noun = other then some (change (get? other table)) else get? other table := by
  induction table with
  | nil => simp [update, get?]
  | cons head rest ih =>
      rcases head with ⟨key, value⟩
      by_cases here : key = noun
      · subst here
        by_cases wanted : key = other
        · simp [update, get?, wanted]
        · simp [update, get?, wanted]
      · simp only [update, if_neg here, get?]
        by_cases found : key = other
        · have absent : noun ≠ other := fun same => here (found.trans same.symm)
          simp [found, absent]
        · simp only [if_neg found, ih]

end NounTable

structure Effects where
  properties : NounTable (List Property)
  transforms : NounTable Noun
deriving DecidableEq, Repr

namespace Effects

def none : Effects := ⟨[], []⟩

def adjoin (p : Property) (known : List Property) : List Property := if p ∈ known then known else known ++ [p]

def add (e : Effects) (r : Rule) : Effects :=
  match r.term with
  | .property p => ⟨NounTable.update r.subject (fun known => adjoin p (known.getD [])) e.properties, e.transforms⟩
  | .noun target => ⟨e.properties, NounTable.update r.subject (fun known => known.getD target) e.transforms⟩

def ofRules (rules : List Rule) : Effects := rules.foldl add none

def propertiesOf (e : Effects) (noun : Noun) : List Property := (NounTable.get? noun e.properties).getD []

def grants (e : Effects) (noun : Noun) (p : Property) : Bool := (e.propertiesOf noun).contains p

def targetOf? (e : Effects) (noun : Noun) : Option Noun := NounTable.get? noun e.transforms

theorem mem_adjoin (p q : Property) (known : List Property) : q ∈ adjoin p known ↔ q = p ∨ q ∈ known := by
  unfold adjoin
  split
  case isTrue inside =>
    constructor
    · exact .inr
    · rintro (same | member)
      · exact same ▸ inside
      · exact member
  case isFalse => simp [or_comm]

theorem grants_add (e : Effects) (r : Rule) (noun : Noun) (p : Property) :
    (e.add r).grants noun p = true ↔ (r.subject = noun ∧ r.term = .property p) ∨ e.grants noun p = true := by
  rcases r with ⟨subject, term, axis, cells⟩
  cases term with
  | noun target => simp [add, grants, propertiesOf]
  | property q =>
      by_cases same : subject = noun
      · simp [add, grants, propertiesOf, NounTable.get_update, same, mem_adjoin, @eq_comm _ p q]
      · simp [add, grants, propertiesOf, NounTable.get_update, same]

end Effects

end KanjiPuzzle
