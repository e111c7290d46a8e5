import KanjiPuzzle.Effects

set_option autoImplicit false

/- What a list of rules puts in force, read off the list: a noun has the properties that its rules grant it, and becomes
   what the first rule says that transforms it. -/
namespace KanjiPuzzle

namespace Rule

def targetFor? (r : Rule) (noun : Noun) : Option Noun :=
  match r.term with
  | .property _ => none
  | .noun target => if r.subject = noun then some target else none

theorem target_for_iff (r : Rule) (noun target : Noun) :
    r.targetFor? noun = some target ↔ r.subject = noun ∧ r.term = .noun target := by
  rw [targetFor?]
  cases term : r.term with
  | property p => simp
  | noun other => simp

end Rule

namespace Effects

theorem grants_fold (rules : List Rule) (e : Effects) (noun : Noun) (p : Property) :
    (rules.foldl add e).grants noun p = true ↔
      (∃ r ∈ rules, r.subject = noun ∧ r.term = .property p) ∨ e.grants noun p = true := by
  induction rules generalizing e with
  | nil => simp
  | cons r rest ih =>
      rw [List.foldl_cons, ih, grants_add]
      simp only [List.mem_cons, exists_eq_or_imp]
      rw [or_left_comm, or_assoc]

theorem grants_of_rules_iff (rules : List Rule) (noun : Noun) (p : Property) :
    (ofRules rules).grants noun p = true ↔ ∃ r ∈ rules, r.subject = noun ∧ r.term = .property p := by
  rw [ofRules, grants_fold]
  simp [grants, propertiesOf, none, NounTable.get?]

def Filled (e : Effects) : Prop := ∀ noun, NounTable.get? noun e.properties ≠ some []

theorem filled_add (e : Effects) (r : Rule) (filled : e.Filled) : (e.add r).Filled := by
  rcases r with ⟨subject, term, axis, cells⟩
  cases term with
  | noun target => exact filled
  | property p =>
      intro noun
      have adjoined (known : List Property) : adjoin p known ≠ [] :=
        List.ne_nil_of_mem ((mem_adjoin p p known).mpr (.inl rfl))
      simp only [add, NounTable.get_update]
      by_cases same : subject = noun
      · simp [same, adjoined]
      · simpa [same] using filled noun

theorem filled_fold (rules : List Rule) (e : Effects) (filled : e.Filled) : (rules.foldl add e).Filled := by
  induction rules generalizing e with
  | nil => exact filled
  | cons r rest ih => exact ih (e.add r) (filled_add e r filled)

theorem filled_of_rules (rules : List Rule) : (ofRules rules).Filled :=
  filled_fold rules none fun noun => by simp [none, NounTable.get?]

theorem listed_iff (e : Effects) (filled : e.Filled) (noun : Noun) :
    (NounTable.get? noun e.properties).isSome = true ↔ ∃ p, e.grants noun p = true := by
  have nonempty := filled noun
  simp only [grants, propertiesOf, List.contains_iff_mem]
  cases known : NounTable.get? noun e.properties with
  | none => simp
  | some properties =>
      rw [known] at nonempty
      have inhabited := List.exists_mem_of_ne_nil properties fun empty => nonempty (congrArg some empty)
      simp [inhabited]

def SameProperties (e f : Effects) : Prop :=
  ∀ noun, (NounTable.get? noun e.properties).isSome = (NounTable.get? noun f.properties).isSome ∧
    ∀ p, e.grants noun p = f.grants noun p

theorem same_properties (rules others : List Rule)
    (same : ∀ noun p, (ofRules rules).grants noun p = true ↔ (ofRules others).grants noun p = true) :
    (ofRules rules).SameProperties (ofRules others) := by
  intro noun
  refine ⟨Bool.eq_iff_iff.mpr ?_, fun p => Bool.eq_iff_iff.mpr (same noun p)⟩
  rw [listed_iff _ (filled_of_rules rules), listed_iff _ (filled_of_rules others)]
  exact exists_congr (same noun)

theorem target_add (e : Effects) (r : Rule) (noun : Noun) :
    (e.add r).targetOf? noun = (e.targetOf? noun).or (r.targetFor? noun) := by
  rcases r with ⟨subject, term, axis, cells⟩
  cases term with
  | property p => simp [add, targetOf?, Rule.targetFor?]
  | noun target =>
      simp only [add, targetOf?, Rule.targetFor?, NounTable.get_update]
      by_cases same : subject = noun
      · subst same
        cases NounTable.get? subject e.transforms <;> simp
      · simp [same]

theorem target_fold (rules : List Rule) (e : Effects) (noun : Noun) :
    (rules.foldl add e).targetOf? noun = (e.targetOf? noun).or (rules.findSome? (·.targetFor? noun)) := by
  induction rules generalizing e with
  | nil => simp
  | cons r rest ih =>
      rw [List.foldl_cons, ih, target_add, Option.or_assoc, List.findSome?_cons]
      cases r.targetFor? noun <;> rfl

theorem target_of_rules (rules : List Rule) (noun : Noun) :
    (ofRules rules).targetOf? noun = rules.findSome? (·.targetFor? noun) := by
  rw [ofRules, target_fold]
  simp [targetOf?, none, NounTable.get?]

end Effects

end KanjiPuzzle
