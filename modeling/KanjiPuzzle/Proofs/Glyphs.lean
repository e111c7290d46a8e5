import KanjiPuzzle.Proofs.Upkeep
import KanjiPuzzle.View.Snapshot

set_option autoImplicit false

/- What a catalog shows of a noun. The first object of a noun is the one that others become, but the noun is shown by
   its last object, which need not look like its first. -/
namespace KanjiPuzzle.Catalog

section Entries

variable {κ α : Type} [DecidableEq κ]

def rewritten (table : κ → Option α) (key : κ) (value : α) : κ → Option α := fun asked =>
  if asked = key then some value else table asked

def supplied (table : κ → Option α) (key : κ) (value : α) : κ → Option α := fun asked =>
  if asked = key then (table key).or (some value) else table asked

end Entries

structure Register where
  objects : Noun → Option DefinitionId
  nouns : Noun → Option String
  properties : Property → Option String

namespace Register

def blank : Register := ⟨fun _ => none, fun _ => none, fun _ => none⟩

def enter (r : Register) (d : Definition) : Register :=
  match d.meaning with
  | .object (some noun) =>
      { r with objects := supplied r.objects noun d.id, nouns := rewritten r.nouns noun d.glyph }
  | .noun noun => { r with nouns := supplied r.nouns noun d.glyph }
  | .property p => { r with properties := supplied r.properties p d.glyph }
  | _ => r

def ofDefinitions (definitions : List Definition) : Register := definitions.foldl enter blank

section Enter

variable (r : Register) (d : Definition)

theorem enter_objects (noun : Noun) : (r.enter d).objects noun =
    if isObjectFor noun d = true then (r.objects noun).or (some d.id) else r.objects noun := by
  rcases d with ⟨id, glyph, meaning, defaults, pushable, stop, label⟩
  unfold enter isObjectFor Definition.isObject Definition.kind Definition.noun?
  cases meaning with
  | object own =>
      cases own with
      | none => rfl
      | some other =>
          by_cases same : noun = other
          · simp [supplied, same]
          · simp [supplied, same, Ne.symm same]
  | noun | property | connector | operator => rfl

theorem enter_nouns (noun : Noun) : (r.enter d).nouns noun =
    if isObjectFor noun d = true then some d.glyph
    else if isTextFor noun d = true then (r.nouns noun).or (some d.glyph) else r.nouns noun := by
  rcases d with ⟨id, glyph, meaning, defaults, pushable, stop, label⟩
  unfold enter isObjectFor isTextFor Definition.isObject Definition.isText Definition.kind Definition.noun?
  cases meaning with
  | object own =>
      cases own with
      | none => rfl
      | some other =>
          by_cases same : noun = other
          · simp [rewritten, same]
          · simp [rewritten, same, Ne.symm same]
  | noun other =>
      by_cases same : noun = other
      · simp [supplied, same]
      · simp [supplied, same, Ne.symm same]
  | property | connector | operator => rfl

theorem enter_properties (p : Property) : (r.enter d).properties p =
    if (d.property? == some p) = true then (r.properties p).or (some d.glyph) else r.properties p := by
  rcases d with ⟨id, glyph, meaning, defaults, pushable, stop, label⟩
  unfold enter Definition.property?
  cases meaning with
  | property other =>
      by_cases same : p = other
      · simp [supplied, same]
      · simp [supplied, same, Ne.symm same]
  | object own => cases own <;> rfl
  | noun | connector | operator => rfl

end Enter

section Fold

variable (definitions : List Definition) (r : Register)

theorem fold_objects (noun : Noun) : (definitions.foldl enter r).objects noun =
    (r.objects noun).or ((definitions.find? (isObjectFor noun)).map Definition.id) := by
  induction definitions generalizing r with
  | nil => exact (Option.or_none).symm
  | cons d rest ih =>
      rw [List.foldl_cons, ih, enter_objects, List.find?_cons]
      cases isObjectFor noun d with
      | true => simp
      | false => rfl

-- Over the definitions that are still to be entered: the last object among them is the last to write, and a noun tile is
-- heard only where nothing is written and no object is to come.
theorem fold_nouns (noun : Noun) : (definitions.foldl enter r).nouns noun =
    ((definitions.reverse.find? (isObjectFor noun)).map Definition.glyph).or
      ((r.nouns noun).or ((definitions.find? (isTextFor noun)).map Definition.glyph)) := by
  induction definitions generalizing r with
  | nil => simp
  | cons d rest ih =>
      rw [List.foldl_cons, ih, enter_nouns, List.reverse_cons, List.find?_append, List.find?_cons (p := isTextFor noun)]
      cases object : isObjectFor noun d with
      | true => cases rest.reverse.find? (isObjectFor noun) <;> simp [object]
      | false => cases isTextFor noun d <;> simp [object]

theorem fold_properties (p : Property) : (definitions.foldl enter r).properties p =
    (r.properties p).or ((definitions.find? (·.property? == some p)).map Definition.glyph) := by
  induction definitions generalizing r with
  | nil => exact (Option.or_none).symm
  | cons d rest ih =>
      rw [List.foldl_cons, ih, enter_properties, List.find?_cons]
      cases d.property? == some p with
      | true => simp
      | false => rfl

end Fold

end Register

theorem registered (c : Catalog) :
    (∀ noun, (Register.ofDefinitions c.definitions).objects noun = (c.objectFor? noun).map Definition.id) ∧
      (∀ noun, c.nounGlyph noun = ((Register.ofDefinitions c.definitions).nouns noun).getD noun) ∧
      ∀ p, c.propertyGlyph p = ((Register.ofDefinitions c.definitions).properties p).getD p.word.toUpper := by
  refine ⟨fun noun => Register.fold_objects c.definitions .blank noun, fun noun => ?_, fun p => ?_⟩
  · rw [Register.ofDefinitions, Register.fold_nouns, nounGlyph]
    cases c.definitions.reverse.find? (isObjectFor noun) with
    | some last => rfl
    | none => cases c.definitions.find? (isTextFor noun) <;> rfl
  · rw [Register.ofDefinitions, Register.fold_properties, propertyGlyph]
    cases c.definitions.find? (·.property? == some p) <;> rfl

theorem build_definitions (definitions : List Definition) (recipes : List Recipe) (c : Catalog)
    (built : build definitions recipes = .ok c) : c.definitions = definitions := by
  unfold build at built
  split at built
  case h_1 => cases built
  case h_2 =>
    split at built
    case h_1 => cases built
    case h_2 =>
      cases built
      rfl

def LastObject (definitions : List Definition) (noun : Noun) (last : Definition) : Prop :=
  ∃ before after, definitions = before ++ last :: after ∧ isObjectFor noun last = true ∧
    ∀ e ∈ after, isObjectFor noun e = false

theorem last_object_exists (definitions : List Definition) (noun : Noun) (d : Definition) (member : d ∈ definitions)
    (object : isObjectFor noun d = true) :
    ∃ last, LastObject definitions noun last ∧ definitions.reverse.find? (isObjectFor noun) = some last := by
  obtain ⟨last, found⟩ := Option.isSome_iff_exists.mp
    (List.find?_isSome.mpr ⟨d, List.mem_reverse.mpr member, object⟩)
  obtain ⟨fits, after, before, split, others⟩ := List.find?_eq_some_iff_append.mp found
  refine ⟨last, ⟨before.reverse, after.reverse, ?_, fits, fun e later => ?_⟩, found⟩
  · simpa using congrArg List.reverse split
  · simpa using others e (List.mem_reverse.mp later)

theorem last_object_entered (definitions others : List Definition) (noun : Noun) (last : Definition)
    (found : definitions.reverse.find? (isObjectFor noun) = some last)
    (objects : others.filter Definition.isObject = definitions.filter Definition.isObject) :
    (Register.ofDefinitions others).nouns noun = some last.glyph := by
  have among (ds : List Definition) :
      (ds.filter Definition.isObject).reverse.find? (isObjectFor noun) = ds.reverse.find? (isObjectFor noun) := by
    rw [← List.filter_reverse, List.find?_filter]
    refine congrArg (ds.reverse.find? ·) (funext fun e => Bool.eq_iff_iff.mpr ?_)
    simp [isObjectFor]
  have same : others.reverse.find? (isObjectFor noun) = some last := by
    rw [← among others, objects, among definitions, found]
  rw [Register.ofDefinitions, Register.fold_nouns, same]
  rfl

theorem last_object_shown (definitions : List Definition) (recipes : List Recipe) (c : Catalog)
    (built : build definitions recipes = .ok c) (noun : Noun) (d : Definition) (first : c.objectFor? noun = some d) :
    ∃ last, LastObject definitions noun last ∧ c.nounGlyph noun = last.glyph ∧
      ((∀ e ∈ definitions, isObjectFor noun e = true → e.glyph = d.glyph) → c.nounGlyph noun = d.glyph) ∧
      (Register.ofDefinitions definitions).objects noun = some d.id ∧ c.get d.id = .ok d ∧
      (∀ others, others.filter Definition.isObject = definitions.filter Definition.isObject →
        (Register.ofDefinitions others).nouns noun = some last.glyph) ∧
      (∀ r : Rule, r.term = .noun noun → r.shown c = c.nounGlyph r.subject ++ " は " ++ last.glyph) ∧
      ∀ s id change, s.catalog = c → Transform.change? s id = .ok (some change) → change.target = noun →
        change.definition = d.id := by
  have listed := build_definitions definitions recipes c built
  have member : d ∈ c.definitions := List.mem_of_find?_eq_some first
  obtain ⟨last, latest, found⟩ :=
    last_object_exists definitions noun d (listed ▸ member) (List.find?_some first)
  obtain ⟨objects, nouns, _⟩ := c.registered
  have entered (others : List Definition)
      (same : others.filter Definition.isObject = definitions.filter Definition.isObject) :=
    last_object_entered definitions others noun last found same
  have shown : c.nounGlyph noun = last.glyph := by
    rw [nouns, listed, entered definitions rfl]
    rfl
  refine ⟨last, latest, shown, fun alike => ?_, ?_, c.get_of_mem d member, entered, fun r term => ?_, ?_⟩
  · obtain ⟨before, after, split, object, _⟩ := latest
    exact shown.trans (alike last (split ▸ List.mem_append_right before List.mem_cons_self) object)
  · rw [← listed, objects, first]
    rfl
  · rw [Rule.shown, term]
    exact congrArg _ shown
  · rintro s id change rfl changed rfl
    obtain ⟨_, _, object, destined, becomes, _⟩ := Transform.change_made s id change changed
    cases first.symm.trans destined.found
    exact becomes

def cup : Definition := objectTile "obj-cup" "碗" "cup" "Cup" [] false

def cupboard : List Definition :=
  [textTile "txt-cup" "杯" (.noun "cup") "Cup text", cup, textTile "txt-cup-again" "盃" (.noun "cup") "Cup text",
    objectTile "obj-goblet" "盃" "cup" "Goblet" [] false, textTile "txt-topic" "は" (.connector .topic) "Topic",
    textTile "txt-cup-late" "椀" (.noun "cup") "Cup text"]

theorem cupboard_built :
    ∃ c, build cupboard [] = .ok c ∧ c.objectFor? "cup" = some cup ∧ c.nounGlyph "cup" = "盃" := by
  have stored : (do
      let c ← build cupboard []
      .ok (c.objectFor? "cup", c.nounGlyph "cup")) = Except.ok (some cup, "盃") := by rfl
  obtain ⟨c, built, stored⟩ := Attempt.bind_ok _ _ _ stored
  simp only [Except.ok.injEq, Prod.mk.injEq] at stored
  exact ⟨c, built, stored⟩

theorem cupboard_shows_goblet :
    ∃ c last, build cupboard [] = .ok c ∧ c.objectFor? "cup" = some cup ∧ LastObject cupboard "cup" last ∧
      last.glyph = "盃" ∧ c.nounGlyph "cup" = last.glyph ∧
      (Register.ofDefinitions cupboard).objects "cup" = some "obj-cup" ∧
      Rule.shown ⟨"cup", .noun "cup", .horizontal, []⟩ c = "盃 は 盃" := by
  obtain ⟨c, built, first, glyph⟩ := cupboard_built
  obtain ⟨last, latest, shown, _, objects, _, _, rules, _⟩ := last_object_shown cupboard [] c built "cup" cup first
  refine ⟨c, last, built, first, latest, shown.symm.trans glyph, shown, objects, ?_⟩
  rw [rules _ rfl, ← shown, glyph]
  rfl

theorem cup_shown_as_goblet :
    ∃ c d, build cupboard [] = .ok c ∧ c.objectFor? "cup" = some d ∧ c.nounGlyph "cup" ≠ d.glyph := by
  obtain ⟨c, built, first, glyph⟩ := cupboard_built
  exact ⟨c, cup, built, first, by rw [glyph]; decide⟩

end KanjiPuzzle.Catalog
