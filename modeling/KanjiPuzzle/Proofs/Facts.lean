import Mathlib.Data.List.Perm.Basic
import KanjiPuzzle.Proofs.Chronicle
import KanjiPuzzle.Proofs.Repetition
import KanjiPuzzle.Proofs.Readings

set_option autoImplicit false

/- What the signature of a set of rules tells. The facts can be told from it where no noun has the bar that stands
   between two signatures or, at the end of a transform, the colon that stands between its nouns. -/
namespace KanjiPuzzle

namespace Text

def parts (mark : Char) (text : String) : List String := (text.toList.splitOn mark).map String.ofList

theorem parts_joined (mark : Char) (ws : List String) (bare : ∀ w ∈ ws, mark ∉ w.toList) (filled : ws ≠ []) :
    parts mark ((String.singleton mark).intercalate ws) = ws := by
  have divided : ((String.singleton mark).intercalate ws).toList.splitOn mark = ws.map String.toList := by
    rw [String.toList_intercalate, String.toList_singleton]
    refine List.splitOn_intercalate mark ?_ (mt List.map_eq_nil_iff.mp filled)
    exact List.forall_mem_map.mpr bare
  rw [parts, divided, List.map_map]
  exact (List.map_congr_left fun w _ => String.ofList_toList).trans (List.map_id ws)

theorem joined_injective (mark : Char) (ws vs : List String) (wsBare : ∀ w ∈ ws, w ≠ "" ∧ mark ∉ w.toList)
    (vsBare : ∀ v ∈ vs, v ≠ "" ∧ mark ∉ v.toList)
    (same : (String.singleton mark).intercalate ws = (String.singleton mark).intercalate vs) : ws = vs := by
  have blank (us : List String) (bare : ∀ u ∈ us, u ≠ "" ∧ mark ∉ u.toList)
      (empty : (String.singleton mark).intercalate us = "") : us = [] := by
    cases us with
    | nil => rfl
    | cons u rest =>
        have read := parts_joined mark (u :: rest) (fun w member => (bare w member).2) (List.cons_ne_nil u rest)
        rw [empty] at read
        exact absurd (List.cons.inj read).1.symm (bare u List.mem_cons_self).1
  by_cases none : ws = []
  · rw [none] at same ⊢
    exact (blank vs vsBare same.symm).symm
  · by_cases nothing : vs = []
    · rw [nothing] at same ⊢
      exact blank ws wsBare same
    · rw [← parts_joined mark ws (fun w member => (wsBare w member).2) none, same,
        parts_joined mark vs (fun v member => (vsBare v member).2) nothing]

end Text

theorem perm_of_images {α β : Type} (f : α → β) (as bs : List α) (tells : ∀ a ∈ as, ∀ b ∈ bs, f a = f b → a = b)
    (same : (as.map f).Perm (bs.map f)) : as.Perm bs := by
  induction as generalizing bs with
  | nil =>
      rw [List.map_nil, List.nil_perm, List.map_eq_nil_iff] at same
      rw [same]
  | cons a rest ih =>
      obtain ⟨b, member, image⟩ := List.mem_map.mp (same.subset List.mem_cons_self)
      obtain rfl := tells a List.mem_cons_self b member image.symm
      obtain ⟨before, after, rfl⟩ := List.append_of_mem member
      have moved : (before ++ a :: after).Perm (a :: (before ++ after)) := List.perm_middle
      refine (List.Perm.cons a (ih (before ++ after) (fun c later d listed => ?_) ?_)).trans moved.symm
      · exact tells c (List.mem_cons_of_mem a later) d (moved.symm.subset (List.mem_cons_of_mem a listed))
      · exact (same.trans (moved.map f)).cons_inv

namespace Rule

def fact (r : Rule) : Noun × Term := (r.subject, r.term)

-- What can be told of a fact from its signature: of a transform, only its two nouns with a colon between them.
def heard (fact : Noun × Term) : (Noun × Property) ⊕ String :=
  match fact.2 with
  | .property p => .inl (fact.1, p)
  | .noun target => .inr (fact.1 ++ ":" ++ target)

def utter : (Noun × Property) ⊕ String → String
  | .inl said => "p:" ++ said.1 ++ ":" ++ said.2.word
  | .inr nouns => "n:" ++ nouns

def Barless (r : Rule) : Prop := '|' ∉ r.subject.toList ∧ '|' ∉ r.term.word.toList

structure Plain (r : Rule) : Prop where
  barless : r.Barless
  last : ':' ∉ r.term.word.toList

theorem signature_uttered (r : Rule) : r.signature = utter (heard r.fact) := by
  rcases r with ⟨subject, term, axis, cells⟩
  cases term with
  | property p => rfl
  | noun target =>
      simp only [signature, fact, heard, utter, Term.mark, Term.word, String.append_assoc]
      rfl

theorem utter_injective : Function.Injective utter := by
  intro a b same
  have lists := congrArg String.toList same
  cases a with
  | inl said =>
      cases b with
      | inl other =>
          obtain ⟨front, words⟩ := last_word _ _ _ _ (property_word_plain said.2) (property_word_plain other.2) same
          exact congrArg Sum.inl (Prod.ext ((String.append_right_inj _).mp front) (Property.word_injective _ _ words))
      | inr nouns => simp [utter] at lists
  | inr nouns =>
      cases b with
      | inl other => simp [utter] at lists
      | inr others => exact congrArg Sum.inr ((String.append_right_inj _).mp same)

theorem heard_tells (a b : Rule) (aPlain : a.Plain) (bPlain : b.Plain) (same : heard a.fact = heard b.fact) :
    a.fact = b.fact := by
  have signatures : a.signature = b.signature := by rw [signature_uttered, signature_uttered, same]
  obtain ⟨subjects, terms⟩ := signature_tells a b aPlain.last bPlain.last signatures
  exact Prod.ext subjects terms

theorem signature_barless (r : Rule) (barless : r.Barless) : r.signature ≠ "" ∧ '|' ∉ r.signature.toList := by
  obtain ⟨subject, word⟩ := barless
  have mark : '|' ∉ r.term.mark.toList := by cases r.term <;> simp [Term.mark]
  have begun : r.signature.toList ≠ [] := by simp [signature]
  refine ⟨fun empty => begun (by rw [empty]; rfl), ?_⟩
  simp [signature, subject, word, mark]

theorem signatures_heard (rules : List Rule) : rules.map signature = ((rules.map fact).map heard).map utter := by
  rw [List.map_map, List.map_map]
  exact List.map_congr_left fun r _ => r.signature_uttered

section Sets

variable (rules others : List Rule)

theorem set_signature_of_facts (same : (rules.map fact).Perm (others.map fact)) :
    setSignature rules = setSignature others := by
  have spoken : (rules.map signature).Perm (others.map signature) := by
    rw [signatures_heard, signatures_heard]
    exact (same.map heard).map utter
  exact congrArg "|".intercalate ((Text.sorted_eq_iff _ _).mpr spoken)

theorem set_signature_heard_iff (barless : ∀ r ∈ rules ++ others, r.Barless) :
    setSignature rules = setSignature others ↔
      ((rules.map fact).map heard).Perm ((others.map fact).map heard) := by
  have bare (some : List Rule) (among : ∀ r ∈ some, r.Barless) :
      ∀ w ∈ Text.sorted (some.map signature), w ≠ "" ∧ '|' ∉ w.toList := fun w member => by
    obtain ⟨r, listed, rfl⟩ := List.mem_map.mp ((Text.sorted_perm _).subset member)
    exact r.signature_barless (among r listed)
  obtain ⟨first, second⟩ := List.forall_mem_append.mp barless
  have joined : setSignature rules = setSignature others ↔
      Text.sorted (rules.map signature) = Text.sorted (others.map signature) :=
    ⟨Text.joined_injective '|' _ _ (bare rules first) (bare others second), congrArg _⟩
  rw [joined, Text.sorted_eq_iff, signatures_heard, signatures_heard]
  exact List.map_perm_map_iff utter_injective

theorem set_signature_fact_iff (plain : ∀ r ∈ rules ++ others, r.Plain) :
    setSignature rules = setSignature others ↔ (rules.map fact).Perm (others.map fact) := by
  refine ⟨fun same => ?_, set_signature_of_facts rules others⟩
  have heards := (set_signature_heard_iff rules others fun r member => (plain r member).barless).mp same
  refine perm_of_images heard _ _ (List.forall_mem_map.mpr fun a member => List.forall_mem_map.mpr fun b listed => ?_)
    heards
  exact heard_tells a b (plain a (List.mem_append_left others member)) (plain b (List.mem_append_right rules listed))

end Sets

end Rule

-- No noun of the catalog has a character that divides signatures.
def Catalog.Plain (c : Catalog) : Prop :=
  ∀ d ∈ c.definitions, ∀ noun ∈ d.noun?, '|' ∉ noun.toList ∧ ':' ∉ noun.toList

namespace Turn

theorem outline_changed_iff (o : Outline) : .ruleChange ∈ o.kinds ↔ o.changed = true := by
  simp [Outline.kinds, List.mem_replicate]

theorem change_told_iff (s t : State) (d : Direction) (played : play s d = .ok t) :
    .ruleChange ∈ t.kinds ↔ Rule.setSignature t.rules ≠ Rule.setSignature s.rules := by
  rcases play_stages s t d played with ⟨_, message, rfl⟩ | ⟨g, lead⟩
  · refine iff_of_false ?_ (not_not_intro rfl)
    simp [State.kinds, refuse]
  · obtain ⟨_, _, o, kinds, _, changed, _⟩ := lead_outline g s t d lead
    rw [kinds, outline_changed_iff, changed]

theorem tokens_plain (s : State) (plain : s.catalog.Plain) (b : TokenBoard) (read : s.tokens = .ok b) :
    ∀ r ∈ b.rules, r.Plain := by
  intro r member
  obtain ⟨tiles, _, placed⟩ := s.tokens_tiles b read
  obtain ⟨origin, k, spells⟩ := b.rules_spelled r member
  have sentence := ((TokenBoard.spells_iff s.extent s.catalog tiles b placed origin k r).mp spells).1
  obtain ⟨_, _, _, d, found, subject⟩ := sentence.subject
  have first := plain d (s.catalog.find_mem _ d found) r.subject subject
  cases said : r.term with
  | property p =>
      exact ⟨⟨first.1, by rw [said]; cases p <;> decide⟩, by rw [said]; exact property_word_plain p⟩
  | noun target =>
      obtain ⟨_, _, _, e, known, tells⟩ := said ▸ sentence.term
      have last := plain e (s.catalog.find_mem _ e known) target tells
      exact ⟨⟨first.1, said ▸ last.1⟩, said ▸ last.2⟩

theorem read_from_plain (s board : State) (plain : s.catalog.Plain) (readFrom : s.ReadFrom board) :
    ∀ r ∈ s.rules, r.Plain := by
  obtain ⟨b, read, rules⟩ := readFrom.read
  rw [rules]
  exact tokens_plain board (readFrom.remains.catalog ▸ plain) b read

theorem reached_plain (catalog : Catalog) (level : Level) (s : State) (plain : catalog.Plain)
    (reached : Reached catalog level s) : ∀ r ∈ s.rules, r.Plain := by
  induction reached with
  | loaded built first accepted settled =>
      have between := reached_between catalog level first (.loaded built first accepted settled)
      obtain ⟨now, tokens⟩ := first.tokens_answer between.sound
      exact read_from_plain first built (between.sameCatalog.symm ▸ plain)
        (settle_read_from built first settled now tokens).1
  | played s t d before played ih =>
      rcases play_stages s t d played with ⟨_, message, rfl⟩ | ⟨g, lead⟩
      · exact ih
      · have between := reached_between catalog level t (.played s t d before played)
        obtain ⟨now, tokens⟩ := t.tokens_answer between.sound
        exact read_from_plain t g.fused (between.sameCatalog.symm ▸ plain)
          (follow_read_from g s.rules d t lead.follow now tokens)
  | retold s events _ ih => exact ih

theorem facts_told_by_signature (rules others : List Rule) :
    ((rules.map Rule.fact).Perm (others.map Rule.fact) → Rule.setSignature rules = Rule.setSignature others) ∧
      ((∀ r ∈ rules ++ others, r.Barless) → (Rule.setSignature rules = Rule.setSignature others ↔
        ((rules.map Rule.fact).map Rule.heard).Perm ((others.map Rule.fact).map Rule.heard))) ∧
      ((∀ r ∈ rules ++ others, r.Plain) → (Rule.setSignature rules = Rule.setSignature others ↔
        (rules.map Rule.fact).Perm (others.map Rule.fact))) ∧
      (∀ s t d, play s d = .ok t →
        (.ruleChange ∈ t.kinds ↔ Rule.setSignature t.rules ≠ Rule.setSignature s.rules)) ∧
      ∀ catalog level s t d, catalog.Plain → Reached catalog level s → play s d = .ok t →
        (.ruleChange ∈ t.kinds ↔ ¬ (t.rules.map Rule.fact).Perm (s.rules.map Rule.fact)) := by
  refine ⟨Rule.set_signature_of_facts rules others, Rule.set_signature_heard_iff rules others,
    Rule.set_signature_fact_iff rules others, change_told_iff, fun catalog level s t d plain reached played => ?_⟩
  rw [change_told_iff s t d played]
  refine not_congr (Rule.set_signature_fact_iff t.rules s.rules (List.forall_mem_append.mpr ⟨?_, ?_⟩))
  · exact reached_plain catalog level t plain (.played s t d reached played)
  · exact reached_plain catalog level s plain reached

theorem orchard_told_run :
    ∃ first t, Session.loaded .standard orchard = .ok first ∧ play first .left = .ok t ∧
      first.rules.map Rule.fact = [("human", .property .you), ("tree", .property .push)] ∧
      t.rules.map Rule.fact = [("human", .property .you), ("tree", .property .push), ("tree", .noun "rock")] := by
  have walked : (do
      let first ← Session.loaded .standard orchard
      let t ← play first .left
      .ok (first.rules.map Rule.fact, t.rules.map Rule.fact)) =
      Except.ok ([("human", .property .you), ("tree", .property .push)],
        [("human", .property .you), ("tree", .property .push), ("tree", .noun "rock")]) := by
    rfl
  obtain ⟨first, load, walked⟩ := Attempt.bind_ok _ _ _ walked
  obtain ⟨t, played, walked⟩ := Attempt.bind_ok _ _ _ walked
  simp only [Except.ok.injEq, Prod.mk.injEq] at walked
  exact ⟨first, t, load, played, walked⟩

theorem orchard_tells_its_change :
    ∃ first t, Session.loaded .standard orchard = .ok first ∧ play first .left = .ok t ∧
      Catalog.standard.Plain ∧ Reached .standard orchard first ∧ .ruleChange ∈ t.kinds ∧
      (∀ r ∈ t.rules ++ t.rules.reverse, r.Plain) ∧
      Rule.setSignature t.rules = Rule.setSignature t.rules.reverse := by
  obtain ⟨first, t, load, played, before, after⟩ := orchard_told_run
  have plain : Catalog.standard.Plain := by unfold Catalog.Plain; decide +kernel
  have reached := loaded_reached .standard orchard first load
  have other : ¬ (t.rules.map Rule.fact).Perm (first.rules.map Rule.fact) := by
    rw [before, after]
    decide
  have read := reached_plain .standard orchard t plain (.played first t .left reached played)
  have both : ∀ r ∈ t.rules ++ t.rules.reverse, r.Plain :=
    List.forall_mem_append.mpr ⟨read, fun r member => read r (List.mem_reverse.mp member)⟩
  obtain ⟨_, _, alike, _, told⟩ := facts_told_by_signature t.rules t.rules.reverse
  refine ⟨first, t, load, played, plain, reached, ?_, both, (alike both).mpr ?_⟩
  · exact (told .standard orchard first t .left plain reached played).mpr other
  · exact (List.reverse_perm t.rules).symm.map Rule.fact

def teahouse : Catalog where
  definitions := TokenBoard.crockery.definitions ++ [Catalog.objectTile "obj-human" "人" "human" "Human" [] false,
    Catalog.textTile "txt-human" "人" (.noun "human") "Human text",
    Catalog.textTile "txt-you" "遊" (.property .you) "You"]
  recipes := []
  distinct := by decide
  outputs_known := by decide

def tearoom : Level where
  heading := ⟨"tearoom", "Tea room", .null⟩
  extent := ⟨3, 4⟩
  placements := [⟨"txt-human", ⟨0, 0⟩⟩, ⟨"txt-topic", ⟨1, 0⟩⟩, ⟨"txt-you", ⟨2, 0⟩⟩, ⟨"obj-human", ⟨1, 1⟩⟩,
    ⟨"txt-tea-pot", ⟨0, 2⟩⟩, ⟨"txt-topic", ⟨1, 2⟩⟩, ⟨"txt-lid", ⟨2, 2⟩⟩, ⟨"txt-tea", ⟨0, 3⟩⟩, ⟨"txt-pot-lid", ⟨2, 3⟩⟩]

-- The connector is pushed from one sentence into the next: the facts are others, and nothing tells.
theorem other_facts_one_signature :
    ∃ first t, Session.loaded teahouse tearoom = .ok first ∧ play first .down = .ok t ∧ t.moves = first.moves + 1 ∧
      ¬ (t.rules.map Rule.fact).Perm (first.rules.map Rule.fact) ∧
      Rule.setSignature t.rules = Rule.setSignature first.rules ∧ .ruleChange ∉ t.kinds := by
  have walked : (do
      let first ← Session.loaded teahouse tearoom
      let t ← play first .down
      .ok (first.moves, t.moves, first.rules.map Rule.fact, t.rules.map Rule.fact, t.kinds)) =
      Except.ok (0, 1, [("human", .property .you), ("tea:pot", .noun "lid")],
        [("human", .property .you), ("tea", .noun "pot:lid")], [.move]) := by
    rfl
  obtain ⟨first, load, walked⟩ := Attempt.bind_ok _ _ _ walked
  obtain ⟨t, played, walked⟩ := Attempt.bind_ok _ _ _ walked
  simp only [Except.ok.injEq, Prod.mk.injEq] at walked
  obtain ⟨none, one, before, after, told⟩ := walked
  have silent : .ruleChange ∉ t.kinds := by
    rw [told]
    decide
  refine ⟨first, t, load, played, by omega, ?_, ?_, silent⟩
  · rw [before, after]
    decide
  · exact not_not.mp (mt (change_told_iff first t .down played).mpr silent)

end Turn

end KanjiPuzzle
