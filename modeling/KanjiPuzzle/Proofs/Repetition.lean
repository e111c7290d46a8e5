import KanjiPuzzle.Proofs.InForce
import KanjiPuzzle.Proofs.TileSentences

set_option autoImplicit false

/- What repetitions leave in force. What a sentence says is told by its signature, so a transform is lost where its
   signature is that of another one: the colon that divides a signature may stand in a noun. -/
namespace KanjiPuzzle

theorem Rule.signature_alike (a b : Rule) (subjects : a.subject = b.subject) (terms : a.term = b.term) :
    a.signature = b.signature := by
  rw [signature, signature, subjects, terms]

theorem Rule.grant_told (a b : Rule) (p : Property) (grants : a.term = .property p) (same : b.signature = a.signature) :
    b.subject = a.subject ∧ b.term = a.term := by
  have mark := signature_mark b a same
  rw [grants] at mark
  cases term : b.term with
  | noun target => simp [term, Term.mark] at mark
  | property q =>
      obtain ⟨subjects, terms⟩ := signature_tells b a (term ▸ property_word_plain q) (grants ▸ property_word_plain p) same
      exact ⟨subjects, term.symm.trans terms⟩

namespace TokenBoard

variable (b : TokenBoard)

theorem grants_rules_iff (noun : Noun) (p : Property) :
    (Effects.ofRules b.rules).grants noun p = true ↔ ∃ r ∈ b.spelled, r.subject = noun ∧ r.term = .property p := by
  rw [Effects.grants_of_rules_iff]
  constructor
  · rintro ⟨r, member, said⟩
    exact ⟨r, rules_among_spelled b r member, said⟩
  · rintro ⟨r, member, subject, grants⟩
    obtain ⟨rule, kept, same⟩ := spelled_among_rules b r member
    obtain ⟨subjects, terms⟩ := r.grant_told rule p grants same
    exact ⟨rule, kept, subjects.trans subject, terms.trans grants⟩

-- The first sentence that transforms a noun stands behind another one of the same signature.
def Masked (noun : Noun) : Prop :=
  ∃ before r after, b.spelled = before ++ r :: after ∧ (∃ target, r.targetFor? noun = some target) ∧
    (∀ q ∈ before, q.targetFor? noun = none) ∧ ∃ mask ∈ before, mask.signature = r.signature

theorem unmasked_target (noun : Noun) (seen : ¬ b.Masked noun) :
    b.rules.findSome? (·.targetFor? noun) = b.spelled.findSome? (·.targetFor? noun) := by
  cases first : b.spelled.findSome? (·.targetFor? noun) with
  | none =>
      rw [List.findSome?_eq_none_iff] at first ⊢
      exact fun r member => first r (rules_among_spelled b r member)
  | some target =>
      obtain ⟨before, r, after, split, turns, silent⟩ := List.findSome?_eq_some_iff.mp first
      -- What is read before it is no transform of the noun, and it is read itself.
      have read : keepFirst (before.foldl keepFirst []) r = before.foldl keepFirst [] ++ [r] := by
        rw [keepFirst, if_neg]
        intro known
        obtain ⟨mask, kept, same⟩ := List.any_eq_true.mp known
        exact seen ⟨before, r, after, split, ⟨target, turns⟩, silent, mask, kept_subset before mask kept, eq_of_beq same⟩
      have quiet : (before.foldl keepFirst []).findSome? (·.targetFor? noun) = none := by
        rw [List.findSome?_eq_none_iff]
        exact fun q kept => silent q (kept_subset before q kept)
      obtain ⟨rest, grown⟩ := foldl_keep_first_grows after (before.foldl keepFirst [] ++ [r])
      rw [rules_eq, split, List.foldl_append, List.foldl_cons, read, ← grown, List.findSome?_append,
        List.findSome?_append, quiet]
      simp [turns]

theorem masked_target (noun : Noun) (masked : b.Masked noun) :
    b.rules.findSome? (·.targetFor? noun) ≠ b.spelled.findSome? (·.targetFor? noun) := by
  obtain ⟨before, r, after, split, ⟨target, turns⟩, silent, mask, sooner, same⟩ := masked
  intro equal
  have first : b.spelled.findSome? (·.targetFor? noun) = some target :=
    List.findSome?_eq_some_iff.mpr ⟨before, r, after, split, turns, silent⟩
  obtain ⟨rule, kept, told⟩ := List.exists_of_findSome?_eq_some (equal.trans first)
  have alike : rule.signature = r.signature := by
    obtain ⟨subject, term⟩ := (rule.target_for_iff noun target).mp told
    obtain ⟨other, said⟩ := (r.target_for_iff noun target).mp turns
    exact rule.signature_alike r (subject.trans other.symm) (term.trans said.symm)
  have late : rule ∉ before := fun early => by simp [silent rule early] at told
  obtain ⟨front, back, cut, fresh⟩ := rules_first b rule kept
  -- The rule that was kept would have to stand before the mask.
  have behind : mask ∈ front := by
    rcases List.append_eq_append_iff.mp (split.symm.trans cut) with ⟨between, longer, _⟩ | ⟨between, longer, rest⟩
    · exact longer ▸ List.mem_append_left between sooner
    · cases between with
      | nil => exact (longer.trans (List.append_nil front)) ▸ sooner
      | cons next between =>
          refine absurd ?_ late
          rw [longer, (List.cons.inj rest).1]
          exact List.mem_append_right front List.mem_cons_self
  exact fresh mask behind (same.trans alike.symm)

theorem shows_listed (cell : Cell) (shown : CellTokens → Prop) (shows : b.Shows cell shown) :
    ∃ entry ∈ b.cells, shown entry.2 := by
  obtain ⟨_, tokens, found, holds⟩ := (shows_iff b cell shown).mp shows
  generalize b.cells = cells at found
  induction cells with
  | nil => cases found
  | cons head rest ih =>
      rw [cellTokens?] at found
      split at found
      case isTrue => exact ⟨head, List.mem_cons_self, Option.some.inj found ▸ holds⟩
      case isFalse =>
        obtain ⟨entry, member, fits⟩ := ih found
        exact ⟨entry, List.mem_cons_of_mem head member, fits⟩

theorem plain_spelled (plain : ∀ entry ∈ b.cells, ∀ token ∈ entry.2.nouns, ':' ∉ token.2.toList) (r : Rule)
    (member : r ∈ b.spelled) : ':' ∉ r.term.word.toList := by
  obtain ⟨origin, k, spells⟩ := (mem_spelled_iff b r).mp member
  obtain ⟨entry, listed, tells⟩ := shows_listed b _ _ spells.term
  cases term : r.term with
  | property p => exact property_word_plain p
  | noun target =>
      rw [term] at tells
      obtain ⟨id, token⟩ := tells
      exact plain entry listed (id, target) token

theorem plain_unmasked (plain : ∀ entry ∈ b.cells, ∀ token ∈ entry.2.nouns, ':' ∉ token.2.toList) (noun : Noun) :
    ¬ b.Masked noun := by
  rintro ⟨before, r, after, split, ⟨target, turns⟩, silent, mask, sooner, same⟩
  have spelled : mask ∈ b.spelled ∧ r ∈ b.spelled := by
    rw [split]
    exact ⟨List.mem_append_left _ sooner, List.mem_append_right _ List.mem_cons_self⟩
  obtain ⟨subjects, terms⟩ :=
    signature_tells mask r (plain_spelled b plain mask spelled.1) (plain_spelled b plain r spelled.2) same
  obtain ⟨subject, term⟩ := (r.target_for_iff noun target).mp turns
  have told := (mask.target_for_iff noun target).mpr ⟨subjects.trans subject, terms.trans term⟩
  rw [silent mask sooner] at told
  cases told

theorem first_spellings_suffice_iff :
    (Effects.ofRules b.rules).SameProperties (Effects.ofRules b.spelled) ∧
      (∀ noun, (Effects.ofRules b.rules).targetOf? noun = (Effects.ofRules b.spelled).targetOf? noun ↔ ¬ b.Masked noun) ∧
      ((∀ entry ∈ b.cells, ∀ token ∈ entry.2.nouns, ':' ∉ token.2.toList) → ∀ noun, ¬ b.Masked noun) := by
  refine ⟨Effects.same_properties b.rules b.spelled fun noun p => ?_, fun noun => ?_, plain_unmasked b⟩
  · rw [grants_rules_iff, Effects.grants_of_rules_iff]
  · rw [Effects.target_of_rules, Effects.target_of_rules]
    exact ⟨fun equal masked => masked_target b noun masked equal, unmasked_target b noun⟩

theorem rock_sentence_repeated :
    let tiles : List Tile := [⟨1, "txt-tree", ⟨0, 0⟩⟩, ⟨2, "txt-topic", ⟨1, 0⟩⟩, ⟨3, "txt-rock", ⟨2, 0⟩⟩,
      ⟨4, "txt-and", ⟨3, 0⟩⟩, ⟨5, "txt-rock", ⟨4, 0⟩⟩, ⟨6, "txt-and", ⟨5, 0⟩⟩, ⟨7, "txt-gate", ⟨6, 0⟩⟩]
    ∃ b, ofTiles ⟨7, 1⟩ .standard tiles = .ok b ∧ b.spelled.length = 3 ∧ b.rules.length = 2 ∧
      (∀ noun, ¬ b.Masked noun) ∧
      (Effects.ofRules b.rules).targetOf? "tree" = (Effects.ofRules b.spelled).targetOf? "tree" := by
  intro tiles
  have read : (do
      let b ← ofTiles ⟨7, 1⟩ .standard tiles
      .ok (b.cells, b.spelled.length, b.rules.length)) = Except.ok
      ([(⟨0, 0⟩, ⟨[(1, "tree")], [], false, false⟩), (⟨1, 0⟩, ⟨[], [], true, false⟩),
        (⟨2, 0⟩, ⟨[(3, "rock")], [], false, false⟩), (⟨3, 0⟩, ⟨[], [], false, true⟩),
        (⟨4, 0⟩, ⟨[(5, "rock")], [], false, false⟩), (⟨5, 0⟩, ⟨[], [], false, true⟩),
        (⟨6, 0⟩, ⟨[(7, "gate")], [], false, false⟩)], 3, 2) := by rfl
  obtain ⟨b, read, counted⟩ := Attempt.bind_ok _ _ _ read
  simp only [Except.ok.injEq, Prod.mk.injEq] at counted
  obtain ⟨cells, three, two⟩ := counted
  obtain ⟨_, targets, unmasked⟩ := first_spellings_suffice_iff b
  have plain := unmasked (by rw [cells]; decide)
  exact ⟨b, read, three, two, plain, (targets "tree").mpr (plain "tree")⟩

def crockery : Catalog where
  definitions := [Catalog.textTile "txt-tea" "茶" (.noun "tea") "Tea text",
    Catalog.textTile "txt-pot-lid" "蓋" (.noun "pot:lid") "Pot lid text",
    Catalog.textTile "txt-tea-pot" "瓶" (.noun "tea:pot") "Tea pot text",
    Catalog.textTile "txt-lid" "栓" (.noun "lid") "Lid text",
    Catalog.textTile "txt-topic" "は" (.connector .topic) "Topic"]
  recipes := []
  distinct := by decide
  outputs_known := by decide

theorem lid_sentence_lost :
    let tiles : List Tile := [⟨1, "txt-tea", ⟨0, 0⟩⟩, ⟨2, "txt-topic", ⟨1, 0⟩⟩, ⟨3, "txt-pot-lid", ⟨2, 0⟩⟩,
      ⟨4, "txt-tea-pot", ⟨0, 1⟩⟩, ⟨5, "txt-topic", ⟨1, 1⟩⟩, ⟨6, "txt-lid", ⟨2, 1⟩⟩]
    ∃ b, ofTiles ⟨3, 2⟩ crockery tiles = .ok b ∧ (Effects.ofRules b.spelled).targetOf? "tea:pot" = some "lid" ∧
      (Effects.ofRules b.rules).targetOf? "tea:pot" = none := by
  intro tiles
  have read : (do
      let b ← ofTiles ⟨3, 2⟩ crockery tiles
      .ok ((Effects.ofRules b.spelled).targetOf? "tea:pot", (Effects.ofRules b.rules).targetOf? "tea:pot")) =
      Except.ok (some "lid", none) := by rfl
  obtain ⟨b, read, targets⟩ := Attempt.bind_ok _ _ _ read
  simp only [Except.ok.injEq, Prod.mk.injEq] at targets
  exact ⟨b, read, targets⟩

end TokenBoard

end KanjiPuzzle
