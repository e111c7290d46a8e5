import KanjiPuzzle.Proofs.Facts
import KanjiPuzzle.Proofs.Literals
import KanjiPuzzle.Proofs.Novelty
import Mathlib

set_option autoImplicit false

/- What the key of a rule tells. A noun can hold every mark that divides a key, so a key is read from its end: a number
   has none of the marks, a cell no colon and no semicolon, and the word of a property no colon. -/
namespace KanjiPuzzle

namespace Text

theorem joined_bare (mark : Char) (divider : String) (ws : List String) (apart : mark ∉ divider.toList)
    (bare : ∀ w ∈ ws, mark ∉ w.toList) : mark ∉ (divider.intercalate ws).toList := by
  induction ws with
  | nil => simp
  | cons w rest ih =>
      obtain ⟨first, others⟩ := List.forall_mem_cons.mp bare
      cases rest with
      | nil => simpa using first
      | cons v later =>
          rw [String.intercalate_cons_cons, String.toList_append, String.toList_append, List.mem_append, List.mem_append]
          exact not_or.mpr ⟨not_or.mpr ⟨first, apart⟩, ih others⟩

end Text

namespace Rule

theorem number_bare (mark : Char) (n : Int) (minus : mark ≠ '-') (letter : mark.isDigit = false) :
    mark ∉ (toString n).toList := by
  intro member
  rw [Json.integer_to_list] at member
  rcases List.mem_append.mp member with sign | digit
  · by_cases negative : n < 0
    · rw [if_pos negative] at sign
      exact minus (List.mem_singleton.mp sign)
    · rw [if_neg negative] at sign
      cases sign
  · have isDigit := Nat.isDigit_of_mem_toDigits (by decide) (by decide) digit
    exact Bool.false_ne_true (letter.symm.trans isDigit)

theorem cell_text_joined (c : Cell) : cellText c = (String.singleton ',').intercalate [toString c.x, toString c.y] := by
  rw [String.intercalate_cons_cons, String.intercalate_singleton]
  rfl

theorem cell_text_bare (mark : Char) (c : Cell) (comma : mark ≠ ',') (minus : mark ≠ '-')
    (letter : mark.isDigit = false) : mark ∉ (cellText c).toList := by
  rw [cell_text_joined]
  apply Text.joined_bare mark
  · simpa using comma
  · intro w member
    rcases List.mem_pair.mp member with rfl | rfl
    · exact number_bare mark c.x minus letter
    · exact number_bare mark c.y minus letter

theorem number_filled (n : Int) : toString n ≠ "" := by
  intro empty
  obtain ⟨c, cs, spelled, _⟩ := Json.integer_starts n
  rw [empty] at spelled
  cases spelled

theorem cell_text_injective : Function.Injective cellText := by
  intro a b same
  have plain (c : Cell) : ∀ w ∈ [toString c.x, toString c.y], w ≠ "" ∧ ',' ∉ w.toList := by
    intro w member
    rcases List.mem_pair.mp member with rfl | rfl
    · exact ⟨number_filled c.x, number_bare ',' c.x (by decide) (by decide)⟩
    · exact ⟨number_filled c.y, number_bare ',' c.y (by decide) (by decide)⟩
  rw [cell_text_joined, cell_text_joined] at same
  have numbers := Text.joined_injective ',' _ _ (plain a) (plain b) same
  have xs : a.x = b.x := Int.repr_injective (List.cons.inj numbers).1
  have ys : a.y = b.y := Int.repr_injective (List.cons.inj (List.cons.inj numbers).2).1
  cases a
  cases b
  exact congr (congrArg Cell.mk xs) ys

def cellsText (cells : List Cell) : String := ";".intercalate (cells.map cellText)

theorem cells_text_colonless (cells : List Cell) : ':' ∉ (cellsText cells).toList := by
  apply Text.joined_bare ':'
  · decide
  · intro w member
    obtain ⟨c, _, rfl⟩ := List.mem_map.mp member
    exact cell_text_bare ':' c (by decide) (by decide) (by decide)

theorem cells_text_injective : Function.Injective cellsText := by
  intro cells places same
  have plain (some : List Cell) : ∀ w ∈ some.map cellText, w ≠ "" ∧ ';' ∉ w.toList := by
    intro w member
    obtain ⟨c, _, rfl⟩ := List.mem_map.mp member
    refine ⟨fun empty => ?_, cell_text_bare ';' c (by decide) (by decide) (by decide)⟩
    have comma : ',' ∈ (cellText c).toList := by simp [cellText]
    rw [empty] at comma
    cases comma
  have texts := Text.joined_injective ';' _ _ (plain cells) (plain places) same
  exact List.map_injective_iff.mpr cell_text_injective texts

-- What two rules say, and where they say it, is the same.
def Respells (a b : Rule) : Prop := a.subject = b.subject ∧ a.term = b.term ∧ a.cells = b.cells

instance (a b : Rule) : Decidable (a.Respells b) := inferInstanceAs (Decidable (_ ∧ _))

-- The last colon of a key stands before its cells, and what stands before it is the signature of a grant.
theorem grant_key_iff (a b : Rule) (p : Property) (grants : a.term = .property p) : b.key = a.key ↔ b.Respells a := by
  constructor
  · intro same
    obtain ⟨signatures, cells⟩ :=
      last_word _ _ _ _ (cells_text_colonless b.cells) (cells_text_colonless a.cells) same
    obtain ⟨subjects, terms⟩ := a.grant_told b p grants signatures
    exact ⟨subjects, terms, cells_text_injective cells⟩
  · intro respells
    obtain ⟨subjects, terms, cells⟩ := respells
    exact b.key_alike a (b.signature_alike a subjects terms) cells

end Rule

namespace Roles

theorem new_rules_eq (before now : List Rule) :
    newRules before now =
      now.filter fun r => decide (r.isGrant = true ∧ ∀ known ∈ before, ¬ known.Respells r) := by
  apply List.filter_congr
  intro r _
  apply Bool.eq_iff_iff.mpr
  rw [decide_eq_true_iff, Bool.and_eq_true, Bool.not_eq_true', List.contains_eq_mem, decide_eq_false_iff_not]
  apply and_congr_right
  intro grant
  obtain ⟨p, grants⟩ : ∃ p, r.term = .property p := by
    rw [Rule.isGrant] at grant
    cases term : r.term with
    | property p => exact ⟨p, rfl⟩
    | noun target => simp [term] at grant
  constructor
  · intro unknown known member respells
    apply unknown
    refine List.mem_map.mpr ⟨known, List.mem_filter.mpr ⟨member, ?_⟩, (Rule.grant_key_iff r known p grants).mpr respells⟩
    rw [Rule.isGrant, respells.2.1, grants]
  · intro unknown member
    obtain ⟨known, listed, same⟩ := List.mem_map.mp member
    exact unknown known (List.mem_filter.mp listed).1 ((Rule.grant_key_iff r known p grants).mp same)

theorem grants_told_by_key :
    (∀ (noun other : Noun) (p q : Property) (axis turned : Axis) (cells places : List Cell),
      Rule.key ⟨noun, .property p, axis, cells⟩ = Rule.key ⟨other, .property q, turned, places⟩ ↔
        noun = other ∧ p = q ∧ cells = places) ∧
      ∀ (s : State) (before : List Rule), captureNew s before = Attempt.through capture s
        (s.rules.filter fun r => decide (r.isGrant = true ∧ ∀ known ∈ before, ¬ known.Respells r)) := by
  constructor
  · intro noun other p q axis turned cells places
    rw [Rule.grant_key_iff ⟨other, .property q, turned, places⟩ ⟨noun, .property p, axis, cells⟩ q rfl, Rule.Respells,
      Term.property.injEq]
  · intro s before
    rw [captureNew, new_rules_eq]

end Roles

end KanjiPuzzle
