import KanjiPuzzle.Catalog.Standard
import KanjiPuzzle.Proofs.Grammar

set_option autoImplicit false

/- The order in which a board is scanned. All that it spells can be written down without regard to what was read before,
   and the rules are this list with the first of every signature kept. -/
namespace KanjiPuzzle

namespace Rule

def alike (r q : Rule) : Bool := r.signature == q.signature

def firstAt (spelled : List Rule) (r : Rule) : Nat := spelled.findIdx (·.alike r)

end Rule

-- All that can be said of a noun by the tiles of a cell, properties first.
def CellTokens.terms (tokens : CellTokens) : List Term :=
  tokens.properties.map (fun token => .property token.2) ++ tokens.nouns.map (fun token => .noun token.2)

namespace TokenBoard

theorem term_rules_eq (subject : Noun) (axis : Axis) (cells : List Cell) (tokens : CellTokens) :
    termRules subject axis cells tokens = tokens.terms.map fun term => ⟨subject, term, axis, cells⟩ := by
  rw [termRules, CellTokens.terms, List.map_append, List.map_map, List.map_map]
  rfl

section KeepFirst

theorem keep_first_known (found : List Rule) (r : Rule) (known : found.any (·.alike r) = true) :
    keepFirst found r = found :=
  if_pos known

theorem keep_first_fresh (found : List Rule) (r : Rule) (fresh : found.any (·.alike r) = false) :
    keepFirst found r = found ++ [r] :=
  if_neg (Bool.eq_false_iff.mp fresh)

theorem foldl_keep_first_erases (rules found : List Rule) :
    rules.foldl keepFirst found =
      found ++ (rules.filter fun r => !found.any (·.alike r)).eraseDupsBy Rule.alike := by
  induction rules generalizing found with
  | nil => exact (List.append_nil found).symm
  | cons r rest ih =>
      rw [List.foldl_cons, ih]
      cases known : found.any (·.alike r) with
      | true =>
          rw [keep_first_known found r known, List.filter_cons_of_neg]
          simp [known]
      | false =>
          rw [keep_first_fresh found r known, List.filter_cons_of_pos (by simp [known]), List.eraseDupsBy_cons,
            List.filter_filter, List.append_assoc, List.singleton_append]
          congr 3
          refine List.filter_congr fun q _ => ?_
          have symmetric : r.alike q = q.alike r := BEq.comm
          rw [List.any_append, List.any_cons, List.any_nil, Bool.or_false, symmetric]
          cases q.alike r <;> simp

theorem first_at_lt (before : List Rule) (q : Rule) (member : q ∈ before) : q.firstAt before < before.length :=
  List.findIdx_lt_length_of_exists ⟨q, member, beq_self_eq_true _⟩

theorem first_at_longer (before rest : List Rule) (q : Rule) (member : q ∈ before) :
    q.firstAt (before ++ rest) = q.firstAt before := by
  rw [Rule.firstAt, List.findIdx_append]
  exact if_pos (first_at_lt before q member)

theorem first_at_new (before : List Rule) (r : Rule) (fresh : ∀ q ∈ before, q.alike r = false) :
    r.firstAt (before ++ [r]) = before.length := by
  have absent : before.findIdx (·.alike r) = before.length := List.findIdx_eq_length.mpr fresh
  rw [Rule.firstAt, List.findIdx_append, if_neg (Nat.not_lt.mpr (Nat.le_of_eq absent.symm))]
  simp [Rule.alike]

theorem keep_first_order (before : List Rule) (r : Rule)
    (order : (before.foldl keepFirst []).Pairwise fun a b => a.firstAt before < b.firstAt before) :
    (keepFirst (before.foldl keepFirst []) r).Pairwise fun a b =>
      a.firstAt (before ++ [r]) < b.firstAt (before ++ [r]) := by
  have still := order.imp_of_mem (S := fun a b => a.firstAt (before ++ [r]) < b.firstAt (before ++ [r]))
    fun {a b} sooner later less => by
      rw [first_at_longer before [r] a (kept_subset before a sooner),
        first_at_longer before [r] b (kept_subset before b later)]
      exact less
  cases known : (before.foldl keepFirst []).any (·.alike r) with
  | true =>
      rw [keep_first_known _ r known]
      exact still
  | false =>
      have fresh : ∀ q ∈ before, q.alike r = false := by
        intro q member
        obtain ⟨rule, kept, same⟩ := foldl_keep_first_tells before [] q member
        have other := List.any_eq_false.mp known rule kept
        rw [Rule.alike, ← same]
        exact Bool.eq_false_iff.mpr other
      rw [keep_first_fresh _ r known, List.pairwise_append]
      refine ⟨still, List.pairwise_singleton _ r, fun a kept b last => ?_⟩
      rw [List.mem_singleton.mp last, first_at_new before r fresh,
        first_at_longer before [r] a (kept_subset before a kept)]
      exact first_at_lt before a (kept_subset before a kept)

-- The first spellings are kept in the order in which they were met. The induction is on what is still to be read.
theorem kept_in_order (before rest : List Rule)
    (order : (before.foldl keepFirst []).Pairwise fun a b => a.firstAt before < b.firstAt before) :
    ((before ++ rest).foldl keepFirst []).Pairwise fun a b =>
      a.firstAt (before ++ rest) < b.firstAt (before ++ rest) := by
  induction rest generalizing before with
  | nil =>
      rw [List.append_nil]
      exact order
  | cons r rest ih =>
      rw [List.append_cons]
      refine ih (before ++ [r]) ?_
      rw [List.foldl_append]
      exact keep_first_order before r order

end KeepFirst

section Scan

variable (b : TokenBoard)

def speaks (cell : Cell) : Bool := (b.tokensAt cell).any (!·.terms.isEmpty)

def joins (cell : Cell) : Bool := (b.tokensAt cell).any (·.conjunction)

def reaches (origin : Cell) (axis : Axis) (place k : Nat) : Bool :=
  (List.range k).all fun j =>
    b.speaks (along origin axis (place + 2 * j)) && b.joins (along origin axis (place + 2 * j + 1))

def slotRules (subject : Noun) (origin : Cell) (axis : Axis) (place : Nat) : List Rule :=
  (b.tokensAt (along origin axis place)).toList.flatMap fun tokens =>
    tokens.terms.map fun term => ⟨subject, term, axis, [origin, along origin axis 1, along origin axis place]⟩

def chainRules (subject : Noun) (origin : Cell) (axis : Axis) (links place : Nat) : List Rule :=
  ((List.range links).filter (b.reaches origin axis place)).flatMap fun k =>
    b.slotRules subject origin axis (place + 2 * k)

def subjects (origin : Cell) (axis : Axis) : List Noun :=
  if (b.tokensAt (along origin axis 1)).any (·.topic) then
    (b.tokensAt origin).toList.flatMap fun tokens => tokens.nouns.map Prod.snd
  else []

def candidates : List Rule :=
  b.extent.rows.flatMap fun y => b.extent.columns.flatMap fun x =>
    [Axis.horizontal, Axis.vertical].flatMap fun axis => (b.subjects ⟨x, y⟩ axis).flatMap fun subject =>
      b.chainRules subject ⟨x, y⟩ axis b.longest 2

theorem reaches_succ (origin : Cell) (axis : Axis) (place k : Nat) :
    b.reaches origin axis place (k + 1) =
      (b.speaks (along origin axis place) && b.joins (along origin axis (place + 1)) &&
        b.reaches origin axis (place + 2) k) := by
  have further (j : Nat) : place + 2 * (j + 1) = place + 2 + 2 * j := by omega
  simp only [reaches, List.range_succ_eq_map, List.all_cons, List.all_map, Function.comp_def, Nat.succ_eq_add_one,
    further, Nat.mul_zero, Nat.add_zero]

theorem speaks_eq (subject : Noun) (origin : Cell) (axis : Axis) (place : Nat) :
    b.speaks (along origin axis place) = !(b.slotRules subject origin axis place).isEmpty := by
  rw [speaks, slotRules]
  cases b.tokensAt (along origin axis place) with
  | none => rfl
  | some tokens => simp

theorem chain_rules_succ (subject : Noun) (origin : Cell) (axis : Axis) (links place : Nat) :
    b.chainRules subject origin axis (links + 1) place = b.slotRules subject origin axis place ++
      if b.speaks (along origin axis place) && b.joins (along origin axis (place + 1)) then
        b.chainRules subject origin axis links (place + 2)
      else [] := by
  have first : b.reaches origin axis place 0 = true := rfl
  have further (k : Nat) : place + 2 * (k + 1) = place + 2 + 2 * k := by omega
  rw [chainRules, List.range_succ_eq_map, List.filter_cons_of_pos first, List.flatMap_cons, List.filter_map,
    List.flatMap_map]
  simp only [Function.comp_def, Nat.succ_eq_add_one, reaches_succ, further, Nat.mul_zero, Nat.add_zero]
  cases b.speaks (along origin axis place) && b.joins (along origin axis (place + 1)) with
  | true =>
      simp only [Bool.true_and, if_true]
      rfl
  | false => simp

theorem spelled_terms_eq (subject : Noun) (origin : Cell) (axis : Axis) (links place : Nat) :
    b.spelledTerms subject origin axis links place = b.chainRules subject origin axis links place := by
  induction links generalizing place with
  | zero => rfl
  | succ links ih =>
      rw [spelledTerms, chain_rules_succ]
      cases here : b.tokensAt (along origin axis place) with
      | none => simp [slotRules, speaks, here]
      | some tokens =>
          have slot : b.slotRules subject origin axis place =
              termRules subject axis [origin, along origin axis 1, along origin axis place] tokens := by
            simp [slotRules, here, term_rules_eq]
          dsimp only
          rw [← slot, b.speaks_eq subject]
          cases b.slotRules subject origin axis place with
          | nil => rfl
          | cons rule rules =>
              dsimp only
              rw [List.isEmpty_cons, Bool.not_false, Bool.true_and, joins]
              cases b.tokensAt (along origin axis (place + 1)) with
              | none => rfl
              | some link =>
                  rw [ih]
                  rfl

theorem spelled_at_eq (origin : Cell) (axis : Axis) :
    b.spelledAt origin axis = (b.subjects origin axis).flatMap fun subject =>
      b.chainRules subject origin axis b.longest 2 := by
  rw [spelledAt, subjects]
  cases b.tokensAt origin with
  | none => simp
  | some start =>
      cases b.tokensAt (along origin axis 1) with
      | none => rfl
      | some link =>
          cases topic : link.topic with
          | false => simp [topic]
          | true => simp [topic, spelled_terms_eq, List.flatMap_map]

theorem spelled_eq : b.spelled = b.candidates := by
  simp only [spelled, candidates, spelled_at_eq]

theorem first_spelling_wins :
    b.rules = b.candidates.eraseDupsBy Rule.alike ∧
      (∀ r, r ∈ b.candidates ↔ ∃ origin k, b.Spells origin k r) ∧
      (∀ r ∈ b.rules, b.candidates.find? (·.alike r) = some r) ∧
      b.rules.Pairwise fun r q => r.firstAt b.candidates < q.firstAt b.candidates := by
  have kept : b.rules = b.candidates.foldl keepFirst [] := by rw [rules_eq, spelled_eq]
  refine ⟨?_, fun r => ?_, fun r member => ?_, ?_⟩
  · rw [kept, foldl_keep_first_erases, List.nil_append]
    exact congrArg _ (List.filter_eq_self.mpr fun _ _ => rfl)
  · rw [← spelled_eq]
    exact mem_spelled_iff b r
  · obtain ⟨before, after, split, first⟩ := kept_first b.candidates r (kept ▸ member)
    refine List.find?_eq_some_iff_append.mpr ⟨beq_self_eq_true _, before, after, split, fun q sooner => ?_⟩
    have other : q.alike r = false := beq_false_of_ne (first q sooner)
    simp [other]
  · rw [kept]
    exact kept_in_order [] b.candidates .nil

example :
    (do
      let b ← ofTiles ⟨3, 5⟩ .standard [⟨1, "txt-tree", ⟨0, 0⟩⟩, ⟨2, "txt-topic", ⟨1, 0⟩⟩, ⟨3, "obj-rock", ⟨2, 0⟩⟩,
        ⟨4, "txt-push", ⟨2, 0⟩⟩, ⟨5, "txt-topic", ⟨0, 1⟩⟩, ⟨6, "txt-push", ⟨0, 2⟩⟩, ⟨7, "txt-and", ⟨0, 3⟩⟩,
        ⟨8, "txt-gate", ⟨0, 4⟩⟩]
      Except.ok b.rules : Attempt (List Rule)) = .ok
      [⟨"tree", .property .push, .horizontal, [⟨0, 0⟩, ⟨1, 0⟩, ⟨2, 0⟩]⟩,
        ⟨"tree", .noun "rock", .horizontal, [⟨0, 0⟩, ⟨1, 0⟩, ⟨2, 0⟩]⟩,
        ⟨"tree", .noun "gate", .vertical, [⟨0, 0⟩, ⟨0, 1⟩, ⟨0, 4⟩]⟩] := by rfl

end Scan

end TokenBoard

end KanjiPuzzle
