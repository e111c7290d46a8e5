import KanjiPuzzle.Proofs.Spelling

set_option autoImplicit false

/- The grammar of sentences, and that a board is read by it: a noun, the topic connector in the next cell, and terms in
   every second cell from there on, each of them joined to the one before by a conjunction. -/
namespace KanjiPuzzle

def CellTokens.tells (tokens : CellTokens) : Term → Prop
  | .property p => ∃ id, (id, p) ∈ tokens.properties
  | .noun noun => ∃ id, (id, noun) ∈ tokens.nouns

def Definition.tells (d : Definition) : Term → Prop
  | .property p => d.property? = some p
  | .noun noun => d.noun? = some noun

namespace TokenBoard

variable (b : TokenBoard)

def Shows (cell : Cell) (Q : CellTokens → Prop) : Prop := ∃ tokens, b.tokensAt cell = some tokens ∧ Q tokens

structure Chained (origin : Cell) (axis : Axis) (place k : Nat) : Prop where
  terms : ∀ j ≤ k, ∃ term, b.Shows (along origin axis (place + 2 * j)) (·.tells term)
  links : ∀ j < k, b.Shows (along origin axis (place + 2 * j + 1)) (·.conjunction = true)

theorem shows_inside (cell : Cell) (Q : CellTokens → Prop) (shows : b.Shows cell Q) :
    b.extent.contains cell = true := by
  obtain ⟨tokens, found, _⟩ := shows
  rw [tokensAt] at found
  split at found
  case isTrue inside => exact inside
  case isFalse => cases found

theorem mem_term_rules_iff (subject : Noun) (axis : Axis) (cells : List Cell) (tokens : CellTokens) (r : Rule) :
    r ∈ termRules subject axis cells tokens ↔ tokens.tells r.term ∧ r = ⟨subject, r.term, axis, cells⟩ := by
  simp only [termRules, List.mem_append, List.mem_map]
  constructor
  · rintro (⟨⟨id, p⟩, member, rfl⟩ | ⟨⟨id, noun⟩, member, rfl⟩)
    · exact ⟨⟨id, member⟩, rfl⟩
    · exact ⟨⟨id, member⟩, rfl⟩
  · rintro ⟨tells, same⟩
    rw [same]
    cases term : r.term with
    | property p =>
        rw [term] at tells
        obtain ⟨id, member⟩ := tells
        exact .inl ⟨(id, p), member, rfl⟩
    | noun noun =>
        rw [term] at tells
        obtain ⟨id, member⟩ := tells
        exact .inr ⟨(id, noun), member, rfl⟩

theorem term_rules_eq_nil_iff (subject : Noun) (axis : Axis) (cells : List Cell) (tokens : CellTokens) :
    termRules subject axis cells tokens = [] ↔ ∀ term, ¬ tokens.tells term := by
  rw [List.eq_nil_iff_forall_not_mem]
  constructor
  · exact fun none term tells => none ⟨subject, term, axis, cells⟩ ((mem_term_rules_iff _ _ _ _ _).mpr ⟨tells, rfl⟩)
  · exact fun silent r member => silent r.term ((mem_term_rules_iff _ _ _ _ _).mp member).1

theorem chained_succ (origin : Cell) (axis : Axis) (place k : Nat) :
    b.Chained origin axis place (k + 1) ↔ (∃ term, b.Shows (along origin axis place) (·.tells term)) ∧
      b.Shows (along origin axis (place + 1)) (·.conjunction = true) ∧ b.Chained origin axis (place + 2) k := by
  have further (j : Nat) : place + 2 + 2 * j = place + 2 * (j + 1) := by omega
  constructor
  · rintro ⟨terms, links⟩
    refine ⟨terms 0 (Nat.zero_le _), links 0 (Nat.succ_pos k), fun j few => ?_, fun j few => ?_⟩
    · rw [further]
      exact terms (j + 1) (Nat.succ_le_succ few)
    · rw [further]
      exact links (j + 1) (Nat.succ_lt_succ few)
  · rintro ⟨first, link, terms, links⟩
    constructor
    · intro j few
      cases j with
      | zero => exact first
      | succ j => exact further j ▸ terms j (Nat.le_of_succ_le_succ few)
    · intro j few
      cases j with
      | zero => exact link
      | succ j => exact further j ▸ links j (Nat.lt_of_succ_lt_succ few)

theorem mem_spelled_terms_succ (subject : Noun) (origin : Cell) (axis : Axis) (links place : Nat) (r : Rule) :
    r ∈ b.spelledTerms subject origin axis (links + 1) place ↔
      (b.Shows (along origin axis place) (·.tells r.term) ∧
        r = ⟨subject, r.term, axis, [origin, along origin axis 1, along origin axis place]⟩) ∨
      ((∃ term, b.Shows (along origin axis place) (·.tells term)) ∧
        b.Shows (along origin axis (place + 1)) (·.conjunction = true) ∧
        r ∈ b.spelledTerms subject origin axis links (place + 2)) := by
  unfold Shows
  cases here : b.tokensAt (along origin axis place) with
  | none => simp [spelledTerms, here]
  | some tokens =>
      have first := mem_term_rules_iff subject axis [origin, along origin axis 1, along origin axis place] tokens r
      have silent := term_rules_eq_nil_iff subject axis [origin, along origin axis 1, along origin axis place] tokens
      simp only [Option.some.injEq, exists_eq_left', spelledTerms, here]
      cases said : termRules subject axis [origin, along origin axis 1, along origin axis place] tokens with
      | nil =>
          have none := silent.mp said
          simp [none]
      | cons rule rules =>
          have speaks : ∃ term, tokens.tells term := by
            refine Classical.byContradiction fun quiet => ?_
            have empty := silent.mpr fun term tells => quiet ⟨term, tells⟩
            rw [said] at empty
            cases empty
          rw [said] at first
          dsimp only
          rw [List.mem_append, first]
          cases b.tokensAt (along origin axis (place + 1)) with
          | none => simp
          | some link => cases joined : link.conjunction <;> simp [speaks, joined]

theorem mem_spelled_terms_iff (subject : Noun) (origin : Cell) (axis : Axis) (links place : Nat) (r : Rule) :
    r ∈ b.spelledTerms subject origin axis links place ↔ ∃ k < links, b.Chained origin axis place k ∧
      b.Shows (along origin axis (place + 2 * k)) (·.tells r.term) ∧
      r = ⟨subject, r.term, axis, [origin, along origin axis 1, along origin axis (place + 2 * k)]⟩ := by
  induction links generalizing place with
  | zero => simp [spelledTerms]
  | succ links ih =>
      have further (k : Nat) : place + 2 + 2 * k = place + 2 * (k + 1) := by omega
      rw [mem_spelled_terms_succ, ih]
      constructor
      · rintro (⟨tells, same⟩ | ⟨first, link, k, few, chained, tells, same⟩)
        · refine ⟨0, Nat.succ_pos links, ⟨fun j few => ?_, fun j few => by omega⟩, tells, same⟩
          rw [Nat.le_zero.mp few]
          exact ⟨r.term, tells⟩
        · rw [further] at tells same
          exact ⟨k + 1, Nat.succ_lt_succ few, (chained_succ b origin axis place k).mpr ⟨first, link, chained⟩, tells, same⟩
      · rintro ⟨k, few, chained, tells, same⟩
        cases k with
        | zero => exact .inl ⟨tells, same⟩
        | succ k =>
            obtain ⟨first, link, rest⟩ := (chained_succ b origin axis place k).mp chained
            rw [← further] at tells same
            exact .inr ⟨first, link, k, Nat.lt_of_succ_lt_succ few, rest, tells, same⟩

-- A cell that is on the board together with the origin is fewer steps away than the board has columns or rows.
theorem steps_lt_longest (origin : Cell) (axis : Axis) (steps : Nat) (start : b.extent.contains origin = true)
    (inside : b.extent.contains (along origin axis steps) = true) : steps < b.longest := by
  obtain ⟨⟨left, _⟩, top, _⟩ := (b.extent.contains_iff origin).mp start
  obtain ⟨⟨_, right⟩, _, bottom⟩ := (b.extent.contains_iff _).mp inside
  rw [longest]
  cases axis <;> simp only [along, Axis.offset] at right bottom <;> omega

-- What a rule must say and where, for the board to spell it.
structure Spells (origin : Cell) (k : Nat) (r : Rule) : Prop where
  subject : b.Shows origin (·.tells (.noun r.subject))
  topic : b.Shows (along origin r.axis 1) (·.topic = true)
  chained : b.Chained origin r.axis 2 k
  term : b.Shows (along origin r.axis (2 + 2 * k)) (·.tells r.term)
  cells : r.cells = [origin, along origin r.axis 1, along origin r.axis (2 + 2 * k)]

theorem mem_spelled_at_iff (origin : Cell) (axis : Axis) (r : Rule) :
    r ∈ b.spelledAt origin axis ↔ r.axis = axis ∧ ∃ k, b.Spells origin k r := by
  rw [spelledAt]
  constructor
  · intro member
    cases first : b.tokensAt origin with
    | none => simp [first] at member
    | some start =>
        cases second : b.tokensAt (along origin axis 1) with
        | none => simp [first, second] at member
        | some link =>
            simp only [first, second] at member
            split at member
            case isFalse => cases member
            case isTrue topic =>
              obtain ⟨⟨id, noun⟩, stands, spelled⟩ := List.mem_flatMap.mp member
              obtain ⟨k, _, chained, tells, same⟩ := (mem_spelled_terms_iff b _ _ _ _ _ _).mp spelled
              rw [same]
              exact ⟨rfl, k, ⟨start, first, id, stands⟩, ⟨link, second, topic⟩, chained, tells, rfl⟩
  · rintro ⟨rfl, k, ⟨start, first, id, stands⟩, ⟨link, second, topic⟩, chained, tells, same⟩
    have origin_inside := shows_inside b origin (fun _ => True) ⟨start, first, trivial⟩
    have few := steps_lt_longest b origin r.axis _ origin_inside (shows_inside b _ _ tells)
    simp only [first, second, if_pos topic]
    refine List.mem_flatMap.mpr ⟨(id, r.subject), stands, (mem_spelled_terms_iff b _ _ _ _ _ _).mpr ?_⟩
    refine ⟨k, by omega, chained, tells, ?_⟩
    rw [← same]

theorem mem_spelled_iff (r : Rule) : r ∈ b.spelled ↔ ∃ origin k, b.Spells origin k r := by
  simp only [spelled, List.mem_flatMap, Extent.rows, Extent.columns, Extent.mem_up_to, mem_spelled_at_iff]
  constructor
  · rintro ⟨y, _, x, _, axis, _, _, k, spells⟩
    exact ⟨⟨x, y⟩, k, spells⟩
  · rintro ⟨origin, k, spells⟩
    obtain ⟨columns, rows⟩ := (b.extent.contains_iff origin).mp (shows_inside b origin _ spells.subject)
    exact ⟨origin.y, rows, origin.x, columns, r.axis, by cases r.axis <;> simp, rfl, k, spells⟩

theorem rules_spelled (r : Rule) (member : r ∈ b.rules) : ∃ origin k, b.Spells origin k r :=
  (mem_spelled_iff b r).mp (rules_among_spelled b r member)

theorem spelled_said (origin : Cell) (k : Nat) (r : Rule) (spells : b.Spells origin k r) :
    ∃ rule ∈ b.rules, rule.signature = r.signature :=
  spelled_among_rules b r ((mem_spelled_iff b r).mpr ⟨origin, k, spells⟩)

end TokenBoard

end KanjiPuzzle
