import KanjiPuzzle.Board.Sentences

set_option autoImplicit false

/- All that a board of tokens spells, repetitions included, in the order in which it is read. The rules of the board are
   this list with only the first spelling of each kept. -/
namespace KanjiPuzzle.TokenBoard

section Repetitions

theorem mem_keep_first (found : List Rule) (r rule : Rule) (member : rule ∈ keepFirst found r) :
    rule ∈ found ∨ rule = r ∧ ∀ known ∈ found, known.signature ≠ r.signature := by
  rw [keepFirst] at member
  split at member
  case isTrue => exact .inl member
  case isFalse fresh =>
    rcases List.mem_append.mp member with old | new
    · exact .inl old
    · refine .inr ⟨List.mem_singleton.mp new, fun known kept same => fresh ?_⟩
      exact List.any_eq_true.mpr ⟨known, kept, beq_iff_eq.mpr same⟩

theorem keep_first_grows (found : List Rule) (r : Rule) : found <+: keepFirst found r := by
  rw [keepFirst]
  split
  · exact List.prefix_rfl
  · exact List.prefix_append found [r]

theorem keep_first_tells (found : List Rule) (r : Rule) : ∃ rule ∈ keepFirst found r, rule.signature = r.signature := by
  rw [keepFirst]
  split
  case isTrue known =>
    obtain ⟨rule, member, same⟩ := List.any_eq_true.mp known
    exact ⟨rule, member, by simpa using same⟩
  case isFalse => exact ⟨r, by simp, rfl⟩

theorem keep_first_nodup (found : List Rule) (r : Rule) (distinct : (found.map Rule.signature).Nodup) :
    ((keepFirst found r).map Rule.signature).Nodup := by
  rw [keepFirst]
  split
  case isTrue => exact distinct
  case isFalse fresh =>
    rw [List.map_append, List.nodup_append]
    refine ⟨distinct, by simp, fun known old new member same => ?_⟩
    obtain ⟨rule, kept, rfl⟩ := List.mem_map.mp old
    have newest : new = r.signature := by simpa using member
    exact fresh (List.any_eq_true.mpr ⟨rule, kept, by simpa using same.trans newest⟩)

theorem foldl_keep_first_grows (rules found : List Rule) : found <+: rules.foldl keepFirst found := by
  induction rules generalizing found with
  | nil => exact List.prefix_rfl
  | cons r rest ih => exact (keep_first_grows found r).trans (ih (keepFirst found r))

theorem foldl_keep_first_tells (rules found : List Rule) (r : Rule) (member : r ∈ rules) :
    ∃ rule ∈ rules.foldl keepFirst found, rule.signature = r.signature := by
  induction rules generalizing found with
  | nil => cases member
  | cons head rest ih =>
      rcases List.mem_cons.mp member with same | inside
      · subst same
        obtain ⟨rule, kept, tells⟩ := keep_first_tells found r
        exact ⟨rule, (foldl_keep_first_grows rest _).subset kept, tells⟩
      · exact ih (keepFirst found head) inside

theorem foldl_keep_first_nodup (rules found : List Rule) (distinct : (found.map Rule.signature).Nodup) :
    ((rules.foldl keepFirst found).map Rule.signature).Nodup := by
  induction rules generalizing found with
  | nil => exact distinct
  | cons r rest ih => exact ih (keepFirst found r) (keep_first_nodup found r distinct)

theorem foldl_keep_first_first (rules found : List Rule) (rule : Rule) (member : rule ∈ rules.foldl keepFirst found) :
    rule ∈ found ∨ (∀ known ∈ found, known.signature ≠ rule.signature) ∧
      ∃ before after, rules = before ++ rule :: after ∧ ∀ other ∈ before, other.signature ≠ rule.signature := by
  induction rules generalizing found with
  | nil => exact .inl member
  | cons r rest ih =>
      rcases ih (keepFirst found r) member with early | ⟨fresh, before, after, split, first⟩
      · refine (mem_keep_first found r rule early).imp_right fun ⟨same, fresh⟩ => ?_
        subst same
        exact ⟨fresh, [], rest, rfl, by simp⟩
      · refine .inr ⟨fun known kept => fresh known ((keep_first_grows found r).subset kept), r :: before, after, ?_, ?_⟩
        · rw [split]
          rfl
        · obtain ⟨known, kept, tells⟩ := keep_first_tells found r
          exact List.forall_mem_cons.mpr ⟨tells ▸ fresh known kept, first⟩

theorem kept_first (rules : List Rule) (rule : Rule) (member : rule ∈ rules.foldl keepFirst []) :
    ∃ before after, rules = before ++ rule :: after ∧ ∀ other ∈ before, other.signature ≠ rule.signature :=
  ((foldl_keep_first_first rules [] rule member).resolve_left List.not_mem_nil).2

theorem kept_subset (rules : List Rule) (rule : Rule) (member : rule ∈ rules.foldl keepFirst []) : rule ∈ rules := by
  obtain ⟨before, after, split, _⟩ := kept_first rules rule member
  rw [split]
  exact List.mem_append_right before List.mem_cons_self

end Repetitions

section Reading

variable (b : TokenBoard)

def spelledTerms (subject : Noun) (origin : Cell) (axis : Axis) : Nat → Nat → List Rule
  | 0, _ => []
  | links + 1, place =>
      match b.tokensAt (along origin axis place) with
      | none => []
      | some tokens =>
          match termRules subject axis [origin, along origin axis 1, along origin axis place] tokens with
          | [] => []
          | rules =>
              rules ++
                match b.tokensAt (along origin axis (place + 1)) with
                | some link => if link.conjunction then spelledTerms subject origin axis links (place + 2) else []
                | none => []

def spelledAt (origin : Cell) (axis : Axis) : List Rule :=
  match b.tokensAt origin, b.tokensAt (along origin axis 1) with
  | some start, some link =>
      if link.topic then start.nouns.flatMap fun token => b.spelledTerms token.2 origin axis b.longest 2 else []
  | _, _ => []

def spelled : List Rule :=
  b.extent.rows.flatMap fun y => b.extent.columns.flatMap fun x =>
    [Axis.horizontal, Axis.vertical].flatMap fun axis => b.spelledAt ⟨x, y⟩ axis

theorem read_terms_eq (subject : Noun) (origin : Cell) (axis : Axis) (links place : Nat) (found : List Rule) :
    readTerms b subject origin axis links place found =
      (b.spelledTerms subject origin axis links place).foldl keepFirst found := by
  induction links generalizing place found with
  | zero => rfl
  | succ links ih =>
      rw [readTerms, spelledTerms]
      cases b.tokensAt (along origin axis place) with
      | none => rfl
      | some tokens =>
          dsimp only
          cases termRules subject axis [origin, along origin axis 1, along origin axis place] tokens with
          | nil => rfl
          | cons rule rules =>
              dsimp only
              rw [List.foldl_append]
              cases b.tokensAt (along origin axis (place + 1)) with
              | none => rfl
              | some link =>
                  dsimp only
                  split
                  · exact ih (place + 2) _
                  · rfl

theorem foldl_flat_map_keep_first {α : Type} (read : α → List Rule → List Rule) (spell : α → List Rule)
    (same : ∀ a found, read a found = (spell a).foldl keepFirst found) (as : List α) (found : List Rule) :
    as.foldl (fun found a => read a found) found = (as.flatMap spell).foldl keepFirst found := by
  induction as generalizing found with
  | nil => rfl
  | cons a rest ih => rw [List.foldl_cons, List.flatMap_cons, List.foldl_append, ih, same]

theorem read_sentences_eq (origin : Cell) (axis : Axis) (found : List Rule) :
    b.readSentences origin axis found = (b.spelledAt origin axis).foldl keepFirst found := by
  rw [readSentences, spelledAt]
  cases b.tokensAt origin with
  | none => rfl
  | some start =>
      cases b.tokensAt (along origin axis 1) with
      | none => rfl
      | some link =>
          dsimp only
          split
          · exact foldl_flat_map_keep_first (fun token found => readTerms b token.2 origin axis b.longest 2 found) _
              (fun token found => read_terms_eq b token.2 origin axis b.longest 2 found) start.nouns found
          · rfl

theorem rules_eq : b.rules = b.spelled.foldl keepFirst [] := by
  refine foldl_flat_map_keep_first (fun y found => b.extent.columns.foldl (fun found x =>
    [Axis.horizontal, Axis.vertical].foldl (fun found axis => b.readSentences ⟨x, y⟩ axis found) found) found) _ ?_ _ []
  intro y found
  refine foldl_flat_map_keep_first (fun x found =>
    [Axis.horizontal, Axis.vertical].foldl (fun found axis => b.readSentences ⟨x, y⟩ axis found) found) _ ?_ _ found
  intro x found
  exact foldl_flat_map_keep_first (fun axis found => b.readSentences ⟨x, y⟩ axis found) _
    (fun axis found => read_sentences_eq b ⟨x, y⟩ axis found) _ found

theorem rules_first (rule : Rule) (member : rule ∈ b.rules) :
    ∃ before after, b.spelled = before ++ rule :: after ∧ ∀ other ∈ before, other.signature ≠ rule.signature := by
  rw [rules_eq] at member
  exact kept_first b.spelled rule member

theorem rules_among_spelled (rule : Rule) (member : rule ∈ b.rules) : rule ∈ b.spelled := by
  rw [rules_eq] at member
  exact kept_subset b.spelled rule member

theorem spelled_among_rules (r : Rule) (member : r ∈ b.spelled) : ∃ rule ∈ b.rules, rule.signature = r.signature := by
  rw [rules_eq]
  exact foldl_keep_first_tells b.spelled [] r member

theorem rules_nodup : (b.rules.map Rule.signature).Nodup := by
  rw [rules_eq]
  exact foldl_keep_first_nodup b.spelled [] .nil

theorem spelled_behind (known spelling : Rule) (kept : known ∈ b.rules) (spelled : spelling ∈ b.spelled)
    (same : spelling.signature = known.signature) (elsewhere : spelling.cells ≠ known.cells) :
    ∃ before after, b.spelled = before ++ spelling :: after ∧ known ∈ before := by
  obtain ⟨front, back, split, first⟩ := rules_first b known kept
  rw [split] at spelled
  rcases List.mem_append.mp spelled with sooner | later
  · exact absurd same (first spelling sooner)
  · rcases List.mem_cons.mp later with equal | behind
    · exact absurd (equal ▸ rfl) elsewhere
    · obtain ⟨between, rest, cut⟩ := List.append_of_mem behind
      refine ⟨front ++ known :: between, rest, ?_, List.mem_append_right front List.mem_cons_self⟩
      rw [split, cut, List.append_assoc, List.cons_append]

end Reading

end KanjiPuzzle.TokenBoard
