import KanjiPuzzle.Proofs.Reached
import KanjiPuzzle.Proofs.TileSentences

set_option autoImplicit false

/- When a sentence is new. Of a sentence that is spelled several times the rules before the turn only know the first
   spelling, so one that stood on the board all along counts as new once that is gone. -/
namespace KanjiPuzzle

theorem Rule.grant_mark (r : Rule) : r.isGrant = decide (r.term.mark = "p") := by
  rw [isGrant]
  cases r.term <;> rfl

theorem Rule.grant_alike (a b : Rule) (same : a.signature = b.signature) : a.isGrant = b.isGrant := by
  rw [grant_mark, grant_mark, signature_mark a b same]

theorem Rule.key_alike (a b : Rule) (signature : a.signature = b.signature) (cells : a.cells = b.cells) :
    a.key = b.key := by
  rw [key, key, signature, cells]

namespace Roles

theorem new_rule_unknown (before now : List Rule) (r : Rule) (new : r ∈ newRules before now) :
    r ∈ now ∧ ∀ known ∈ before, known.signature = r.signature → known.cells ≠ r.cells := by
  obtain ⟨listed, test⟩ := List.mem_filter.mp new
  rw [Bool.and_eq_true, Bool.not_eq_true', List.contains_eq_mem, decide_eq_false_iff_not] at test
  refine ⟨listed, fun known kept signature cells => test.2 ?_⟩
  refine List.mem_map.mpr ⟨known, List.mem_filter.mpr ⟨kept, ?_⟩, known.key_alike r signature cells⟩
  rw [known.grant_alike r signature]
  exact test.1

-- What is so of a rule that counts as new. It is not known on its cells; and where the known rules are those of a
-- board that spelled it there all the same, it stood behind a spelling on other cells.
structure Newcomer (before : List Rule) (r : Rule) : Prop where
  unknown : ∀ known ∈ before, known.signature = r.signature → known.cells ≠ r.cells
  behind : ∀ b : TokenBoard, before = b.rules → ∀ spelling ∈ b.spelled, spelling.signature = r.signature →
    spelling.cells = r.cells → ∃ front back, b.spelled = front ++ spelling :: back ∧
      ∃ sooner ∈ front, sooner.signature = r.signature ∧ sooner.cells ≠ r.cells
  alone : ∀ b : TokenBoard, before = b.rules →
    (∀ spelling ∈ b.spelled, spelling.signature = r.signature → spelling.cells = r.cells) →
      ∀ spelling ∈ b.spelled, spelling.signature ≠ r.signature

theorem newcomer_of_unknown (before : List Rule) (r : Rule)
    (unknown : ∀ known ∈ before, known.signature = r.signature → known.cells ≠ r.cells) : Newcomer before r := by
  have behind (b : TokenBoard) (current : before = b.rules) (spelling : Rule) (spelled : spelling ∈ b.spelled)
      (same : spelling.signature = r.signature) (place : spelling.cells = r.cells) :
      ∃ front back, b.spelled = front ++ spelling :: back ∧
        ∃ sooner ∈ front, sooner.signature = r.signature ∧ sooner.cells ≠ r.cells := by
    -- Whatever is spelled has its first spelling among the rules.
    obtain ⟨known, kept, tells⟩ := b.spelled_among_rules spelling spelled
    have elsewhere := unknown known (current ▸ kept) (tells.trans same)
    obtain ⟨front, back, split, sooner⟩ :=
      b.spelled_behind known spelling kept spelled tells.symm fun here => elsewhere (here.symm.trans place)
    exact ⟨front, back, split, known, sooner, tells.trans same, elsewhere⟩
  refine ⟨unknown, behind, fun b current alone spelling spelled same => ?_⟩
  obtain ⟨front, back, split, sooner, early, tells, elsewhere⟩ :=
    behind b current spelling spelled same (alone spelling spelled same)
  refine elsewhere (alone sooner ?_ tells)
  rw [split]
  exact List.mem_append_left _ early

def Captures (s : State) (before : List Rule) (role : Role) (r : Rule) : Prop :=
  ∃ earlier later u v, newRules before s.rules = earlier ++ r :: later ∧ Attempt.through capture s earlier = .ok u ∧
    capture u r = .ok v ∧ v.holder role ≠ u.holder role

theorem captures_newcomer (s : State) (before : List Rule) (role : Role) (r : Rule)
    (captures : Captures s before role r) :
    r ∈ s.rules ∧ r.term = .property role.property ∧ Newcomer before r := by
  obtain ⟨earlier, later, u, v, listed, _, captured, changed⟩ := captures
  obtain ⟨now, unknown⟩ := new_rule_unknown before s.rules r (listed ▸ List.mem_append_right earlier List.mem_cons_self)
  refine ⟨now, ?_, newcomer_of_unknown before r unknown⟩
  rcases capture_ok u v r captured with same | ⟨other, id, cell, told, grants, _, _, _, rfl⟩
  · exact absurd (same ▸ rfl) changed
  · by_cases same : other = role
    · exact same ▸ grants
    · have kept := (u.holder_with other role (some id)).trans (if_neg same)
      exact absurd ((State.retold_holder _ _ (State.retold_report _ _) role).trans kept) changed

end Roles

namespace Turn

theorem captors_are_newcomers (catalog : Catalog) (level : Level) (s : State) (reached : Reached catalog level s)
    (d : Direction) :
    ∃ t, play s d = .ok t ∧ ((Stalls s d ∧ ∃ message, t = refuse s message) ∨
      ∃ g : Stages, g.Lead s d t ∧ ∀ role r, Roles.Captures g.read s.rules role r →
        r ∈ g.read.rules ∧ r.term = .property role.property ∧ Roles.Newcomer s.rules r) := by
  obtain ⟨t, played, _⟩ := reached_plays catalog level s reached d
  refine ⟨t, played, (play_stages s t d played).imp_right fun ⟨g, lead⟩ => ⟨g, lead, fun role r captures => ?_⟩⟩
  exact Roles.captures_newcomer g.read s.rules role r captures

def echo : Level where
  heading := ⟨"echo", "Echo", .null⟩
  extent := ⟨4, 4⟩
  placements := [⟨"txt-human", ⟨0, 1⟩⟩, ⟨"txt-topic", ⟨1, 1⟩⟩, ⟨"txt-you", ⟨2, 1⟩⟩, ⟨"txt-human", ⟨0, 3⟩⟩,
    ⟨"txt-topic", ⟨1, 3⟩⟩, ⟨"txt-you", ⟨2, 3⟩⟩, ⟨"obj-human", ⟨1, 2⟩⟩]

def sounded : Rule := ⟨"human", .property .you, .horizontal, [⟨0, 1⟩, ⟨1, 1⟩, ⟨2, 1⟩]⟩

def echoed : Rule := ⟨"human", .property .you, .horizontal, [⟨0, 3⟩, ⟨1, 3⟩, ⟨2, 3⟩]⟩

theorem echo_opens :
    ∃ first b t, Session.loaded .standard echo = .ok first ∧ first.tokens = .ok b ∧ play first .up = .ok t ∧
      first.rules = b.rules ∧ echoed ∈ b.spelled ∧ t.moves = first.moves + 1 := by
  have walked : (do
      let first ← Session.loaded .standard echo
      let b ← first.tokens
      let t ← play first .up
      .ok (first.rules, b.rules, b.spelled, first.moves, t.moves)) =
      Except.ok ([sounded], [sounded], [sounded, echoed], 0, 1) := by rfl
  obtain ⟨first, load, walked⟩ := Attempt.bind_ok _ _ _ walked
  obtain ⟨b, tokens, walked⟩ := Attempt.bind_ok _ _ _ walked
  obtain ⟨t, played, walked⟩ := Attempt.bind_ok _ _ _ walked
  simp only [Except.ok.injEq, Prod.mk.injEq] at walked
  obtain ⟨stored, kept, spelled, none, one⟩ := walked
  have twice : echoed ∈ b.spelled := by
    rw [spelled]
    exact List.mem_cons_of_mem sounded List.mem_cons_self
  exact ⟨first, b, t, load, tokens, played, stored.trans kept.symm, twice, by omega⟩

-- The human pushes the connector out of the first sentence, and the second makes its own noun tile the player.
theorem echo_captures (first t : State) (load : Session.loaded .standard echo = .ok first) (g : Stages)
    (lead : g.Lead first .up t) : Roles.Captures g.read first.rules .player echoed := by
  have walked : (do
      let first ← Session.loaded .standard echo
      let ready ← Roles.refresh first.quiet
      let after ← Movement.run ready.markStarts 7 .up
      let gone := after.getD first
      let cell ← gone.cellOf 7
      let fused ← Fusion.run ({ gone with moves := gone.moves + 1 }.report ⟨.move, movedMessage .up, [cell]⟩)
      let read ← Reading.run fused true
      let taken ← Roles.capture read echoed
      .ok (ready.player, Roles.newRules first.rules read.rules, read.player, taken.player)) =
      Except.ok (some 7, [echoed], some 7, some 4) := by rfl
  obtain ⟨again, load_again, walked⟩ := Attempt.bind_ok _ _ _ walked
  cases load.symm.trans load_again
  obtain ⟨ready, refreshes, walked⟩ := Attempt.bind_ok _ _ _ walked
  cases lead.refreshes.symm.trans refreshes
  obtain ⟨after, goes, walked⟩ := Attempt.bind_ok _ _ _ walked
  obtain ⟨cell, stands, walked⟩ := Attempt.bind_ok _ _ _ walked
  obtain ⟨fused, fuses, walked⟩ := Attempt.bind_ok _ _ _ walked
  obtain ⟨read, reads, walked⟩ := Attempt.bind_ok _ _ _ walked
  obtain ⟨taken, takes, walked⟩ := Attempt.bind_ok _ _ _ walked
  simp only [Except.ok.injEq, Prod.mk.injEq] at walked
  obtain ⟨human, new, before, behind⟩ := walked
  have seven : g.player = 7 := Option.some.inj (lead.plays.symm.trans human)
  rw [← seven] at goes stands
  cases lead.moves.symm.trans goes
  cases lead.follow.stands.symm.trans stands
  have fuses_again := lead.follow.fuses
  rw [lead.follow.counts] at fuses_again
  cases fuses_again.symm.trans fuses
  cases lead.follow.reads.symm.trans reads
  refine ⟨[], [], g.read, taken, new, rfl, takes, ?_⟩
  rw [State.holder, State.holder, before, behind]
  decide

theorem echo_stood_behind :
    ∃ first b t g, Session.loaded .standard echo = .ok first ∧ first.tokens = .ok b ∧ play first .up = .ok t ∧
      Stages.Lead g first .up t ∧ Roles.Captures g.read first.rules .player echoed ∧
      ∃ front back, b.spelled = front ++ echoed :: back ∧
        ∃ sooner ∈ front, sooner.signature = echoed.signature ∧ sooner.cells ≠ echoed.cells := by
  obtain ⟨first, b, t, load, tokens, played, stored, spelled, counted⟩ := echo_opens
  obtain ⟨u, played_again, outcome⟩ :=
    captors_are_newcomers .standard echo first (loaded_reached .standard echo first load) .up
  cases played.symm.trans played_again
  obtain ⟨g, lead, newcomers⟩ :=
    outcome.resolve_left fun ⟨_, refused⟩ => counted_not_refused first t counted refused
  have captures := echo_captures first t load g lead
  obtain ⟨_, _, newcomer⟩ := newcomers .player echoed captures
  exact ⟨first, b, t, g, load, tokens, played, lead, captures, newcomer.behind b stored echoed spelled rfl rfl⟩

theorem spelled_sentence_captures :
    ∃ first b t g, Session.loaded .standard echo = .ok first ∧ first.tokens = .ok b ∧ play first .up = .ok t ∧
      t.moves = first.moves + 1 ∧ Stages.Lead g first .up t ∧ Roles.Captures g.read first.rules .player echoed ∧
      ∃ spelling ∈ b.spelled, spelling.signature = echoed.signature ∧ spelling.cells = echoed.cells := by
  obtain ⟨first, b, t, load, tokens, played, _, spelled, counted⟩ := echo_opens
  obtain ⟨g, lead⟩ := counted_lead first t .up played counted
  exact ⟨first, b, t, g, load, tokens, played, counted, lead, echo_captures first t load g lead, echoed, spelled, rfl, rfl⟩

end Turn

end KanjiPuzzle
