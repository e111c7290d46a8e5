set_option autoImplicit false

/- Gathering. What comes one after the other, each with a key, is put with what came before it under the same key. The
   keys stand in the order in which they first came, and what is put together keeps its order. -/
namespace KanjiPuzzle

namespace Gathering

variable {κ α : Type} [DecidableEq κ]

def enlist (key : κ) (a : α) : List (κ × List α) → List (κ × List α)
  | [] => [(key, [a])]
  | group :: rest => if group.1 = key then (group.1, group.2 ++ [a]) :: rest else group :: enlist key a rest

def gather (entries : List (κ × α)) : List (κ × List α) :=
  entries.foldl (fun groups entry => enlist entry.1 entry.2 groups) []

def share (key : κ) (entries : List (κ × α)) : List α :=
  (entries.filter fun entry => decide (entry.1 = key)).map Prod.snd

-- Every key has its share, and the first member of one group came sooner than that of any later group.
structure Gathers (sooner : α → α → Prop) (entries : List (κ × α)) (groups : List (κ × List α)) : Prop where
  distinct : (groups.map Prod.fst).Nodup
  keys : ∀ key, key ∈ groups.map Prod.fst ↔ key ∈ entries.map Prod.fst
  shares : ∀ group ∈ groups, group.2 = share group.1 entries
  order : groups.Pairwise fun first later =>
    ∃ a b, first.2.head? = some a ∧ later.2.head? = some b ∧ sooner a b

theorem share_append (key : κ) (entries others : List (κ × α)) :
    share key (entries ++ others) = share key entries ++ share key others := by
  rw [share, List.filter_append, List.map_append]
  rfl

theorem mem_share_iff (key : κ) (entries : List (κ × α)) (a : α) : a ∈ share key entries ↔ (key, a) ∈ entries := by
  rw [share, List.mem_map]
  constructor
  · rintro ⟨⟨other, _⟩, member, rfl⟩
    obtain ⟨listed, same⟩ := List.mem_filter.mp member
    exact of_decide_eq_true same ▸ listed
  · exact fun listed => ⟨(key, a), List.mem_filter.mpr ⟨listed, decide_eq_true rfl⟩, rfl⟩

theorem share_absent (key : κ) (entries : List (κ × α)) (absent : key ∉ entries.map Prod.fst) :
    share key entries = [] := by
  refine List.eq_nil_iff_forall_not_mem.mpr fun a listed => absent ?_
  exact List.mem_map.mpr ⟨(key, a), (mem_share_iff key entries a).mp listed, rfl⟩

theorem enlist_filled (key : κ) (a : α) (groups : List (κ × List α)) (filled : ∀ group ∈ groups, group.2 ≠ []) :
    ∀ group ∈ enlist key a groups, group.2 ≠ [] := by
  induction groups with
  | nil => simp [enlist]
  | cons group rest ih =>
      obtain ⟨first, others⟩ := List.forall_mem_cons.mp filled
      rw [enlist]
      split
      · exact List.forall_mem_cons.mpr ⟨by simp, others⟩
      · exact List.forall_mem_cons.mpr ⟨first, ih others⟩

theorem enlist_new (key : κ) (a : α) (groups : List (κ × List α)) (new : key ∉ groups.map Prod.fst) :
    enlist key a groups = groups ++ [(key, [a])] := by
  induction groups with
  | nil => rfl
  | cons group rest ih =>
      obtain ⟨other, later⟩ := not_or.mp (mt List.mem_cons.mpr new)
      rw [enlist, if_neg (Ne.symm other), ih later]
      rfl

theorem enlist_known (key : κ) (a : α) (groups : List (κ × List α)) (known : key ∈ groups.map Prod.fst)
    (distinct : (groups.map Prod.fst).Nodup) :
    enlist key a groups = groups.map fun group => if group.1 = key then (group.1, group.2 ++ [a]) else group := by
  induction groups with
  | nil => cases known
  | cons group rest ih =>
      obtain ⟨apart, later⟩ := List.nodup_cons.mp distinct
      rw [enlist, List.map_cons]
      by_cases here : group.1 = key
      · have others : ∀ other ∈ rest, (if other.1 = key then (other.1, other.2 ++ [a]) else other) = other := by
          intro other member
          refine if_neg fun (same : other.1 = key) => apart ?_
          exact List.mem_map.mpr ⟨other, member, same.trans here.symm⟩
        rw [if_pos here, if_pos here, List.map_congr_left others, List.map_id']
      · rw [if_neg here, if_neg here, ih ((List.mem_cons.mp known).resolve_left (Ne.symm here)) later]

section Step

variable (sooner : α → α → Prop) (entries : List (κ × α)) (key : κ) (a : α) (groups : List (κ × List α))
  (gathers : Gathers sooner entries groups)
include gathers

theorem gathers_filled (group : κ × List α) (member : group ∈ groups) : group.2 ≠ [] := by
  obtain ⟨entry, listed, key⟩ := List.mem_map.mp ((gathers.keys group.1).mp (List.mem_map.mpr ⟨group, member, rfl⟩))
  rw [gathers.shares group member]
  exact List.ne_nil_of_mem ((mem_share_iff group.1 entries entry.2).mpr (key ▸ listed))

theorem gathers_known (known : key ∈ groups.map Prod.fst) : Gathers sooner (entries ++ [(key, a)])
    (groups.map fun group => if group.1 = key then (group.1, group.2 ++ [a]) else group) := by
  have keys : (groups.map fun group => if group.1 = key then (group.1, group.2 ++ [a]) else group).map Prod.fst =
      groups.map Prod.fst := by
    rw [List.map_map]
    refine List.map_congr_left fun group _ => ?_
    dsimp only [Function.comp]
    split <;> rfl
  -- A group that grows keeps its first member.
  have head (group : κ × List α) (b : α) (first : group.2.head? = some b) :
      (if group.1 = key then (group.1, group.2 ++ [a]) else group).2.head? = some b := by
    split
    · rw [List.head?_append, first]
      rfl
    · exact first
  constructor
  · exact keys ▸ gathers.distinct
  · intro other
    rw [keys, gathers.keys, List.map_append, List.mem_append]
    refine (or_iff_left_of_imp fun last => ?_).symm
    exact List.mem_singleton.mp last ▸ (gathers.keys key).mp known
  · intro group member
    obtain ⟨old, listed, rfl⟩ := List.mem_map.mp member
    rw [share_append]
    by_cases same : old.1 = key
    · rw [if_pos same]
      dsimp only
      rw [gathers.shares old listed, same]
      simp [share]
    · rw [if_neg same, gathers.shares old listed]
      simp [share, Ne.symm same]
  · rw [List.pairwise_map]
    refine gathers.order.imp fun order => ?_
    obtain ⟨b, c, first, later, earlier⟩ := order
    exact ⟨b, c, head _ b first, head _ c later, earlier⟩

theorem gathers_new (new : key ∉ groups.map Prod.fst) (last : ∀ entry ∈ entries, sooner entry.2 a) :
    Gathers sooner (entries ++ [(key, a)]) (groups ++ [(key, [a])]) := by
  have absent : key ∉ entries.map Prod.fst := fun known => new ((gathers.keys key).mpr known)
  constructor
  · rw [List.map_append, List.nodup_append]
    refine ⟨gathers.distinct, List.pairwise_singleton _ _, fun old member other same equal => new ?_⟩
    exact (List.mem_singleton.mp same : other = key) ▸ equal ▸ member
  · intro other
    rw [List.map_append, List.map_append, List.mem_append, List.mem_append, gathers.keys]
    rfl
  · intro group member
    rw [share_append]
    rcases List.mem_append.mp member with old | newest
    · have other : key ≠ group.1 := fun same => new (same ▸ List.mem_map.mpr ⟨group, old, rfl⟩)
      rw [gathers.shares group old]
      simp [share, other]
    · rw [List.mem_singleton.mp newest, share_absent key entries absent]
      simp [share]
  · rw [List.pairwise_append]
    refine ⟨gathers.order, List.pairwise_singleton _ _, fun group member newest same => ?_⟩
    rw [List.mem_singleton.mp same]
    have filled := gathers_filled sooner entries groups gathers group member
    obtain ⟨b, first⟩ := Option.isSome_iff_exists.mp (List.isSome_head?.mpr filled)
    have came : b ∈ share group.1 entries := gathers.shares group member ▸ List.mem_of_mem_head? first
    exact ⟨b, a, first, rfl, last _ ((mem_share_iff group.1 entries b).mp came)⟩

theorem enlist_gathers (last : ∀ entry ∈ entries, sooner entry.2 a) :
    Gathers sooner (entries ++ [(key, a)]) (enlist key a groups) := by
  by_cases known : key ∈ groups.map Prod.fst
  · rw [enlist_known key a groups known gathers.distinct]
    exact gathers_known sooner entries key a groups gathers known
  · rw [enlist_new key a groups known]
    exact gathers_new sooner entries key a groups gathers known last

end Step

theorem fold_gathers (sooner : α → α → Prop) (rest before : List (κ × α)) (groups : List (κ × List α))
    (rising : (before ++ rest).Pairwise fun first later => sooner first.2 later.2)
    (gathers : Gathers sooner before groups) :
    Gathers sooner (before ++ rest) (rest.foldl (fun groups entry => enlist entry.1 entry.2 groups) groups) := by
  induction rest generalizing before groups with
  | nil => exact (List.append_nil before).symm ▸ gathers
  | cons entry rest ih =>
      rw [List.append_cons] at rising ⊢
      have last := (List.pairwise_append.mp (List.pairwise_append.mp rising).1).2.2
      refine ih (before ++ [entry]) (enlist entry.1 entry.2 groups) rising ?_
      exact enlist_gathers sooner before entry.1 entry.2 groups gathers fun old member =>
        last old member entry List.mem_cons_self

theorem gather_gathers (sooner : α → α → Prop) (entries : List (κ × α))
    (rising : entries.Pairwise fun first later => sooner first.2 later.2) :
    Gathers sooner entries (gather entries) :=
  fold_gathers sooner entries [] [] rising ⟨List.nodup_nil, fun _ => Iff.rfl, by simp, List.Pairwise.nil⟩

theorem enlist_perm (key : κ) (a : α) (groups : List (κ × List α)) :
    ((enlist key a groups).flatMap Prod.snd).Perm (groups.flatMap Prod.snd ++ [a]) := by
  induction groups with
  | nil => exact .refl _
  | cons group rest ih =>
      rw [enlist, List.flatMap_cons]
      by_cases here : group.1 = key
      · rw [if_pos here, List.flatMap_cons, List.append_assoc, List.append_assoc]
        exact List.perm_append_comm.append_left group.2
      · rw [if_neg here, List.flatMap_cons, List.append_assoc]
        exact ih.append_left group.2

theorem fold_perm (entries : List (κ × α)) (groups : List (κ × List α)) :
    ((entries.foldl (fun groups entry => enlist entry.1 entry.2 groups) groups).flatMap Prod.snd).Perm
      (groups.flatMap Prod.snd ++ entries.map Prod.snd) := by
  induction entries generalizing groups with
  | nil => rw [List.foldl_nil, List.map_nil, List.append_nil]
  | cons entry rest ih =>
      rw [List.foldl_cons, List.map_cons, List.append_cons]
      exact (ih (enlist entry.1 entry.2 groups)).trans ((enlist_perm entry.1 entry.2 groups).append_right _)

theorem gather_perm (entries : List (κ × α)) : ((gather entries).flatMap Prod.snd).Perm (entries.map Prod.snd) :=
  fold_perm entries []

end Gathering

end KanjiPuzzle
