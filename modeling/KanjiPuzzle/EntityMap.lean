import KanjiPuzzle.Vocabulary

set_option autoImplicit false

/- Finite maps from entity ids, kept in ascending order of the ids, so that maps with the same answers are equal. -/
namespace KanjiPuzzle

structure EntityMap (α : Type) where
  entries : List (EntityId × α)
  ascending : entries.Pairwise fun a b => a.1 < b.1
deriving DecidableEq, Repr

namespace EntityMap

variable {α : Type}

def empty : EntityMap α := ⟨[], .nil⟩

def lookup (id : EntityId) : List (EntityId × α) → Option α
  | [] => none
  | (key, value) :: rest => if key = id then some value else lookup id rest

def get? (m : EntityMap α) (id : EntityId) : Option α := lookup id m.entries

def contains (m : EntityMap α) (id : EntityId) : Bool := (m.get? id).isSome

def ids (m : EntityMap α) : List EntityId := m.entries.map Prod.fst

def size (m : EntityMap α) : Nat := m.entries.length

def put (id : EntityId) (value : α) : List (EntityId × α) → List (EntityId × α)
  | [] => [(id, value)]
  | (key, old) :: rest =>
      if id < key then (id, value) :: (key, old) :: rest
      else if id = key then (id, value) :: rest
      else (key, old) :: put id value rest

theorem mem_put (id : EntityId) (value : α) (entry : EntityId × α) (entries : List (EntityId × α))
    (member : entry ∈ put id value entries) : entry = (id, value) ∨ entry ∈ entries := by
  induction entries with
  | nil => simpa [put] using member
  | cons head rest ih =>
      rcases head with ⟨key, old⟩
      unfold put at member
      split at member
      · simpa using member
      · split at member
        · rcases List.mem_cons.mp member with same | inside
          · exact .inl same
          · exact .inr (List.mem_cons_of_mem _ inside)
        · rcases List.mem_cons.mp member with same | inside
          · exact .inr (same ▸ List.mem_cons_self)
          · exact (ih inside).imp_right (List.mem_cons_of_mem _)

theorem put_ascending (id : EntityId) (value : α) (entries : List (EntityId × α))
    (ascending : entries.Pairwise fun a b => a.1 < b.1) : (put id value entries).Pairwise fun a b => a.1 < b.1 := by
  induction entries with
  | nil => simp [put]
  | cons head rest ih =>
      rcases head with ⟨key, old⟩
      have parts := List.pairwise_cons.mp ascending
      unfold put
      split
      case isTrue less =>
        refine List.pairwise_cons.mpr ⟨fun entry member => ?_, ascending⟩
        rcases List.mem_cons.mp member with same | inside
        · simpa [same] using less
        · exact Int.lt_trans less (parts.1 entry inside)
      case isFalse notLess =>
        split
        case isTrue same => exact List.pairwise_cons.mpr ⟨fun entry member => same ▸ parts.1 entry member, parts.2⟩
        case isFalse different =>
          refine List.pairwise_cons.mpr ⟨fun entry member => ?_, ih parts.2⟩
          rcases mem_put id value entry rest member with same | inside
          · exact same ▸ Int.lt_iff_le_and_ne.mpr ⟨Int.not_lt.mp notLess, Ne.symm different⟩
          · exact parts.1 entry inside

def insert (m : EntityMap α) (id : EntityId) (value : α) : EntityMap α :=
  ⟨put id value m.entries, put_ascending id value m.entries m.ascending⟩

def erase (m : EntityMap α) (id : EntityId) : EntityMap α :=
  ⟨m.entries.filter fun entry => decide (entry.1 ≠ id), m.ascending.filter _⟩

def eraseAll (m : EntityMap α) (gone : List EntityId) : EntityMap α := gone.foldl erase m

def ofList (entries : List (EntityId × α)) : EntityMap α :=
  entries.foldl (fun m entry => m.insert entry.1 entry.2) empty

theorem lookup_put (id other : EntityId) (value : α) (entries : List (EntityId × α)) :
    lookup other (put id value entries) = if id = other then some value else lookup other entries := by
  induction entries with
  | nil => simp [put, lookup]
  | cons head rest ih =>
      rcases head with ⟨key, old⟩
      unfold put
      split
      case isTrue => simp [lookup]
      case isFalse notLess =>
        split
        case isTrue same =>
          subst same
          by_cases wanted : id = other <;> simp [lookup, wanted]
        case isFalse different =>
          simp only [lookup, ih]
          by_cases found : key = other
          · have : id ≠ other := fun same => different (same.trans found.symm)
            simp [found, this]
          · simp [found]

theorem get_insert (m : EntityMap α) (id other : EntityId) (value : α) :
    (m.insert id value).get? other = if id = other then some value else m.get? other :=
  lookup_put id other value m.entries

theorem lookup_filter_ne (id other : EntityId) (entries : List (EntityId × α)) :
    lookup other (entries.filter fun entry => decide (entry.1 ≠ id)) =
      if id = other then none else lookup other entries := by
  induction entries with
  | nil => simp [lookup]
  | cons head rest ih =>
      rcases head with ⟨key, value⟩
      by_cases gone : key = id
      · subst gone
        simp only [ne_eq, List.filter_cons, not_true_eq_false, decide_false, Bool.false_eq_true, if_false, ih, lookup]
        split <;> rfl
      · simp only [ne_eq, List.filter_cons, gone, not_false_eq_true, decide_true, if_true, lookup, ih]
        by_cases wanted : key = other
        · have : id ≠ other := fun same => gone (wanted.trans same.symm)
          simp [wanted, this]
        · simp [wanted]

theorem get_erase (m : EntityMap α) (id other : EntityId) :
    (m.erase id).get? other = if id = other then none else m.get? other :=
  lookup_filter_ne id other m.entries

theorem lookup_eq_none_iff (id : EntityId) (entries : List (EntityId × α)) :
    lookup id entries = none ↔ id ∉ entries.map Prod.fst := by
  induction entries with
  | nil => simp [lookup]
  | cons head rest ih =>
      rcases head with ⟨key, value⟩
      by_cases found : key = id
      · simp [lookup, found]
      · have other : id ≠ key := fun same => found same.symm
        simp only [lookup, if_neg found, ih, List.map_cons, List.mem_cons, other, false_or]

theorem contains_iff (m : EntityMap α) (id : EntityId) : m.contains id = true ↔ id ∈ m.ids := by
  have h := lookup_eq_none_iff id m.entries
  unfold contains ids get?
  cases found : lookup id m.entries <;> simp_all

theorem mem_ids_of_get (m : EntityMap α) (id : EntityId) (value : α) (found : m.get? id = some value) : id ∈ m.ids := by
  rw [← contains_iff, contains, found]
  rfl

theorem ids_ascending (m : EntityMap α) : m.ids.Pairwise (· < ·) := List.pairwise_map.mpr m.ascending

theorem mem_entries_iff (m : EntityMap α) (id : EntityId) (value : α) :
    (id, value) ∈ m.entries ↔ m.get? id = some value := by
  rcases m with ⟨entries, ascending⟩
  simp only [get?]
  induction entries with
  | nil => simp [lookup]
  | cons head rest ih =>
      rcases head with ⟨key, old⟩
      have parts := List.pairwise_cons.mp ascending
      simp only [List.mem_cons, Prod.mk.injEq, lookup, ih parts.2]
      by_cases found : key = id
      · subst found
        have absent : lookup key rest ≠ some value := by
          intro present
          have := parts.1 (key, value) ((ih parts.2).mpr present)
          simp at this
        simp [absent, eq_comm]
      · have other : id ≠ key := fun same => found same.symm
        simp only [other, false_and, false_or, if_neg found]

theorem eq_of_get (m n : EntityMap α) (same : ∀ id, m.get? id = n.get? id) : m = n := by
  have equal : m.entries = n.entries := by
    refine List.Perm.eq_of_pairwise ?_ m.ascending n.ascending ?_
    · intro a b _ _ less more
      exact absurd (Int.lt_trans less more) (Int.lt_irrefl _)
    · have nodup (k : EntityMap α) : k.entries.Nodup :=
        k.ascending.imp fun {a b} (less : a.1 < b.1) (equal : a = b) => Int.lt_irrefl b.1 (equal ▸ less)
      refine (List.perm_ext_iff_of_nodup (nodup m) (nodup n)).mpr fun entry => ?_
      rw [mem_entries_iff, mem_entries_iff, same]
  cases m
  cases n
  simp_all

end EntityMap

end KanjiPuzzle
