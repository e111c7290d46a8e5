set_option autoImplicit false

/- Texts in the order of their code points. -/
namespace KanjiPuzzle.Text

def insertSorted (w : String) : List String → List String
  | [] => [w]
  | v :: rest => if w ≤ v then w :: v :: rest else v :: insertSorted w rest

def sorted : List String → List String
  | [] => []
  | w :: rest => insertSorted w (sorted rest)

theorem insert_sorted_perm (w : String) (ws : List String) : (insertSorted w ws).Perm (w :: ws) := by
  induction ws with
  | nil => exact .refl _
  | cons v rest ih =>
      unfold insertSorted
      split
      · exact .refl _
      · exact (ih.cons v).trans (.swap w v rest)

theorem sorted_perm (ws : List String) : (sorted ws).Perm ws := by
  induction ws with
  | nil => exact .refl _
  | cons w rest ih => exact (insert_sorted_perm w (sorted rest)).trans (ih.cons w)

theorem insert_sorted_ordered (w : String) (ws : List String) (ordered : ws.Pairwise (· ≤ ·)) :
    (insertSorted w ws).Pairwise (· ≤ ·) := by
  induction ws with
  | nil => exact List.pairwise_singleton _ _
  | cons v rest ih =>
      have parts := List.pairwise_cons.mp ordered
      unfold insertSorted
      split
      case isTrue below =>
        refine List.pairwise_cons.mpr ⟨fun u member => ?_, ordered⟩
        rcases List.mem_cons.mp member with same | inside
        · exact same ▸ below
        · exact String.le_trans below (parts.1 u inside)
      case isFalse above =>
        refine List.pairwise_cons.mpr ⟨fun u member => ?_, ih parts.2⟩
        rcases List.mem_cons.mp ((insert_sorted_perm w rest).mem_iff.mp member) with same | inside
        · exact same ▸ (String.le_total w v).resolve_left above
        · exact parts.1 u inside

theorem sorted_ordered (ws : List String) : (sorted ws).Pairwise (· ≤ ·) := by
  induction ws with
  | nil => exact .nil
  | cons w rest ih => exact insert_sorted_ordered w (sorted rest) ih

theorem sorted_eq_iff (ws vs : List String) : sorted ws = sorted vs ↔ ws.Perm vs := by
  constructor
  · intro same
    exact (sorted_perm ws).symm.trans (same ▸ sorted_perm vs)
  · intro perm
    refine List.Perm.eq_of_pairwise ?_ (sorted_ordered ws) (sorted_ordered vs)
      ((sorted_perm ws).trans (perm.trans (sorted_perm vs).symm))
    exact fun a b _ _ less more => String.le_antisymm less more

end KanjiPuzzle.Text
