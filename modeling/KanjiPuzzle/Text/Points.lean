set_option autoImplicit false

/- Texts as code points. Half of a surrogate pair is no character, so a text spells it with two: U+E000 and the
   character 0x800 above the half. U+E000 itself is spelled in the same way, so that texts are in the order of their
   code points. -/
namespace KanjiPuzzle.Text

def lead : Char := Char.ofNat 0xE000

def isHalf (n : Nat) : Bool := 0xD800 ≤ n && n < 0xE000

def spelled (n : Nat) : List Char :=
  if 0xD800 ≤ n ∧ n ≤ 0xE000 then [lead, Char.ofNat (n + 0x800)] else [Char.ofNat n]

def spelling (ns : List Nat) : List Char := ns.flatMap spelled

def points : List Char → List Nat
  | [] => []
  | [c] => [c.toNat]
  | c :: d :: rest => if c = lead then (d.toNat - 0x800) :: points rest else c.toNat :: points (d :: rest)

theorem to_nat_of_nat (n : Nat) (below : n < 0x110000) (apart : n < 0xD800 ∨ 0xE000 ≤ n) : (Char.ofNat n).toNat = n := by
  have valid : n.isValidChar := by
    unfold Nat.isValidChar
    omega
  have whole : Char.ofNat n = Char.ofNatAux n valid := dif_pos valid
  exact congrArg Char.toNat whole

theorem points_plain (c : Char) (rest : List Char) (other : c ≠ lead) : points (c :: rest) = c.toNat :: points rest := by
  cases rest with
  | nil => rfl
  | cons d rest => simp [points, other]

theorem points_spelled (n : Nat) (rest : List Char) (below : n < 0x110000) :
    points (spelled n ++ rest) = n :: points rest := by
  unfold spelled
  split
  case isTrue marked =>
    have back := to_nat_of_nat (n + 0x800) (by omega) (by omega)
    simp [points, back]
  case isFalse unmarked =>
    have back := to_nat_of_nat n below (by omega)
    have other : Char.ofNat n ≠ lead := by
      intro same
      have value : n = 0xE000 := by rw [← back, same]; rfl
      omega
    exact (points_plain _ rest other).trans (congrArg (· :: points rest) back)

theorem points_spelling (ns : List Nat) (below : ∀ n ∈ ns, n < 0x110000) : points (spelling ns) = ns := by
  induction ns with
  | nil => rfl
  | cons n rest ih =>
      have here := below n List.mem_cons_self
      have there := ih fun m member => below m (List.mem_cons_of_mem n member)
      exact (points_spelled n (spelling rest) here).trans (congrArg (n :: ·) there)

theorem spelled_lt (m n : Nat) (as bs : List Char) (less : m < n) (below : n < 0x110000) :
    spelled m ++ as < spelled n ++ bs := by
  have lt_of_toNat (c d : Char) (h : c.toNat < d.toNat) : c < d := h
  have value : lead.toNat = 0xE000 := rfl
  unfold spelled
  split
  case isTrue low =>
    have lower := to_nat_of_nat (m + 0x800) (by omega) (by omega)
    split
    case isTrue high =>
      have upper := to_nat_of_nat (n + 0x800) (by omega) (by omega)
      exact .cons (.rel (lt_of_toNat _ _ (by omega)))
    case isFalse high =>
      have upper := to_nat_of_nat n below (by omega)
      exact .rel (lt_of_toNat _ _ (by omega))
  case isFalse low =>
    have lower := to_nat_of_nat m (by omega) (by omega)
    split
    case isTrue high => exact .rel (lt_of_toNat _ _ (by omega))
    case isFalse high =>
      have upper := to_nat_of_nat n below (by omega)
      exact .rel (lt_of_toNat _ _ (by omega))

end KanjiPuzzle.Text
