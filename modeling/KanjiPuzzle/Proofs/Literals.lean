import KanjiPuzzle.Json.Reader
import KanjiPuzzle.Json.Writer

set_option autoImplicit false

/- Numbers and texts are read as what they were written for. A number has no closing mark, so what follows it must not
   look like more of it; a text ends at its quote, whatever follows. -/
namespace KanjiPuzzle.Json

theorem skip_blanks_append (blanks rest : List Char) (blank : ∀ c ∈ blanks, isBlank c = true) :
    skipBlanks (blanks ++ rest) = skipBlanks rest := by
  induction blanks with
  | nil => rfl
  | cons c blanks ih =>
      rw [List.cons_append, skipBlanks, List.dropWhile_cons_of_pos (blank c List.mem_cons_self)]
      exact ih fun d member => blank d (List.mem_cons_of_mem c member)

def ended : List Char → Bool
  | [] => true
  | c :: _ => !c.isDigit && c != '.' && c != 'e' && c != 'E'

theorem take_while_digits (digits rest : List Char) (all : ∀ c ∈ digits, c.isDigit = true)
    (done : ended rest = true) : (digits ++ rest).takeWhile Char.isDigit = digits := by
  have stop : rest.takeWhile Char.isDigit = [] := by
    cases rest with
    | nil => rfl
    | cons c rest => simp_all [ended]
  rw [List.takeWhile_append_of_pos all, stop, List.append_nil]

theorem drop_while_digits (digits rest : List Char) (all : ∀ c ∈ digits, c.isDigit = true)
    (done : ended rest = true) : (digits ++ rest).dropWhile Char.isDigit = rest := by
  have stop : rest.dropWhile Char.isDigit = rest := by
    cases rest with
    | nil => rfl
    | cons c rest => simp_all [ended]
  rw [List.dropWhile_append_of_pos all, stop]

theorem magnitude_ended (negative : Bool) (digits rest : List Char) (done : ended rest = true)
    (short : digits.length ≤ Text.digitLimit) :
    magnitude negative digits rest =
      .ok (.integer (if negative then -(ofDigits digits : Int) else ofDigits digits), rest) := by
  have whole : readFraction rest = ([], rest) := by
    unfold readFraction
    split <;> simp_all [ended]
  have plain : readExponent rest = none := by
    unfold readExponent
    split <;> simp_all [ended]
  rw [magnitude, whole, plain, ofWhole, if_neg (Nat.not_lt.mpr short)]
  rfl

theorem to_digits_head (n : Nat) (positive : 0 < n) : (Nat.toDigits 10 n).head? ≠ some '0' := by
  induction n using Nat.strongRecOn with
  | ind n ih =>
      rcases Nat.lt_or_ge n 10 with small | large
      · rw [Nat.toDigits_of_lt_base small]
        simp
        omega
      · rw [Nat.toDigits_of_base_le (by decide) large, List.head?_append]
        have front := ih (n / 10) (by omega) (by omega)
        cases first : (Nat.toDigits 10 (n / 10)).head? with
        | none => exact absurd (List.head?_eq_none_iff.mp first) Nat.toDigits_ne_nil
        | some c => simpa [first] using front

theorem read_magnitude_to_digits (negative : Bool) (n : Nat) (rest : List Char) (done : ended rest = true)
    (short : (Nat.toDigits 10 n).length ≤ Text.digitLimit) :
    readMagnitude negative (Nat.toDigits 10 n ++ rest) =
      .ok (.integer (if negative then -(n : Int) else n), rest) := by
  have digits (c : Char) (member : c ∈ Nat.toDigits 10 n) : c.isDigit = true :=
    Nat.isDigit_of_mem_toDigits (by decide) (by decide) member
  have value : ofDigits (Nat.toDigits 10 n) = n := Nat.ofDigitChars_ten_toDigits
  have read := magnitude_ended negative (Nat.toDigits 10 n) rest done short
  rw [value] at read
  rcases Nat.eq_zero_or_pos n with rfl | positive
  · exact read
  · rw [← read, readMagnitude]
    · rw [take_while_digits _ rest digits done, drop_while_digits _ rest digits done, if_neg]
      simp
    · intro after starts
      have head := to_digits_head n positive
      cases spelled : Nat.toDigits 10 n with
      | nil => exact Nat.toDigits_ne_nil spelled
      | cons c cs => simp_all
    · intro after starts
      cases spelled : Nat.toDigits 10 n with
      | nil => exact Nat.toDigits_ne_nil spelled
      | cons c cs =>
          have digit := digits c (by simp [spelled])
          simp_all

theorem integer_to_list (n : Int) :
    (toString n).toList = (if n < 0 then ['-'] else []) ++ Nat.toDigits 10 n.natAbs := by
  rw [Int.toString_eq_repr]
  cases n with
  | ofNat m => simp [Int.repr]
  | negSucc m => simp [Int.repr]

theorem integer_starts (n : Int) :
    ∃ c cs, (toString n).toList = c :: cs ∧ (n < 0 ∧ c = '-' ∨ 0 ≤ n ∧ c.isDigit = true) := by
  rw [integer_to_list]
  cases spelled : Nat.toDigits 10 n.natAbs with
  | nil => exact absurd spelled Nat.toDigits_ne_nil
  | cons c cs =>
      have digit : c.isDigit = true := Nat.isDigit_of_mem_toDigits (by decide) (by decide) (spelled ▸ List.mem_cons_self)
      by_cases negative : n < 0
      · exact ⟨'-', c :: cs, by simp [negative], .inl ⟨negative, rfl⟩⟩
      · exact ⟨c, cs, by simp [negative], .inr ⟨Int.not_lt.mp negative, digit⟩⟩

theorem integer_starts_apart (n : Int) :
    ∃ c cs, (toString n).toList = c :: cs ∧ ∀ d, d ≠ '-' → d.isDigit = false → c ≠ d := by
  obtain ⟨c, cs, spelled, start⟩ := integer_starts n
  refine ⟨c, cs, spelled, ?_⟩
  rintro d mark letter rfl
  rcases start with ⟨_, minus⟩ | ⟨_, digit⟩
  · exact mark minus
  · exact Bool.false_ne_true (letter.symm.trans digit)

theorem read_word_integer (n : Int) (rest : List Char) (done : ended rest = true)
    (short : (Nat.toDigits 10 n.natAbs).length ≤ Text.digitLimit) :
    readWord ((toString n).toList ++ rest) = .ok (.integer n, rest) := by
  have read (negative : Bool) := read_magnitude_to_digits negative n.natAbs rest done short
  obtain ⟨c, cs, spelled, start⟩ := integer_starts n
  have word : readWord ((toString n).toList ++ rest) = readNumber ((toString n).toList ++ rest) := by
    rw [spelled]
    unfold readWord
    split <;> simp_all
  rw [word, integer_to_list]
  by_cases negative : n < 0
  · have value : -(n.natAbs : Int) = n := by omega
    rw [if_pos negative]
    exact (read true).trans (by rw [if_pos rfl, value])
  · have value : (n.natAbs : Int) = n := by omega
    have digit : c.isDigit = true := by simp_all
    rw [integer_to_list, if_neg negative] at spelled
    rw [if_neg negative, List.nil_append, readNumber]
    · exact (read false).trans (by rw [if_neg Bool.false_ne_true, value])
    · intro after minus
      simp_all
    · intro after letter
      simp_all

theorem hex_value_hex_digit : ∀ d, d < 16 → hexValue? (Text.hexDigit d) = some d := by decide

theorem read_unit_hex (n : Nat) (rest : List Char) (small : n < 65536) :
    readUnit (Text.hex 4 n ++ rest) = some (n, rest) := by
  have digit (m : Nat) := hex_value_hex_digit (m % 16) (Nat.mod_lt m (by decide))
  simp only [Text.hex, List.nil_append, List.cons_append, readUnit, digit, bind, Option.bind]
  refine congrArg some (Prod.ext ?_ rfl)
  simp only
  omega

-- A control character is no half of a pair, so nothing after its escape is joined to it.
theorem read_code_point_hex (n : Nat) (rest : List Char) (small : n < 32) :
    readCodePoint (Text.hex 4 n ++ rest) = some (n, rest) := by
  have alone : isHigh n = false := by
    simp [isHigh]
    omega
  rw [readCodePoint, read_unit_hex n rest (by omega)]
  simp only [alone]
  split
  · split <;> rfl
  · rfl

theorem read_text_escaped (fuel : Nat) (c : Char) (rest : List Char) :
    readText (fuel + 1) (escapedChar c ++ rest) = (readText fuel rest).map fun r => (c :: r.1, r.2) := by
  unfold escapedChar
  split
  case isTrue quote => subst quote; rfl
  split
  case isTrue backslash => subst backslash; rfl
  split
  case isTrue newline => subst newline; rfl
  split
  case isTrue carriage => subst carriage; rfl
  split
  case isTrue tab => subst tab; rfl
  split
  case isTrue backspace => subst backspace; rfl
  split
  case isTrue feed => subst feed; rfl
  split
  case isTrue control =>
    have single : Text.spelled c.toNat = [c] := by
      rw [Text.spelled, if_neg (by omega), Char.ofNat_toNat]
    have escape : readEscape ('u' :: (Text.hex 4 c.toNat ++ rest)) = some ([c], rest) := by
      rw [readEscape, read_code_point_hex c.toNat rest control, Option.map_some, single]
    rw [List.cons_append, List.cons_append, readText, if_neg (by decide), if_pos rfl, escape]
    rfl
  case isFalse plain => simp [readText, *]

theorem escaped_length (s : List Char) : s.length ≤ (s.flatMap escapedChar).length := by
  induction s with
  | nil => exact Nat.le_refl 0
  | cons c s ih =>
      have some_char : 0 < (escapedChar c).length := by
        unfold escapedChar
        repeat' split
        all_goals simp
      rw [List.flatMap_cons, List.length_append, List.length_cons]
      omega

theorem read_text_text_chars (s rest : List Char) (fuel : Nat) (room : s.length < fuel) :
    readText fuel (s.flatMap escapedChar ++ '"' :: rest) = some (s, rest) := by
  induction s generalizing fuel with
  | nil =>
      obtain ⟨less, rfl⟩ := Nat.exists_eq_succ_of_ne_zero (Nat.ne_of_gt room)
      rfl
  | cons c s ih =>
      obtain ⟨less, rfl⟩ := Nat.exists_eq_succ_of_ne_zero (Nat.ne_of_gt (Nat.zero_lt_of_lt room))
      rw [List.flatMap_cons, List.append_assoc, Nat.succ_eq_add_one, read_text_escaped,
        ih less (Nat.lt_of_succ_lt_succ room)]
      rfl

theorem read_string_text_chars (s : String) (rest : List Char) (fuel : Nat)
    (room : (s.toList.flatMap escapedChar ++ '"' :: rest).length ≤ fuel) :
    readString fuel (s.toList.flatMap escapedChar ++ '"' :: rest) = .ok (s, rest) := by
  have longer := escaped_length s.toList
  rw [List.length_append, List.length_cons] at room
  rw [readString, read_text_text_chars s.toList rest fuel (by omega)]
  exact congrArg (fun w => Except.ok (w, rest)) String.ofList_toList

theorem read_key_text_chars (k : String) (rest : List Char) (fuel : Nat)
    (room : (textChars k (':' :: ' ' :: rest)).length ≤ fuel) :
    readKey fuel (textChars k (':' :: ' ' :: rest)) = .ok (k, skipBlanks rest) := by
  rw [textChars, readKey, read_string_text_chars k _ fuel (Nat.le_of_succ_le room)]
  rfl

end KanjiPuzzle.Json
