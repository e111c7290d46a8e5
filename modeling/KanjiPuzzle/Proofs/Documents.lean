import KanjiPuzzle.Proofs.Literals

set_option autoImplicit false

/- A value is read as the one it was written for, in every layout. Writer and reader take a value apart in the same way:
   what a value was written with is used up by reading it, and what comes after it is left. -/
namespace KanjiPuzzle.Json

mutual
def Plain : Json → Prop
  | .real _ => False
  | .array items => PlainItems items
  | .object members => (members.map Prod.fst).Nodup ∧ PlainMembers members
  | _ => True

def PlainItems : List Json → Prop
  | [] => True
  | v :: vs => Plain v ∧ PlainItems vs

def PlainMembers : List (String × Json) → Prop
  | [] => True
  | (_, v) :: ms => Plain v ∧ PlainMembers ms
end

theorem put_member_fresh (key : String) (value : Json) (members : List (String × Json))
    (fresh : key ∉ members.map Prod.fst) : putMember key value members = members ++ [(key, value)] := by
  induction members with
  | nil => rfl
  | cons m rest ih =>
      obtain ⟨other, apart⟩ := not_or.mp (mt List.mem_cons.mpr fresh)
      rw [putMember, if_neg (Ne.symm other), ih apart, List.cons_append]

theorem put_members_distinct (members before : List (String × Json))
    (distinct : ((before ++ members).map Prod.fst).Nodup) :
    members.foldl (fun acc m => putMember m.1 m.2 acc) before = before ++ members := by
  induction members generalizing before with
  | nil => exact (List.append_nil before).symm
  | cons m rest ih =>
      have fresh : m.1 ∉ before.map Prod.fst := by
        rw [List.map_append, List.nodup_append] at distinct
        exact fun member => distinct.2.2 m.1 member m.1 List.mem_cons_self rfl
      rw [List.append_cons] at distinct ⊢
      rw [List.foldl_cons, put_member_fresh m.1 m.2 before fresh]
      exact ih _ distinct

theorem collect_distinct (members : List (String × Json)) (distinct : (members.map Prod.fst).Nodup) :
    collect members = members :=
  put_members_distinct members [] distinct

theorem newline_blank (l : Layout) (depth : Nat) (c : Char) (member : c ∈ l.newline depth) : isBlank c = true := by
  unfold Layout.newline at member
  split at member
  · cases member
  · rcases List.mem_cons.mp member with rfl | spaces
    · rfl
    · rw [List.eq_of_mem_replicate spaces]
      rfl

theorem chars_starts (l : Layout) (depth : Nat) (v : Json) (rest : List Char) (plain : v.Plain) :
    ∃ c cs, chars l depth v rest = c :: cs ∧ isBlank c = false ∧ c ≠ ']' := by
  cases v with
  | null => exact ⟨_, _, rfl, rfl, by decide⟩
  | bool b => cases b <;> exact ⟨_, _, rfl, rfl, by decide⟩
  | integer n =>
      obtain ⟨c, cs, spelled, apart⟩ := integer_starts_apart n
      refine ⟨c, cs ++ rest, by rw [chars, spelled]; rfl, ?_, apart ']' (by decide) rfl⟩
      simp [isBlank, apart]
  | real x => exact plain.elim
  | text s => exact ⟨_, _, rfl, rfl, by decide⟩
  | array items => cases items <;> exact ⟨_, _, rfl, rfl, by decide⟩
  | object members => cases members <;> exact ⟨_, _, rfl, rfl, by decide⟩

theorem skip_blanks_newline (l : Layout) (depth : Nat) (cs : List Char) :
    skipBlanks (l.newline depth ++ cs) = skipBlanks cs :=
  skip_blanks_append _ _ (newline_blank l depth)

theorem skip_blanks_chars (l : Layout) (depth : Nat) (v : Json) (rest : List Char) (plain : v.Plain) :
    skipBlanks (chars l depth v rest) = chars l depth v rest := by
  obtain ⟨c, cs, spelled, solid, _⟩ := chars_starts l depth v rest plain
  rw [spelled, skipBlanks, List.dropWhile_cons_of_neg (by simp [solid])]

def afterItem (l : Layout) (depth : Nat) (vs : List Json) (rest : List Char) : List Char :=
  itemChars l (depth + 1) vs (l.newline depth ++ ']' :: rest)

def afterMember (l : Layout) (depth : Nat) (ms : List (String × Json)) (rest : List Char) : List Char :=
  memberChars l (depth + 1) ms (l.newline depth ++ '\x7d' :: rest)

def memberText (l : Layout) (depth : Nat) (k : String) (v : Json) (rest : List Char) : List Char :=
  textChars k (':' :: ' ' :: chars l depth v rest)

theorem member_text_length (l : Layout) (depth : Nat) (k : String) (v : Json) (rest : List Char) :
    (chars l depth v rest).length < (memberText l depth k v rest).length := by
  simp only [memberText, textChars, List.length_cons, List.length_append]
  omega

mutual
theorem chars_length (l : Layout) (depth : Nat) :
    ∀ (v : Json) (rest : List Char), v.Plain → rest.length < (chars l depth v rest).length
  | .null, rest, _ | .bool true, rest, _ | .bool false, rest, _ | .array [], rest, _ | .object [], rest, _ => by
      simp only [chars, List.length_cons]
      omega
  | .integer n, rest, _ => by
      obtain ⟨c, cs, spelled, _⟩ := integer_starts n
      simp only [chars, spelled, List.length_append, List.length_cons]
      omega
  | .text s, rest, _ => by
      simp only [chars, textChars, List.length_append, List.length_cons]
      omega
  | .array (v :: vs), rest, plain => by
      have first := chars_length l (depth + 1) v (afterItem l depth vs rest) plain.1
      have others := item_chars_length l (depth + 1) vs (l.newline depth ++ ']' :: rest) plain.2
      rw [← afterItem, List.length_append, List.length_cons] at others
      rw [chars, ← afterItem, List.length_cons, List.length_append]
      omega
  | .object ((k, v) :: ms), rest, plain => by
      have first := chars_length l (depth + 1) v (afterMember l depth ms rest) plain.2.1
      have others := member_chars_length l (depth + 1) ms (l.newline depth ++ '\x7d' :: rest) plain.2.2
      have key := member_text_length l (depth + 1) k v (afterMember l depth ms rest)
      rw [← afterMember, List.length_append, List.length_cons] at others
      rw [chars, ← afterMember, ← memberText, List.length_cons, List.length_append]
      omega

theorem item_chars_length (l : Layout) (depth : Nat) :
    ∀ (vs : List Json) (rest : List Char), PlainItems vs → rest.length ≤ (itemChars l depth vs rest).length
  | [], rest, _ => Nat.le_refl _
  | v :: vs, rest, plain => by
      have first := chars_length l depth v (itemChars l depth vs rest) plain.1
      have others := item_chars_length l depth vs rest plain.2
      rw [itemChars, List.length_append, List.length_append]
      omega

theorem member_chars_length (l : Layout) (depth : Nat) :
    ∀ (ms : List (String × Json)) (rest : List Char), PlainMembers ms →
      rest.length ≤ (memberChars l depth ms rest).length
  | [], rest, _ => Nat.le_refl _
  | (k, v) :: ms, rest, plain => by
      have first := chars_length l depth v (memberChars l depth ms rest) plain.1
      have others := member_chars_length l depth ms rest plain.2
      have key := member_text_length l depth k v (memberChars l depth ms rest)
      rw [memberChars, ← memberText, List.length_append, List.length_append]
      omega
end

theorem ended_after_item (l : Layout) (depth : Nat) (vs : List Json) (rest : List Char) :
    ended (afterItem l depth vs rest) = true := by
  unfold afterItem
  cases vs <;> cases indent : l.indent <;> simp [itemChars, Layout.newline, Layout.comma, indent, ended]

theorem ended_after_member (l : Layout) (depth : Nat) (ms : List (String × Json)) (rest : List Char) :
    ended (afterMember l depth ms rest) = true := by
  unfold afterMember
  cases ms <;> cases indent : l.indent <;> simp [memberChars, Layout.newline, Layout.comma, indent, ended]

theorem comma_blanks (l : Layout) : ∃ blanks, l.comma = ',' :: blanks ∧ ∀ c ∈ blanks, isBlank c = true := by
  unfold Layout.comma
  split
  · exact ⟨[' '], rfl, by simp [isBlank]⟩
  · exact ⟨[], rfl, by simp⟩

theorem comma_length (l : Layout) : 0 < l.comma.length := by
  unfold Layout.comma
  split <;> decide

theorem read_key_member_text (l : Layout) (depth : Nat) (k : String) (v : Json) (rest : List Char) (fuel : Nat)
    (plain : v.Plain) (room : (memberText l depth k v rest).length ≤ fuel) :
    readKey fuel (memberText l depth k v rest) = .ok (k, chars l depth v rest) := by
  rw [memberText, read_key_text_chars k _ fuel room, skip_blanks_chars l depth v rest plain]

theorem read_value_integer (fuel : Nat) (n : Int) (rest : List Char) (done : ended rest = true)
    (short : (Nat.toDigits 10 n.natAbs).length ≤ Text.digitLimit) :
    readValue (fuel + 1) ((toString n).toList ++ rest) = .ok (.integer n, rest) := by
  have read := read_word_integer n rest done short
  obtain ⟨c, cs, spelled, apart⟩ := integer_starts_apart n
  rw [spelled, List.cons_append] at read ⊢
  rw [readValue, if_neg (apart '"' (by decide) rfl), if_neg (apart '[' (by decide) rfl),
    if_neg (apart '\x7b' (by decide) rfl)]
  exact read

theorem read_value_array (fuel : Nat) (l : Layout) (depth : Nat) (v : Json) (rest : List Char) (plain : v.Plain) :
    readValue (fuel + 1) ('[' :: (l.newline depth ++ chars l depth v rest)) = (do
      let (w, after) ← readValue fuel (chars l depth v rest)
      let (ws, after) ← readItems fuel (skipBlanks after)
      .ok (.array (w :: ws), after)) := by
  obtain ⟨c, cs, spelled, _, unclosed⟩ := chars_starts l depth v rest plain
  rw [readValue, if_neg (by decide), if_pos rfl, skip_blanks_newline, skip_blanks_chars l depth v rest plain, spelled]
  split
  case h_1 closed =>
    cases closed
    exact absurd rfl unclosed
  case h_2 => rfl

theorem read_value_object (fuel : Nat) (l : Layout) (depth : Nat) (k : String) (v : Json) (rest : List Char) :
    readValue (fuel + 1) ('\x7b' :: (l.newline depth ++ memberText l depth k v rest)) = (do
      let (key, after) ← readKey fuel (memberText l depth k v rest)
      let (w, after) ← readValue fuel after
      let (ms, after) ← readMembers fuel (skipBlanks after)
      .ok (.object (collect ((key, w) :: ms)), after)) := by
  rw [readValue, if_neg (by decide), if_neg (by decide), if_pos rfl, skip_blanks_newline]
  rfl

theorem read_items_comma (fuel : Nat) (l : Layout) (depth : Nat) (v : Json) (rest : List Char) (plain : v.Plain) :
    readItems (fuel + 1) (skipBlanks (l.comma ++ (l.newline depth ++ chars l depth v rest))) = (do
      let (w, after) ← readValue fuel (chars l depth v rest)
      let (ws, after) ← readItems fuel (skipBlanks after)
      .ok (w :: ws, after)) := by
  obtain ⟨blanks, spaced, blank⟩ := comma_blanks l
  rw [spaced, List.cons_append, skipBlanks, List.dropWhile_cons_of_neg (by decide), readItems,
    skip_blanks_append _ _ blank, skip_blanks_newline, skip_blanks_chars l depth v rest plain]

theorem read_members_comma (fuel : Nat) (l : Layout) (depth : Nat) (k : String) (v : Json) (rest : List Char) :
    readMembers (fuel + 1) (skipBlanks (l.comma ++ (l.newline depth ++ memberText l depth k v rest))) = (do
      let (key, after) ← readKey fuel (memberText l depth k v rest)
      let (w, after) ← readValue fuel after
      let (ms, after) ← readMembers fuel (skipBlanks after)
      .ok ((key, w) :: ms, after)) := by
  obtain ⟨blanks, spaced, blank⟩ := comma_blanks l
  rw [spaced, List.cons_append, skipBlanks, List.dropWhile_cons_of_neg (by decide), readMembers,
    skip_blanks_append _ _ blank, skip_blanks_newline]
  rfl

-- By induction over the value, with as many calls left as there are characters to read.
mutual
theorem read_value_chars (l : Layout) (depth : Nat) :
    ∀ (v : Json) (rest : List Char) (fuel : Nat), v.Plain → v.writable = true → ended rest = true →
      (chars l depth v rest).length ≤ fuel → readValue fuel (chars l depth v rest) = .ok (v, rest)
  | v, rest, 0, plain, _, _, room => absurd (chars_length l depth v rest plain) (by omega)
  | .null, rest, fuel + 1, _, _, _, _ => rfl
  | .bool true, rest, fuel + 1, _, _, _, _ => rfl
  | .bool false, rest, fuel + 1, _, _, _, _ => rfl
  | .integer n, rest, fuel + 1, _, short, done, _ => read_value_integer fuel n rest done (of_decide_eq_true short)
  | .text s, rest, fuel + 1, _, _, _, room => by
      rw [chars, textChars, readValue, if_pos rfl, read_string_text_chars s rest fuel (Nat.le_of_succ_le_succ room)]
      rfl
  | .array [], rest, fuel + 1, _, _, _, _ => rfl
  | .array (v :: vs), rest, fuel + 1, plain, short, done, room => by
      have short := Bool.and_eq_true_iff.mp short
      have longer := chars_length l (depth + 1) v (afterItem l depth vs rest) plain.1
      rw [chars, ← afterItem] at room ⊢
      rw [List.length_cons, List.length_append] at room
      have first := read_value_chars l (depth + 1) v (afterItem l depth vs rest) fuel plain.1 short.1
        (ended_after_item l depth vs rest) (by omega)
      have others := read_items_chars l depth vs rest fuel plain.2 short.2 (by omega)
      rw [read_value_array fuel l (depth + 1) v _ plain.1]
      simp only [bind, Except.bind, first, others]
  | .object [], rest, fuel + 1, _, _, _, _ => rfl
  | .object ((k, v) :: ms), rest, fuel + 1, plain, short, done, room => by
      have short := Bool.and_eq_true_iff.mp short
      have longer := chars_length l (depth + 1) v (afterMember l depth ms rest) plain.2.1
      have named := member_text_length l (depth + 1) k v (afterMember l depth ms rest)
      rw [chars, ← afterMember, ← memberText] at room ⊢
      rw [List.length_cons, List.length_append] at room
      have key := read_key_member_text l (depth + 1) k v (afterMember l depth ms rest) fuel plain.2.1 (by omega)
      have first := read_value_chars l (depth + 1) v (afterMember l depth ms rest) fuel plain.2.1 short.1
        (ended_after_member l depth ms rest) (by omega)
      have others := read_members_chars l depth ms rest fuel plain.2.2 short.2 (by omega)
      rw [read_value_object]
      simp only [bind, Except.bind, key, first, others, collect_distinct _ plain.1]

theorem read_items_chars (l : Layout) (depth : Nat) :
    ∀ (vs : List Json) (rest : List Char) (fuel : Nat), PlainItems vs → writableItems vs = true →
      (afterItem l depth vs rest).length ≤ fuel →
      readItems fuel (skipBlanks (afterItem l depth vs rest)) = .ok (vs, rest)
  | vs, rest, 0, plain, _, room => by
      have longer := item_chars_length l (depth + 1) vs (l.newline depth ++ ']' :: rest) plain
      rw [List.length_append, List.length_cons] at longer
      exact absurd (Nat.le_trans longer room) (by omega)
  | [], rest, fuel + 1, _, _, room => by
      rw [afterItem, itemChars, skip_blanks_newline]
      rfl
  | v :: vs, rest, fuel + 1, plain, short, room => by
      have short := Bool.and_eq_true_iff.mp short
      have longer := chars_length l (depth + 1) v (afterItem l depth vs rest) plain.1
      have comma := comma_length l
      rw [afterItem, itemChars, ← afterItem] at room ⊢
      rw [List.length_append, List.length_append] at room
      have first := read_value_chars l (depth + 1) v (afterItem l depth vs rest) fuel plain.1 short.1
        (ended_after_item l depth vs rest) (by omega)
      have others := read_items_chars l depth vs rest fuel plain.2 short.2 (by omega)
      rw [read_items_comma fuel l (depth + 1) v _ plain.1]
      simp only [bind, Except.bind, first, others]

theorem read_members_chars (l : Layout) (depth : Nat) :
    ∀ (ms : List (String × Json)) (rest : List Char) (fuel : Nat), PlainMembers ms → writableMembers ms = true →
      (afterMember l depth ms rest).length ≤ fuel →
      readMembers fuel (skipBlanks (afterMember l depth ms rest)) = .ok (ms, rest)
  | ms, rest, 0, plain, _, room => by
      have longer := member_chars_length l (depth + 1) ms (l.newline depth ++ '\x7d' :: rest) plain
      rw [List.length_append, List.length_cons] at longer
      exact absurd (Nat.le_trans longer room) (by omega)
  | [], rest, fuel + 1, _, _, room => by
      rw [afterMember, memberChars, skip_blanks_newline]
      rfl
  | (k, v) :: ms, rest, fuel + 1, plain, short, room => by
      have short := Bool.and_eq_true_iff.mp short
      have longer := chars_length l (depth + 1) v (afterMember l depth ms rest) plain.1
      have named := member_text_length l (depth + 1) k v (afterMember l depth ms rest)
      have comma := comma_length l
      rw [afterMember, memberChars, ← afterMember, ← memberText] at room ⊢
      rw [List.length_append, List.length_append] at room
      have key := read_key_member_text l (depth + 1) k v (afterMember l depth ms rest) fuel plain.1 (by omega)
      have first := read_value_chars l (depth + 1) v (afterMember l depth ms rest) fuel plain.1 short.1
        (ended_after_member l depth ms rest) (by omega)
      have others := read_members_chars l depth ms rest fuel plain.2 short.2 (by omega)
      rw [read_members_comma]
      simp only [bind, Except.bind, key, first, others]
end

end KanjiPuzzle.Json
