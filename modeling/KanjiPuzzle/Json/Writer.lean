import KanjiPuzzle.Host
import KanjiPuzzle.Number.Shortest
import KanjiPuzzle.Text.Quoted

set_option autoImplicit false

/- JSON text of a value: on one line, or with every item and member on a line of its own, indented by its depth. -/
namespace KanjiPuzzle.Json

structure Layout where
  indent : Option Nat
deriving DecidableEq, Repr

def Layout.oneLine : Layout := ⟨none⟩

def Layout.indented (n : Int) : Layout := ⟨some n.toNat⟩

def Layout.ofIndent : Option Int → Layout
  | none => .oneLine
  | some n => .indented n

-- An indentation is a number of blanks, and so a length.
def Layout.chosen (indent : Option Int) : Attempt Layout :=
  if indent.all Host.isLength then .ok (.ofIndent indent) else .error .lengthOutOfRange

def Layout.newline (l : Layout) (depth : Nat) : List Char :=
  match l.indent with
  | none => []
  | some n => '\n' :: List.replicate (n * depth) ' '

def Layout.comma (l : Layout) : List Char :=
  match l.indent with
  | none => [',', ' ']
  | some _ => [',']

def escapedChar (c : Char) : List Char :=
  if c = '"' then ['\\', '"']
  else if c = '\\' then ['\\', '\\']
  else if c = '\n' then ['\\', 'n']
  else if c = '\r' then ['\\', 'r']
  else if c = '\t' then ['\\', 't']
  else if c = '\x08' then ['\\', 'b']
  else if c = '\x0c' then ['\\', 'f']
  else if c.toNat < 32 then '\\' :: 'u' :: Text.hex 4 c.toNat
  else [c]

-- Each of the functions below takes the characters that come after the ones it writes.
def textChars (s : String) (rest : List Char) : List Char :=
  '"' :: (s.toList.flatMap escapedChar ++ '"' :: rest)

def numberSpelling : Number.Spelling := ⟨"NaN", "Infinity"⟩

mutual
def chars (l : Layout) (depth : Nat) : Json → List Char → List Char
  | .null, rest => 'n' :: 'u' :: 'l' :: 'l' :: rest
  | .bool true, rest => 't' :: 'r' :: 'u' :: 'e' :: rest
  | .bool false, rest => 'f' :: 'a' :: 'l' :: 's' :: 'e' :: rest
  | .integer n, rest => (toString n).toList ++ rest
  | .real x, rest => (x.text numberSpelling).toList ++ rest
  | .text s, rest => textChars s rest
  | .array [], rest => '[' :: ']' :: rest
  | .array (v :: vs), rest =>
      '[' :: (l.newline (depth + 1) ++
        chars l (depth + 1) v (itemChars l (depth + 1) vs (l.newline depth ++ ']' :: rest)))
  | .object [], rest => '\x7b' :: '\x7d' :: rest
  | .object ((k, v) :: ms), rest =>
      '\x7b' :: (l.newline (depth + 1) ++ textChars k (':' :: ' ' ::
        chars l (depth + 1) v (memberChars l (depth + 1) ms (l.newline depth ++ '\x7d' :: rest))))

def itemChars (l : Layout) (depth : Nat) : List Json → List Char → List Char
  | [], rest => rest
  | v :: vs, rest => l.comma ++ (l.newline depth ++ chars l depth v (itemChars l depth vs rest))

def memberChars (l : Layout) (depth : Nat) : List (String × Json) → List Char → List Char
  | [], rest => rest
  | (k, v) :: ms, rest =>
      l.comma ++ (l.newline depth ++ textChars k (':' :: ' ' :: chars l depth v (memberChars l depth ms rest)))
end

def write (l : Layout) (v : Json) : String := String.ofList (chars l 0 v [])

mutual
def writable : Json → Bool
  | .integer n => Text.isWritable n
  | .array items => writableItems items
  | .object members => writableMembers members
  | _ => true

def writableItems : List Json → Bool
  | [] => true
  | v :: vs => writable v && writableItems vs

def writableMembers : List (String × Json) → Bool
  | [] => true
  | (_, v) :: ms => writable v && writableMembers ms
end

end KanjiPuzzle.Json
