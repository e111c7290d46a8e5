import KanjiPuzzle.Level

set_option autoImplicit false

/- The tutorial: nine short levels, in the order of play. -/
namespace KanjiPuzzle.Tutorial

def sentence (x y : Int) : List DefinitionId → List Placement
  | [] => []
  | definition :: rest => ⟨definition, ⟨x, y⟩⟩ :: sentence (x + 1) y rest

def scattered (definition : DefinitionId) (cells : List (Int × Int)) : List Placement :=
  cells.map fun cell => ⟨definition, ⟨cell.1, cell.2⟩⟩

def alone (definition : DefinitionId) (x y : Int) : List Placement := [⟨definition, ⟨x, y⟩⟩]

def opening (goal : DefinitionId) (x : Int) : List Placement :=
  sentence 1 1 ["txt-human", "txt-topic", "txt-you"] ++ sentence x 1 [goal, "txt-topic", "txt-win"]

def level (id name : String) (width height : Int) (hint : String) (placements : List Placement) : Level :=
  ⟨⟨id, name, .text hint⟩, ⟨width, height⟩, placements⟩

def firstRule : Level :=
  level "tutorial-01" "1. First Rule" 12 8 "Move to the gate. Read the text rules on top."
    (opening "txt-gate" 6 ++ alone "obj-human" 2 5 ++ alone "obj-gate" 9 5)

def push : Level :=
  level "tutorial-02" "2. Push" 12 8 "Push the tree out of the way."
    (opening "txt-gate" 6 ++ sentence 1 2 ["txt-tree", "txt-topic", "txt-push"] ++ alone "obj-human" 2 5 ++
      alone "obj-tree" 5 5 ++ alone "obj-gate" 9 5)

def stop : Level :=
  level "tutorial-03" "3. Stop" 14 9 "Stones block your path. Use the gap."
    (opening "txt-gate" 6 ++ sentence 10 1 ["txt-rock", "txt-topic", "txt-stop"] ++ alone "obj-human" 2 6 ++
      alone "obj-gate" 11 6 ++
      scattered "obj-rock" [(6, 4), (6, 5), (6, 7), (7, 4), (7, 7), (8, 4), (8, 5), (8, 7)])

def spelledPush : Level :=
  level "tutorial-04" "4. Rewrite Push" 14 9 "Make 木 は 押 to move the tree."
    (opening "txt-gate" 10 ++ alone "txt-tree" 3 3 ++ alone "txt-topic" 5 3 ++ alone "txt-push" 7 3 ++
      alone "obj-human" 2 6 ++ alone "obj-tree" 6 6 ++ alone "obj-gate" 11 6 ++
      scattered "obj-rock" [(9, 5), (9, 6), (9, 7)])

def firstFusion : Level :=
  level "tutorial-05" "5. First Fusion" 16 10 "Push 火 into 山 to create 火山, then touch it to win."
    (opening "txt-volcano" 7 ++ sentence 1 2 ["txt-fire", "txt-topic", "txt-push"] ++
      sentence 5 2 ["txt-mountain", "txt-topic", "txt-stop"] ++ alone "obj-human" 2 7 ++ alone "obj-fire" 5 7 ++
      alone "obj-mountain" 8 7 ++ scattered "obj-rock" [(11, 6), (11, 7), (11, 8)])

def chainRules : Level :=
  level "tutorial-06" "6. Chain Rules (と)" 16 10 "Gate is both WIN and STOP. Use the gap and touch it."
    (opening "txt-gate" 6 ++ sentence 9 1 ["txt-and", "txt-stop"] ++
      sentence 1 2 ["txt-tree", "txt-topic", "txt-push"] ++ alone "obj-human" 2 7 ++ alone "obj-tree" 7 7 ++
      alone "obj-gate" 12 7 ++ scattered "obj-rock" [(11, 6), (11, 8)])

def transform : Level :=
  level "tutorial-07" "7. Transform (NOUN は NOUN)" 16 10 "Build 火 は 山 to turn fire into a mountain. Then 火山 still works in later levels."
    (opening "txt-mountain" 6 ++ alone "txt-fire" 1 3 ++ alone "txt-topic" 4 3 ++ alone "txt-mountain" 6 3 ++
      alone "obj-human" 2 7 ++ alone "obj-fire" 5 7 ++ scattered "obj-rock" [(10, 6), (10, 7), (10, 8)])

def pull : Level :=
  level "tutorial-08" "8. Pull (引)" 16 10 "Tree is PULL + STOP. Move away from it to drag it and open the gate path."
    (opening "txt-gate" 6 ++ sentence 10 1 ["txt-tree", "txt-topic", "txt-pull", "txt-and", "txt-stop"] ++
      alone "obj-human" 9 7 ++ alone "obj-tree" 10 7 ++ alone "obj-gate" 12 7 ++
      scattered "obj-rock" [(11, 6), (12, 6), (13, 6), (13, 7), (11, 8), (12, 8), (13, 8)])

def melt : Level :=
  level "tutorial-09" "9. Melt (溶)" 18 11 "Push the melting tree into hot fire to clear the path."
    (opening "txt-gate" 6 ++ sentence 1 2 ["txt-fire", "txt-topic", "txt-hot"] ++
      sentence 6 2 ["txt-tree", "txt-topic", "txt-push", "txt-and", "txt-melt"] ++ alone "obj-human" 2 8 ++
      alone "obj-fire" 9 8 ++ alone "obj-tree" 6 8 ++ alone "obj-gate" 14 8 ++
      scattered "obj-rock" [(11, 7), (11, 8), (11, 9)])

def first : Level := firstRule

def levels : List Level :=
  [first, push, stop, spelledPush, firstFusion, chainRules, transform, pull, melt]

def ids : List String := levels.map fun l => l.heading.id

def byId (id : String) : Attempt Level :=
  match levels.find? fun l => l.heading.id == id with
  | some l => .ok l
  | none => .error (.noEntry id)

def following (id : String) : List String → Option String
  | [] => none
  | here :: rest => if here = id then rest.head? else following id rest

def next? (id : String) : Option String := following id ids

end KanjiPuzzle.Tutorial
