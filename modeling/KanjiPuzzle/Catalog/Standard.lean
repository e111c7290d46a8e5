import KanjiPuzzle.Catalog.Lookup

set_option autoImplicit false

/- The catalog that comes with the puzzle. -/
namespace KanjiPuzzle.Catalog

def objectTile (id : DefinitionId) (glyph : String) (noun : Noun) (label : String) (defaults : List Property)
    (pushable : Bool) : Definition :=
  ⟨id, glyph, .object (some noun), defaults, pushable, false, label⟩

def textTile (id : DefinitionId) (glyph : String) (meaning : Meaning) (label : String) : Definition :=
  ⟨id, glyph, meaning, [], true, false, label⟩

def standardObjects : List Definition :=
  [objectTile "obj-human" "人" "human" "Human" [] true,
   objectTile "obj-tree" "木" "tree" "Tree" [] false,
   objectTile "obj-rock" "石" "rock" "Rock" [] false,
   objectTile "obj-mountain" "山" "mountain" "Mountain" [] false,
   objectTile "obj-fire" "火" "fire" "Fire" [] false,
   objectTile "obj-water" "水" "water" "Water" [.sink] false,
   objectTile "obj-gate" "門" "gate" "Gate" [] false,
   objectTile "obj-volcano" "火山" "volcano" "Volcano" [.hot] false,
   objectTile "obj-hotspring" "湯" "hotspring" "Hot Spring" [] false,
   objectTile "obj-charcoal" "炭" "charcoal" "Charcoal" [] false]

def standardNouns : List Definition :=
  [textTile "txt-human" "人" (.noun "human") "Human text",
   textTile "txt-tree" "木" (.noun "tree") "Tree text",
   textTile "txt-rock" "石" (.noun "rock") "Rock text",
   textTile "txt-mountain" "山" (.noun "mountain") "Mountain text",
   textTile "txt-fire" "火" (.noun "fire") "Fire text",
   textTile "txt-water" "水" (.noun "water") "Water text",
   textTile "txt-gate" "門" (.noun "gate") "Gate text",
   textTile "txt-volcano" "火山" (.noun "volcano") "Volcano text",
   textTile "txt-hotspring" "湯" (.noun "hotspring") "Hot Spring text",
   textTile "txt-charcoal" "炭" (.noun "charcoal") "Charcoal text"]

def standardGrammar : List Definition :=
  [textTile "txt-topic" "は" (.connector .topic) "Topic",
   textTile "txt-and" "と" (.operator .conjunction) "And"]

def standardProperties : List Definition :=
  [textTile "txt-you" "遊" (.property .you) "You",
   textTile "txt-push" "押" (.property .push) "Push",
   textTile "txt-pull" "引" (.property .pull) "Pull",
   textTile "txt-stop" "止" (.property .stop) "Stop",
   textTile "txt-win" "勝" (.property .win) "Win",
   textTile "txt-float" "浮" (.property .float) "Float",
   textTile "txt-sink" "沈" (.property .sink) "Sink",
   textTile "txt-hot" "熱" (.property .hot) "Hot",
   textTile "txt-melt" "溶" (.property .melt) "Melt"]

def standardDefinitions : List Definition :=
  standardObjects ++ standardNouns ++ standardGrammar ++ standardProperties

def standardRecipes : List Recipe :=
  [⟨"fire-mountain-volcano", "fire", "mountain", "obj-volcano", false⟩,
   ⟨"water-fire-hotspring", "water", "fire", "obj-hotspring", false⟩,
   ⟨"tree-fire-charcoal", "tree", "fire", "obj-charcoal", false⟩]

def standard : Catalog where
  definitions := standardDefinitions
  recipes := standardRecipes
  distinct := by decide +kernel
  outputs_known := by decide +kernel

end KanjiPuzzle.Catalog
