import KanjiPuzzle.Proofs.Repetition

set_option autoImplicit false

/- More tiles say no less. A tile can lengthen a sentence, begin another one or come before it, but none of this takes a
   rule from the board or a property from a noun. -/
namespace KanjiPuzzle.TokenBoard

section Tiles

variable (extent : Extent) (catalog : Catalog)

theorem granted_spelled_iff (tiles : List Tile) (b : TokenBoard) (read : ofTiles extent catalog tiles = .ok b)
    (noun : Noun) (p : Property) : (Effects.ofRules b.rules).grants noun p = true ↔
      ∃ origin axis k, Sentence extent catalog tiles origin axis k noun (.property p) := by
  rw [grants_rules_iff]
  constructor
  · rintro ⟨r, member, rfl, grants⟩
    obtain ⟨origin, k, spells⟩ := (mem_spelled_iff b r).mp member
    have sentence := ((spells_iff extent catalog tiles b read origin k r).mp spells).1
    exact ⟨origin, r.axis, k, grants ▸ sentence⟩
  · rintro ⟨origin, axis, k, sentence⟩
    let r : Rule := ⟨noun, .property p, axis, [origin, along origin axis 1, along origin axis (2 + 2 * k)]⟩
    have spells := (spells_iff extent catalog tiles b read origin k r).mpr ⟨sentence, rfl⟩
    exact ⟨r, (mem_spelled_iff b r).mpr ⟨origin, k, spells⟩, rfl, rfl⟩

variable (tiles others : List Tile) (few many : TokenBoard) (covered : Covers others tiles)
  (read : ofTiles extent catalog tiles = .ok few) (read_more : ofTiles extent catalog others = .ok many)
include covered read read_more

theorem signatures_mono (r : Rule) (member : r ∈ few.rules) : ∃ rule ∈ many.rules, rule.signature = r.signature := by
  obtain ⟨said, same, origin, k, sentence⟩ :=
    (signature_spelled_iff extent catalog tiles few read r.signature).mp ⟨r, member, rfl⟩
  refine (signature_spelled_iff extent catalog others many read_more r.signature).mpr ⟨said, same, origin, k, ?_⟩
  exact sentence_mono extent catalog tiles others origin said.axis k said.subject said.term covered sentence

theorem grants_mono (noun : Noun) (p : Property) (granted : (Effects.ofRules few.rules).grants noun p = true) :
    (Effects.ofRules many.rules).grants noun p = true := by
  obtain ⟨origin, axis, k, sentence⟩ := (granted_spelled_iff extent catalog tiles few read noun p).mp granted
  refine (granted_spelled_iff extent catalog others many read_more noun p).mpr ⟨origin, axis, k, ?_⟩
  exact sentence_mono extent catalog tiles others origin axis k noun (.property p) covered sentence

end Tiles

theorem signatures_perm (few many : TokenBoard)
    (more : ∀ r ∈ few.rules, ∃ rule ∈ many.rules, rule.signature = r.signature)
    (less : ∀ r ∈ many.rules, ∃ rule ∈ few.rules, rule.signature = r.signature) :
    (few.rules.map Rule.signature).Perm (many.rules.map Rule.signature) := by
  refine (List.perm_ext_iff_of_nodup (rules_nodup few) (rules_nodup many)).mpr fun signature => ?_
  rw [List.mem_map, List.mem_map]
  constructor
  · rintro ⟨r, member, rfl⟩
    exact more r member
  · rintro ⟨r, member, rfl⟩
    exact less r member

theorem more_tiles_say_no_less (extent : Extent) (catalog : Catalog) (tiles others : List Tile)
    (known : ∀ other ∈ others, extent.contains other.cell = true → catalog.contains other.definition = true)
    (covered : Covers others tiles) :
    ∃ few many, ofTiles extent catalog tiles = .ok few ∧ ofTiles extent catalog others = .ok many ∧
      (∀ r ∈ few.rules, ∃ rule ∈ many.rules, rule.signature = r.signature) ∧
      (∀ noun p, (Effects.ofRules few.rules).grants noun p = true →
        (Effects.ofRules many.rules).grants noun p = true) ∧
      (Covers tiles others → (few.rules.map Rule.signature).Perm (many.rules.map Rule.signature) ∧
        (Effects.ofRules few.rules).SameProperties (Effects.ofRules many.rules)) := by
  obtain ⟨many, read_more, _⟩ := tiles_answer extent catalog others known
  obtain ⟨few, read, _⟩ := tiles_answer extent catalog tiles fun tile member inside => by
    obtain ⟨other, listed, same, here⟩ := covered tile member
    exact same ▸ known other listed (here ▸ inside)
  have signatures := signatures_mono extent catalog tiles others few many covered read read_more
  have grants := grants_mono extent catalog tiles others few many covered read read_more
  refine ⟨few, many, read, read_more, signatures, grants, fun back => ⟨?_, ?_⟩⟩
  · exact signatures_perm few many signatures
      (signatures_mono extent catalog others tiles many few back read_more read)
  · exact Effects.same_properties few.rules many.rules fun noun p =>
      ⟨grants noun p, grants_mono extent catalog others tiles many few back read_more read noun p⟩

theorem crossing_reordered :
    let tiles : List Tile := [⟨1, "obj-tree", ⟨0, 0⟩⟩, ⟨2, "txt-topic", ⟨1, 0⟩⟩, ⟨3, "txt-push", ⟨2, 0⟩⟩,
      ⟨4, "txt-topic", ⟨0, 1⟩⟩, ⟨5, "txt-rock", ⟨0, 2⟩⟩, ⟨6, "txt-hot", ⟨0, 2⟩⟩]
    let others : List Tile := [⟨9, "txt-hot", ⟨0, 2⟩⟩, ⟨3, "txt-rock", ⟨0, 2⟩⟩, ⟨8, "txt-topic", ⟨0, 1⟩⟩,
      ⟨2, "txt-push", ⟨2, 0⟩⟩, ⟨7, "txt-topic", ⟨1, 0⟩⟩, ⟨1, "obj-tree", ⟨0, 0⟩⟩, ⟨4, "obj-tree", ⟨0, 0⟩⟩]
    Covers others tiles ∧ Covers tiles others ∧
      ∃ few many, ofTiles ⟨3, 3⟩ .standard tiles = .ok few ∧ ofTiles ⟨3, 3⟩ .standard others = .ok many ∧
        (few.rules.map Rule.signature).Perm (many.rules.map Rule.signature) ∧
        (Effects.ofRules few.rules).SameProperties (Effects.ofRules many.rules) := by
  intro tiles others
  have covered : Covers others tiles := by
    unfold Covers
    decide
  have back : Covers tiles others := by
    unfold Covers
    decide
  obtain ⟨few, many, read, read_more, _, _, same⟩ :=
    more_tiles_say_no_less ⟨3, 3⟩ .standard tiles others (by decide) covered
  exact ⟨covered, back, few, many, read, read_more, same back⟩

end KanjiPuzzle.TokenBoard
