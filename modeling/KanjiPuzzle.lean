import KanjiPuzzle.Text.Printable
import KanjiPuzzle.Text.Quoted
import KanjiPuzzle.Text.Decimal
import KanjiPuzzle.Text.Sorted
import KanjiPuzzle.Number.Binary64
import KanjiPuzzle.Number.Shortest
import KanjiPuzzle.Json.Value
import KanjiPuzzle.Json.Shown
import KanjiPuzzle.Json.Writer
import KanjiPuzzle.Json.Reader
import KanjiPuzzle.Host
import KanjiPuzzle.Grid
import KanjiPuzzle.Vocabulary
import KanjiPuzzle.Command
import KanjiPuzzle.Fault
import KanjiPuzzle.Attempt
import KanjiPuzzle.Json.Field
import KanjiPuzzle.EntityMap
import KanjiPuzzle.Least
import KanjiPuzzle.Catalog.Definition
import KanjiPuzzle.Catalog.Recipe
import KanjiPuzzle.Catalog.Lookup
import KanjiPuzzle.Catalog.Standard
import KanjiPuzzle.Rule
import KanjiPuzzle.Effects
import KanjiPuzzle.Event
import KanjiPuzzle.Board.Tokens
import KanjiPuzzle.Board.Sentences
import KanjiPuzzle.State
import KanjiPuzzle.State.Traits
import KanjiPuzzle.Turn.Movement
import KanjiPuzzle.Turn.Fusion
import KanjiPuzzle.Turn.Reading
import KanjiPuzzle.Turn.Roles
import KanjiPuzzle.Turn.Hazards
import KanjiPuzzle.Turn.Victory
import KanjiPuzzle.Turn.Play
import KanjiPuzzle.Level
import KanjiPuzzle.Level.Format
import KanjiPuzzle.Level.Loading
import KanjiPuzzle.Level.Tutorial
import KanjiPuzzle.Session
import KanjiPuzzle.View.Picture
import KanjiPuzzle.View.Counts
import KanjiPuzzle.View.Snapshot
import KanjiPuzzle.Episode
import KanjiPuzzle.Proofs.Answers
import KanjiPuzzle.Proofs.Chain
import KanjiPuzzle.Proofs.Overlap
import KanjiPuzzle.Proofs.OneCell
import KanjiPuzzle.Proofs.Closure
import KanjiPuzzle.Proofs.Lines
import KanjiPuzzle.Proofs.LineScan
import KanjiPuzzle.Proofs.OneLine
import KanjiPuzzle.Proofs.ChainsEnd
import KanjiPuzzle.Proofs.InForce
import KanjiPuzzle.Proofs.Spelling
import KanjiPuzzle.Proofs.Grammar
import KanjiPuzzle.Proofs.TileSentences
import KanjiPuzzle.Proofs.Repetition
import KanjiPuzzle.Proofs.MoreTiles
import KanjiPuzzle.Proofs.Soundness
import KanjiPuzzle.Proofs.Phases
import KanjiPuzzle.Proofs.Turns
import KanjiPuzzle.Proofs.Loading
import KanjiPuzzle.Proofs.Editing
import KanjiPuzzle.Proofs.History
import KanjiPuzzle.Proofs.Stages
import KanjiPuzzle.Proofs.Upkeep
import KanjiPuzzle.Proofs.Entitlement
import KanjiPuzzle.Proofs.NounSlots
import KanjiPuzzle.Proofs.Appointments
import KanjiPuzzle.Proofs.Commitment
import KanjiPuzzle.Proofs.WellFormed
import KanjiPuzzle.Proofs.Tenure
import KanjiPuzzle.Proofs.Reached
import KanjiPuzzle.Proofs.Report
import KanjiPuzzle.Proofs.Identity
import KanjiPuzzle.Proofs.Handover
import KanjiPuzzle.Proofs.Readings
import KanjiPuzzle.Proofs.Novelty
import KanjiPuzzle.Session.Console
import KanjiPuzzle.Proofs.Requests
import KanjiPuzzle.Proofs.Clearing
import KanjiPuzzle.Proofs.Chronicle
import KanjiPuzzle.Proofs.Rewards
import KanjiPuzzle.Proofs.Nameless
import KanjiPuzzle.Proofs.Restored
import KanjiPuzzle.Proofs.Literals
import KanjiPuzzle.Proofs.Documents
import KanjiPuzzle.Proofs.KeptLevels
import KanjiPuzzle.Proofs.Appearance
import KanjiPuzzle.Proofs.PlainTurns
import KanjiPuzzle.Proofs.PlainSessions
import KanjiPuzzle.Proofs.Renaming
import KanjiPuzzle.Proofs.RenamedPhases
import KanjiPuzzle.Proofs.RenamedRoles
import KanjiPuzzle.Proofs.RenamedTurns
import KanjiPuzzle.Proofs.Settling
import KanjiPuzzle.Proofs.Resumed
import KanjiPuzzle.Proofs.Gathering
import KanjiPuzzle.Proofs.Occupancy
import KanjiPuzzle.Proofs.Perils
import KanjiPuzzle.Proofs.Turning
import KanjiPuzzle.Proofs.Pairs
import KanjiPuzzle.Proofs.Overlooked
import KanjiPuzzle.Proofs.ScanOrder
import KanjiPuzzle.Proofs.Succession
import KanjiPuzzle.Proofs.Exclusion
import KanjiPuzzle.Proofs.Glyphs
import KanjiPuzzle.Proofs.Facts
import KanjiPuzzle.Proofs.Leftovers
import KanjiPuzzle.Proofs.Views
import KanjiPuzzle.Proofs.Keys
import KanjiPuzzle.Proofs.Preference
import KanjiPuzzle.Proofs.Nomination
import KanjiPuzzle.Proofs.Captors
