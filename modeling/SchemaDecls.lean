import SchemaDecls.Main
import SchemaDecls.Proofs.FieldType
import SchemaDecls.Proofs.Walk
import SchemaDecls.Proofs.Checkpoint
import SchemaDecls.Proofs.Declares
import SchemaDecls.Proofs.Outcome
import SchemaDecls.Proofs.Closure
import SchemaDecls.Proofs.Normalization
import SchemaDecls.Proofs.InlineNames
import SchemaDecls.Proofs.Chain
import SchemaDecls.Proofs.Termination
import SchemaDecls.Proofs.Relocation
import SchemaDecls.Proofs.Alias
import SchemaDecls.Proofs.Transparency
import SchemaDecls.Proofs.Identifiers
import SchemaDecls.Proofs.DocumentRuns
import SchemaDecls.Proofs.MemberEdits
import SchemaDecls.Proofs.PointerSegments
import SchemaDecls.Proofs.ComponentNames
import SchemaDecls.Proofs.WrittenLocators
import SchemaDecls.Proofs.JsonMembers
import SchemaDecls.Proofs.Positions
import SchemaDecls.Proofs.SpelledPositions
import SchemaDecls.Proofs.FailurePaths
import SchemaDecls.Proofs.EntryOrder
import SchemaDecls.Proofs.NameRuns
import SchemaDecls.Proofs.NameCharacters
import SchemaDecls.Proofs.SnakeNames
import SchemaDecls.Proofs.SourceText
import SchemaDecls.Proofs.EscapedNames
import SchemaDecls.Proofs.TreeReading
import SchemaDecls.Proofs.PrintedRun
import SchemaDecls.Proofs.FilePaths
import SchemaDecls.Proofs.TreeLocations
import SchemaDecls.Proofs.DirectoryScan
import SchemaDecls.Proofs.TreeWrites
import SchemaDecls.Proofs.WrittenUnits
import SchemaDecls.Proofs.WriteStages
import SchemaDecls.Proofs.OutputFiles
import SchemaDecls.Proofs.ConfinedWrites
import SchemaDecls.Proofs.InputSources
import SchemaDecls.Proofs.KeptPositions
import SchemaDecls.Proofs.JsonGrammar
import SchemaDecls.Proofs.JsonLayout
import SchemaDecls.Proofs.JsonRecords
import SchemaDecls.Proofs.DocumentText
import SchemaDecls.Proofs.Regeneration
import SchemaDecls.Proofs.TypeSpellings
import SchemaDecls.Proofs.UnitImports
