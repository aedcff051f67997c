import LangSpec.Assertion
import LangSpec.Draft.Finish
import LangSpec.Draft.Grammar
import LangSpec.Draft.Nesting
import LangSpec.Draft.Routine
import LangSpec.Draft.Template
import LangSpec.Draft.Token
import LangSpec.Proofs.Walk
import LangSpec.Proofs.Edit
import LangSpec.Proofs.Integrity
import LangSpec.Proofs.Course
import LangSpec.Proofs.Identity
import LangSpec.Proofs.NamespaceTree
import LangSpec.Proofs.ScannerLayout
import LangSpec.Proofs.Replication
import LangSpec.Proofs.RegionTokens
import LangSpec.Proofs.Literals
import LangSpec.Proofs.Finish
import LangSpec.Proofs.Captures
import LangSpec.Proofs.SettledCaptures
import LangSpec.Proofs.Scopes
import LangSpec.Proofs.Nesting
import LangSpec.Proofs.Faults
import LangSpec.Proofs.Footprint
import LangSpec.Proofs.References
import LangSpec.Proofs.Numbering
import LangSpec.Proofs.Endurance
import LangSpec.Proofs.ScopeFields
import LangSpec.Proofs.NamespacePaths
import LangSpec.Proofs.Reports
import LangSpec.Proofs.Placement
import LangSpec.Proofs.ClosedScanners
import LangSpec.Proofs.ScopeForest
import LangSpec.Proofs.LiteralDictionary
import LangSpec.Proofs.ValidSpecs
import LangSpec.Proofs.Listings
import LangSpec.Proofs.NewTokens
import LangSpec.Proofs.RegularEntries
import LangSpec.Proofs.AttachedCode
import LangSpec.Proofs.OutwardWays
import LangSpec.Proofs.PlainOperations
import LangSpec.Proofs.TemplateNumbers
import LangSpec.Proofs.Pieces
import LangSpec.Proofs.MatchMarks
import LangSpec.Proofs.FieldHomes
import LangSpec.Proofs.CaptureWiring
import LangSpec.Proofs.Spelling
import LangSpec.Proofs.InnermostDefinitions
import LangSpec.Proofs.Rejections
import LangSpec.Proofs.Redeclaration
import LangSpec.Proofs.MergedTexts
import LangSpec.Proofs.Counts
import LangSpec.Proofs.IdleOperations
import LangSpec.Proofs.Precedence
import LangSpec.Proofs.MadeUpNames
