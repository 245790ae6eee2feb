import SemanticLayer.Compiler
import SemanticLayer.Data.Json
import SemanticLayer.Model.Assignment
import SemanticLayer.Proofs.Assignment
import SemanticLayer.Proofs.Backends
import SemanticLayer.Proofs.Capture
import SemanticLayer.Proofs.Cleaning
import SemanticLayer.Proofs.Compilation
import SemanticLayer.Proofs.Extension
import SemanticLayer.Proofs.Generators
import SemanticLayer.Proofs.Interference
import SemanticLayer.Proofs.Names
import SemanticLayer.Proofs.References
import SemanticLayer.Proofs.Refusal
import SemanticLayer.Proofs.Registry
import SemanticLayer.Proofs.Scope
import SemanticLayer.Proofs.Truncation
import SemanticLayer.Proofs.View
import SemanticLayer.Storage.Loading
import SemanticLayer.Proofs.Requoting
import SemanticLayer.Proofs.NameOrigin.Function
import SemanticLayer.Proofs.NameOrigin.Query
import SemanticLayer.Proofs.NameOrigin.Tree
import SemanticLayer.Proofs.Quoting
import SemanticLayer.Proofs.FullScan
import SemanticLayer.Proofs.Violations
import SemanticLayer.Proofs.Documents
import SemanticLayer.Proofs.ReadBack
import SemanticLayer.Proofs.Validation
import SemanticLayer.Proofs.Lookups
import SemanticLayer.Proofs.Terminators
import SemanticLayer.Proofs.QueryBody
import SemanticLayer.Proofs.NumericTrunc
import SemanticLayer.Proofs.OuterWords
import SemanticLayer.Proofs.Trimming
import SemanticLayer.Proofs.Decimals
import SemanticLayer.Proofs.Normalization
import SemanticLayer.Proofs.Sources
import SemanticLayer.Proofs.ConditionText
import SemanticLayer.Proofs.Between
import SemanticLayer.Proofs.Rounding
import SemanticLayer.Proofs.Money
import SemanticLayer.Proofs.QuotedNames
import SemanticLayer.Proofs.SqlFiles
