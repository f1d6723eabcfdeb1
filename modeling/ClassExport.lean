import ClassExport.FileTree
import ClassExport.Main
import ClassExport.Proofs.Chain
import ClassExport.Proofs.Documents
import ClassExport.Proofs.Aftermath
import ClassExport.Proofs.Scanning
import ClassExport.Proofs.Declarations
import ClassExport.Proofs.DryRun
import ClassExport.Proofs.Wrapping
import ClassExport.Proofs.Repetition
import ClassExport.Proofs.References
import ClassExport.Proofs.Substitution
import ClassExport.Proofs.Qualifying
import ClassExport.Proofs.Anchoring
import ClassExport.Proofs.Flattening
import ClassExport.Proofs.Readback
import ClassExport.Proofs.Reordering
import ClassExport.Proofs.Spellings
import ClassExport.Proofs.Atomicity
import ClassExport.Proofs.Beginnings
import ClassExport.Proofs.Separators
import ClassExport.Proofs.CrateNames
import ClassExport.Proofs.ItemPaths
import ClassExport.Proofs.Insertions
import ClassExport.Proofs.MissingVariables
import ClassExport.Proofs.Precedence
import ClassExport.Proofs.Log
import ClassExport.Proofs.FilePackages
import ClassExport.Proofs.Overrides
import ClassExport.Proofs.Blanks
import ClassExport.Proofs.Visibility
import ClassExport.Proofs.Keywords
import ClassExport.Proofs.ImportTable
import ClassExport.Proofs.SelfLeaves
import ClassExport.Proofs.RawNames
