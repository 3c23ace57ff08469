import Scaffold.Main
import Scaffold.Proofs.FileLists
import Scaffold.Proofs.Resolution
import Scaffold.Proofs.Policy
import Scaffold.Proofs.Scan
import Scaffold.Proofs.Roles
import Scaffold.Proofs.Blocks
import Scaffold.Proofs.Nesting
import Scaffold.Proofs.BlockSemantics
import Scaffold.Proofs.Calls
import Scaffold.Proofs.Passes
import Scaffold.Proofs.Failures
import Scaffold.Proofs.FileUnion
import Scaffold.Proofs.Evaluation
import Scaffold.Proofs.Simulation
import Scaffold.Proofs.Tries
import Scaffold.Proofs.Generated
import Scaffold.Proofs.Independence
import Scaffold.Proofs.Lockstep
import Scaffold.Proofs.Journal
import Scaffold.Proofs.Writing
import Scaffold.Proofs.Histories
import Scaffold.Proofs.Extension
import Scaffold.Proofs.Copies
import Scaffold.Proofs.Bytes
import Scaffold.Proofs.Trees
import Scaffold.Proofs.Preresolution
import Scaffold.Proofs.Loading
import Scaffold.Proofs.Conditions
import Scaffold.Proofs.Insertion
import Scaffold.Proofs.Markup
import Scaffold.Proofs.Renaming
import Scaffold.Proofs.Interruptions
import Scaffold.Proofs.Composition
import Scaffold.Proofs.Walks
import Scaffold.Proofs.Changes
import Scaffold.Proofs.Footprint
import Scaffold.Proofs.Serving
import Scaffold.Proofs.Containment
import Scaffold.Proofs.Bookkeeping
import Scaffold.Proofs.Sources
import Scaffold.Proofs.Mirror
import Scaffold.Proofs.Backups
import Scaffold.Proofs.Atomicity
import Scaffold.Proofs.Assembly
import Scaffold.Proofs.Clashes
import Scaffold.Proofs.Consultations
import Scaffold.Proofs.Snapshots
import Scaffold.Proofs.Depth
import Scaffold.Proofs.Leniency
import Scaffold.Proofs.Pattern
import Scaffold.Proofs.Targets
import Scaffold.Proofs.Modes
import Scaffold.Proofs.FlagTables
import Scaffold.Proofs.DeclaredFlags
import Scaffold.Proofs.Numerals
import Scaffold.Proofs.Spellings
import Scaffold.Proofs.Documents
import Scaffold.Proofs.Manifests
import Scaffold.Proofs.FieldQueries
import Scaffold.Proofs.Addresses
import Scaffold.Proofs.Merging
import Scaffold.Proofs.Groups
import Scaffold.Proofs.Misspellings
