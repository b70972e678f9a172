import Scribe.Text.Quoted
import Scribe.Fragment
import Scribe.Configuration.Store
import Scribe.Files.Path
import Scribe.Files.Attributes
import Scribe.Files.Tree
import Scribe.Files.Writer
import Scribe.Proofs.Substitution.OnePass
import Scribe.Proofs.Files.Contract
import Scribe.Proofs.Files.Place
import Scribe.Proofs.Files.Effect
import Scribe.Proofs.Files.Replacement
import Scribe.Proofs.Files.Directories
import Scribe.Proofs.Files.Write
import Scribe.Proofs.Files.Destination
import Scribe.Proofs.Substitution.Lines
import Scribe.Proofs.Substitution.Nesting
import Scribe.Proofs.Files.Faultless
import Scribe.Proofs.Files.Parents
import Scribe.Proofs.Files.Provision
import Scribe.Proofs.Files.Outcome
import Scribe.Proofs.Toml.Integer
import Scribe.Proofs.Toml.Quotation
import Scribe.Proofs.Toml.Document
import Scribe.Proofs.Configuration.Kept
import Scribe.Proofs.Files.Locks
import Scribe.Proofs.Configuration.Usable
import Scribe.Proofs.Settings.Variables
import Scribe.Proofs.Configuration.Override
import Scribe.Proofs.Substitution.Absence
import Scribe.Proofs.Files.Order
import Scribe.Proofs.Substitution.Rounds
import Scribe.Proofs.Substitution.Tokens
import Scribe.Proofs.Substitution.Surroundings
import Scribe.Proofs.Substitution.FinalNewline
import Scribe.Proofs.Substitution.Plain
import Scribe.Proofs.Files.Regeneration
import Scribe.Proofs.Composition.Flattening
import Scribe.Proofs.Files.Rehearsal
import Scribe.Proofs.Files.Failure
import Scribe.Proofs.Files.Trace
import Scribe.Proofs.Composition.Trimming
import Scribe.Proofs.Composition.Absorption
import Scribe.Proofs.Composition.BlankEntries
import Scribe.Proofs.Composition.ListItems
import Scribe.Proofs.Configuration.LevelNames
import Scribe.Proofs.Substitution.Indentation
import Scribe.Proofs.Files.Permissions
