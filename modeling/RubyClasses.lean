import RubyClasses.Main
import RubyClasses.Source.Script
import RubyClasses.Proofs.Hierarchy.Forest
import RubyClasses.Proofs.Hierarchy.Rounds
import RubyClasses.Proofs.Name.Order
import RubyClasses.Proofs.Classes.Bodies
import RubyClasses.Proofs.Classes.Declarations
import RubyClasses.Proofs.Rearrangement.Documents
import RubyClasses.Proofs.Rearrangement.Models
import RubyClasses.Proofs.Rearrangement.Sources
import RubyClasses.Proofs.Script.Balance
import RubyClasses.Proofs.Classes.Support
import RubyClasses.Proofs.Outline.Legibility
import RubyClasses.Proofs.Classes.Legibility
import RubyClasses.Proofs.Classes.Indentation
import RubyClasses.Proofs.Classes.Completeness
import RubyClasses.Proofs.Source.Substitution
import RubyClasses.Proofs.Script.Writing
import RubyClasses.Proofs.Classes.Calls
import RubyClasses.Proofs.Classes.Refusal
import RubyClasses.Proofs.Description.Acceptance
import RubyClasses.Proofs.CommandLine.Outcome
import RubyClasses.Proofs.Classes.Distinctness
import RubyClasses.Proofs.Name.CamelCase
import RubyClasses.Proofs.Name.Pattern
import RubyClasses.Proofs.Name.Separators
import RubyClasses.Proofs.Name.SnakeCase
import RubyClasses.Proofs.Name.Constants
import RubyClasses.Proofs.Storage.Repetition
import RubyClasses.Proofs.Description.Mistyped
import RubyClasses.Proofs.CommandLine.Reporting
import RubyClasses.Proofs.Classes.AssignmentOrder
import RubyClasses.Proofs.Classes.Methods
import RubyClasses.Proofs.Name.Identifiers
import RubyClasses.Proofs.Script.LineByLine
import RubyClasses.Proofs.Script.Levels
import RubyClasses.Proofs.Script.Alignment
import RubyClasses.Proofs.Classes.Atomicity
import RubyClasses.Proofs.Reference.Brackets
import RubyClasses.Proofs.Description.Spellings
import RubyClasses.Proofs.Classes.Enumerations
import RubyClasses.Proofs.Storage.Containment
import RubyClasses.Proofs.Classes.Nesting
import RubyClasses.Proofs.Script.Growth
import RubyClasses.Proofs.Script.Requires
