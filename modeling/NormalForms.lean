import NormalForms.CommandLine.Tree
import NormalForms.Main
import NormalForms.Proofs.Assessment.Gate
import NormalForms.Proofs.Assessment.Growth
import NormalForms.Proofs.Assessment.Tablewise
import NormalForms.Proofs.Improvement.Executable
import NormalForms.Proofs.Schema.Session
import NormalForms.Proofs.Script.Regions
import NormalForms.Proofs.Draft.Account
import NormalForms.Proofs.Draft.Order
import NormalForms.Proofs.Draft.Alteration
import NormalForms.Proofs.Draft.Skipping
import NormalForms.Proofs.Assessment.Movable
import NormalForms.Proofs.Assessment.Arrangement
import NormalForms.Proofs.Check.Case
import NormalForms.Proofs.Assessment.Case
import NormalForms.Proofs.Script.Combining
import NormalForms.Proofs.CommandLine.Files
import NormalForms.Proofs.Draft.Notices
import NormalForms.Proofs.Check.Dropping
import NormalForms.Proofs.Improvement.Lines
import NormalForms.Proofs.CommandLine.Ending
import NormalForms.Proofs.Draft.KeyColumn
import NormalForms.Proofs.Draft.Repetition
import NormalForms.Proofs.Check.IdentifierPair
import NormalForms.Proofs.Assessment.Repetition
import NormalForms.Proofs.Draft.Check
import NormalForms.Proofs.Schema.Partition
import NormalForms.Proofs.Schema.Resolving
import NormalForms.Proofs.Draft.Conservation
import NormalForms.Proofs.Report.Reading
import NormalForms.Proofs.Identifier.Dotted
import NormalForms.Proofs.Report.Shape
import NormalForms.Proofs.Check.Creating
