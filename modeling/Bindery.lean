import Bindery.Main
import Bindery.Proofs.Host.Naming
import Bindery.Proofs.Manifest.Rules
import Bindery.Proofs.Output.Location
import Bindery.Proofs.Manifest.Validation
import Bindery.Proofs.Binding.Assembly
import Bindery.Proofs.Manifest.BinderPaths
import Bindery.Proofs.Binding.Step
import Bindery.Proofs.Binding.Run
import Bindery.Proofs.Category.Acceptance
import Bindery.Proofs.Category.Coverage
import Bindery.Proofs.Binding.Emission
import Bindery.Proofs.Binding.Misfit
import Bindery.Proofs.Binding.Reordering
import Bindery.Proofs.Source.Lines
import Bindery.Proofs.Class.Legibility
import Bindery.Proofs.Text.Search
import Bindery.Proofs.Document.Cursor
import Bindery.Proofs.Document.Numeral
import Bindery.Proofs.Document.Values
import Bindery.Proofs.Document.Written
import Bindery.Proofs.Document.Building
import Bindery.Proofs.Manifest.Written
import Bindery.Proofs.Document.Search
import Bindery.Proofs.Manifest.Labels
import Bindery.Proofs.Binding.Insertion
import Bindery.Proofs.Binding.Admission
import Bindery.Proofs.Binding.Suppression
import Bindery.Proofs.Manifest.Independence
import Bindery.Proofs.Manifest.BinderNames
import Bindery.Proofs.Output.Places
import Bindery.Proofs.Manifest.BinderPlaces
import Bindery.Proofs.Output.Heading
import Bindery.Proofs.Target.Literal
import Bindery.Proofs.Output.FileSystem
import Bindery.Proofs.Manifest.Generation
import Bindery.Proofs.Command.Agreement
import Bindery.Proofs.Category.Casts
import Bindery.Proofs.Manifest.BinderCasts
import Bindery.Proofs.Text.Occurrence
import Bindery.Proofs.Manifest.Faults
import Bindery.Proofs.Manifest.Progress
import Bindery.Proofs.Manifest.Spans
import Bindery.Proofs.Binding.Refusal
import Bindery.Proofs.Binding.Handover
import Bindery.Proofs.Source.Nesting
import Bindery.Proofs.Class.Strings
import Bindery.Proofs.Class.Composition
import Bindery.Proofs.Binding.Recording
import Bindery.Proofs.Manifest.NameForms
import Bindery.Proofs.Binding.Accumulation
