import Bindery.BuildHook
import Bindery.Compiler.Rehearsal
import Bindery.Log.Layout
import Bindery.Log.Registry
import Bindery.Log.Timing
import Bindery.Main
import Bindery.Wire.Catalogue
import Bindery.Wire.Construction
import Bindery.Wire.View
import Bindery.Datum.Printer
import Bindery.Datum.Reader
import Bindery.Proofs.Generation.AllOrNothing
import Bindery.Proofs.Generation.Regeneration
import Bindery.Proofs.Generation.Inputs
import Bindery.Proofs.Generation.Escapes
import Bindery.Proofs.Generation.Leftovers
import Bindery.Proofs.CommandLine.Flags
import Bindery.Proofs.Package.Dependencies
import Bindery.Proofs.Package.Closure
import Bindery.Proofs.Generation.Surroundings
import Bindery.Proofs.Invocation.Checks
import Bindery.Proofs.BuildHook.Shipped
import Bindery.Proofs.CommandLine.Which
import Bindery.Proofs.Wire.RoundTrip
import Bindery.Proofs.Package.Relative
import Bindery.Proofs.CommandLine.Diagnostics
import Bindery.Proofs.Package.Naming
import Bindery.Proofs.Package.Views
import Bindery.Proofs.Generation.Bindings
import Bindery.Proofs.Invocation.Established
import Bindery.Proofs.Compiler.Arguments
import Bindery.Proofs.Package.Settled
import Bindery.Proofs.Generation.Attribution
import Bindery.Proofs.Generation.HelperNames
import Bindery.Proofs.Package.Listing
import Bindery.Proofs.Log.Calls
import Bindery.Proofs.Wire.Payload
import Bindery.Proofs.Wire.Concatenation
import Bindery.Proofs.Package.Inside
