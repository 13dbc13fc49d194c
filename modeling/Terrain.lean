import Terrain.Main
import Terrain.Deferred
import Terrain.Proofs.Attempt
import Terrain.Proofs.Formula.Growth
import Terrain.Proofs.Formula.Depth
import Terrain.Proofs.Formula.Building
import Terrain.Proofs.Formula.Splitting
import Terrain.Proofs.Profile.Compiling
import Terrain.Proofs.Profile.Interpreter
import Terrain.Proofs.Profile.Deepening
import Terrain.Proofs.Formula.Reading
import Terrain.Proofs.Number.Literal
import Terrain.Proofs.Formula.Grammar
import Terrain.Proofs.Json.Walking
import Terrain.Proofs.Profile.Aborting
import Terrain.Proofs.Registry.Loading
import Terrain.Proofs.Deferred.Moving
import Terrain.Proofs.Deferred.Once
import Terrain.Proofs.Formula.Scanning
import Terrain.Proofs.Formula.Leaves
import Terrain.Proofs.VoxelTypes.Registering
import Terrain.Proofs.Patch.Ids
import Terrain.Proofs.Named
import Terrain.Proofs.Registry.Files
import Terrain.Proofs.Profile.Binding
import Terrain.Proofs.Formula.Kinds
import Terrain.Proofs.Profile.Order
import Terrain.Proofs.Profile.Kinds
import Terrain.Proofs.Formula.Sharing
import Terrain.Proofs.Profile.Sharing
import Terrain.Proofs.Formula.Refusing
import Terrain.Proofs.Profile.Locating
import Terrain.Proofs.Registry.Locating
import Terrain.Proofs.Registry.Strictness
import Terrain.Proofs.Formula.Renaming
import Terrain.Proofs.Formula.Repeating
import Terrain.Proofs.Profile.Enlarging
import Terrain.Proofs.Formula.Noise
import Terrain.Proofs.Profile.Noise
import Terrain.Proofs.CommandLine.Acting
import Terrain.Proofs.CommandLine.Reading
import Terrain.Proofs.CommandLine.Running
import Terrain.Proofs.CommandLine.Agreeing
import Terrain.Proofs.Formula.Parts
import Terrain.Proofs.Formula.Nesting
import Terrain.Proofs.Formula.Blaming
import Terrain.Proofs.Profile.Nesting
import Terrain.Proofs.Formula.Discerning
import Terrain.Proofs.Patch.Placing
import Terrain.Proofs.Patch.Naming
import Terrain.Proofs.VoxelTypes.History
import Terrain.Proofs.Formula.Literals
import Terrain.Proofs.Formula.Referring
import Terrain.Proofs.Formula.Listing
import Terrain.Proofs.Profile.Counting
import Terrain.Proofs.Formula.Ending
