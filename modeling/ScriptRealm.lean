import ScriptRealm.Action
import ScriptRealm.Config.Basic
import ScriptRealm.Config.Reading
import ScriptRealm.Embedder.Hooks
import ScriptRealm.Embedder.Platform
import ScriptRealm.Embedder.Request
import ScriptRealm.Embedder.Script
import ScriptRealm.Fault
import ScriptRealm.Generator
import ScriptRealm.Grouping
import ScriptRealm.Iteration
import ScriptRealm.Number.Basic
import ScriptRealm.Number.Literal
import ScriptRealm.Number.Rounding
import ScriptRealm.Number.Shortest
import ScriptRealm.Number.Text
import ScriptRealm.Object.ArrayLike
import ScriptRealm.Object.Construction
import ScriptRealm.Object.Definition
import ScriptRealm.Object.DescriptorForm
import ScriptRealm.Object.Inspection
import ScriptRealm.Object.Kind
import ScriptRealm.Object.Lookup
import ScriptRealm.Object.Record
import ScriptRealm.Object.Write
import ScriptRealm.Opcode.Basic
import ScriptRealm.Opcode.Table
import ScriptRealm.OrderedMap
import ScriptRealm.Property.Descriptor
import ScriptRealm.Property.Key
import ScriptRealm.Property.Reconciliation
import ScriptRealm.Realm.Basic
import ScriptRealm.Realm.Intrinsics
import ScriptRealm.Text.Blank
import ScriptRealm.Text.Quoted
import ScriptRealm.Text.Unprintable
import ScriptRealm.Toml.Document
import ScriptRealm.Toml.Reader
import ScriptRealm.Toml.Scalar
import ScriptRealm.Value.Basic
import ScriptRealm.Value.Conversion
import ScriptRealm.Proofs.Agreement
import ScriptRealm.Proofs.Assignment
import ScriptRealm.Proofs.Bond.Basic
import ScriptRealm.Proofs.Bond.Generators
import ScriptRealm.Proofs.Bond.Iteration
import ScriptRealm.Proofs.Bond.Objects
import ScriptRealm.Proofs.Bond.Requests
import ScriptRealm.Proofs.Change
import ScriptRealm.Proofs.DescriptorForm
import ScriptRealm.Proofs.Embedding
import ScriptRealm.Proofs.Entering
import ScriptRealm.Proofs.Fatality
import ScriptRealm.Proofs.Generator.Completion
import ScriptRealm.Proofs.Generator.Delegation
import ScriptRealm.Proofs.Generator.Driver
import ScriptRealm.Proofs.Generator.Finishing
import ScriptRealm.Proofs.Generator.Frames
import ScriptRealm.Proofs.Generator.Independence
import ScriptRealm.Proofs.Generator.Moments
import ScriptRealm.Proofs.Generator.Passing
import ScriptRealm.Proofs.Generator.Resumption
import ScriptRealm.Proofs.Generator.Tower
import ScriptRealm.Proofs.Generator.Turns
import ScriptRealm.Proofs.Grouping.Bound
import ScriptRealm.Proofs.Grouping.Closing
import ScriptRealm.Proofs.Grouping.Course
import ScriptRealm.Proofs.Grouping.Object
import ScriptRealm.Proofs.Grouping.Partition
import ScriptRealm.Proofs.Grouping.Rounds
import ScriptRealm.Proofs.Grouping.Showing
import ScriptRealm.Proofs.Handles.Closure
import ScriptRealm.Proofs.Handles.Confinement
import ScriptRealm.Proofs.Handles.Embedding
import ScriptRealm.Proofs.Handles.Reference
import ScriptRealm.Proofs.Handles.Validity
import ScriptRealm.Proofs.Handles.Walk
import ScriptRealm.Proofs.Heeding
import ScriptRealm.Proofs.HostIntegrity
import ScriptRealm.Proofs.Integrity
import ScriptRealm.Proofs.Iteration.Arrays
import ScriptRealm.Proofs.Iteration.Generators
import ScriptRealm.Proofs.Iteration.ReadingBack
import ScriptRealm.Proofs.Iteration.Visits
import ScriptRealm.Proofs.KeyCoercion
import ScriptRealm.Proofs.KeyHistory
import ScriptRealm.Proofs.KeyNames
import ScriptRealm.Proofs.KeyOrder
import ScriptRealm.Proofs.Likeness.Basic
import ScriptRealm.Proofs.Likeness.Embedding
import ScriptRealm.Proofs.Likeness.Operations
import ScriptRealm.Proofs.Likeness.Translation
import ScriptRealm.Proofs.Locks
import ScriptRealm.Proofs.Lookup
import ScriptRealm.Proofs.Number.Grammar
import ScriptRealm.Proofs.Number.Whole
import ScriptRealm.Proofs.Number.WholeText
import ScriptRealm.Proofs.Operations
import ScriptRealm.Proofs.Reconciliation
import ScriptRealm.Proofs.Redefinition
import ScriptRealm.Proofs.Refusal
import ScriptRealm.Proofs.Strictness
import ScriptRealm.Proofs.Table
import ScriptRealm.Proofs.Tracing
import ScriptRealm.Proofs.Writing
