import Spirv.Builder.Basic
import Spirv.Validate
import Spirv.Proofs.Module.Indexed
import Spirv.Proofs.Module.Layout
import Spirv.Proofs.Module.Accepted
import Spirv.Proofs.Function.Rules
import Spirv.Proofs.Function.Signature
import Spirv.Proofs.Function.Reference
import Spirv.Proofs.Composite.Table
import Spirv.Proofs.Composite.Leaves
import Spirv.Proofs.Module.Uses
import Spirv.Proofs.Engine.Walks
import Spirv.Proofs.Engine.Order
import Spirv.Proofs.Agreement.Rules
import Spirv.Proofs.Capability.Closure
import Spirv.Proofs.Module.Rearranged
import Spirv.Proofs.Agreement.Rearranged
import Spirv.Proofs.Type.Nullable
import Spirv.Proofs.Type.Match
import Spirv.Proofs.Type.Search
import Spirv.Proofs.Constant.Narrow
import Spirv.Proofs.Agreement.Mirrored
import Spirv.Proofs.Module.Inserted
import Spirv.Proofs.Module.Definitions
import Spirv.Proofs.Module.Marks
import Spirv.Proofs.Builder.Ids
import Spirv.Proofs.Checked.Run
import Spirv.Proofs.Agreement.Inserted
import Spirv.Proofs.Engine.Inert
import Spirv.Proofs.Engine.Names
import Spirv.Proofs.Permission.Rules
import Spirv.Proofs.Permission.Capability
import Spirv.Proofs.Function.Parameters
import Spirv.Proofs.Type.Depth
import Spirv.Proofs.Type.Relation
import Spirv.Proofs.Function.Users
import Spirv.Proofs.Permission.Pointers
import Spirv.Proofs.Composite.Length
import Spirv.Proofs.Composite.Tensor
import Spirv.Proofs.Constant.Value
import Spirv.Proofs.Module.Switch
import Spirv.Proofs.Composite.Unresolved
import Spirv.Proofs.Module.Decorations
import Spirv.Proofs.Capability.Expansion
import Spirv.Proofs.Function.PerElement
import Spirv.Proofs.Engine.Sites
import Spirv.Proofs.Agreement.Annotation
import Spirv.Proofs.Text.Utf8
import Spirv.Proofs.Text.Literal
import Spirv.Proofs.Opcode.Operand
import Spirv.Proofs.Builder.EntryPoint
