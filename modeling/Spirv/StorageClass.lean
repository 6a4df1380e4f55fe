set_option autoImplicit false

/-!
# Storage classes

Where the memory behind a pointer type or a variable lives.
-/
namespace Spirv

inductive StorageClass where
  | uniformConstant | input | uniform | output | workgroup | crossWorkgroup | privateMemory
  | function | generic | pushConstant | atomicCounter | image | storageBuffer | tileImageEXT
  | callableDataKHR | incomingCallableDataKHR | rayPayloadKHR | hitAttributeKHR
  | incomingRayPayloadKHR | shaderRecordBufferKHR | physicalStorageBuffer
  | taskPayloadWorkgroupEXT | codeSectionINTEL
  deriving DecidableEq, Repr

namespace StorageClass

def entry : StorageClass → Nat × String
  | .uniformConstant => (0, "UniformConstant")
  | .input => (1, "Input")
  | .uniform => (2, "Uniform")
  | .output => (3, "Output")
  | .workgroup => (4, "Workgroup")
  | .crossWorkgroup => (5, "CrossWorkgroup")
  | .privateMemory => (6, "Private")
  | .function => (7, "Function")
  | .generic => (8, "Generic")
  | .pushConstant => (9, "PushConstant")
  | .atomicCounter => (10, "AtomicCounter")
  | .image => (11, "Image")
  | .storageBuffer => (12, "StorageBuffer")
  | .tileImageEXT => (4172, "TileImageEXT")
  | .callableDataKHR => (5328, "CallableDataKHR")
  | .incomingCallableDataKHR => (5329, "IncomingCallableDataKHR")
  | .rayPayloadKHR => (5338, "RayPayloadKHR")
  | .hitAttributeKHR => (5339, "HitAttributeKHR")
  | .incomingRayPayloadKHR => (5342, "IncomingRayPayloadKHR")
  | .shaderRecordBufferKHR => (5343, "ShaderRecordBufferKHR")
  | .physicalStorageBuffer => (5349, "PhysicalStorageBuffer")
  | .taskPayloadWorkgroupEXT => (5402, "TaskPayloadWorkgroupEXT")
  | .codeSectionINTEL => (5605, "CodeSectionINTEL")

def value (s : StorageClass) : Nat := s.entry.1

def text (s : StorageClass) : String := s.entry.2

def values : List StorageClass := [
  .uniformConstant, .input, .uniform, .output, .workgroup, .crossWorkgroup, .privateMemory,
  .function, .generic, .pushConstant, .atomicCounter, .image, .storageBuffer, .tileImageEXT,
  .callableDataKHR, .incomingCallableDataKHR, .rayPayloadKHR, .hitAttributeKHR,
  .incomingRayPayloadKHR, .shaderRecordBufferKHR, .physicalStorageBuffer,
  .taskPayloadWorkgroupEXT, .codeSectionINTEL]

def ofValue? (n : Nat) : Option StorageClass := values.find? (·.value == n)

end StorageClass
end Spirv
