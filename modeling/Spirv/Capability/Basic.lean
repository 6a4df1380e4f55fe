set_option autoImplicit false

/-!
# Capabilities

The capabilities a module may declare, and the ones that each of them brings along.
-/
namespace Spirv

inductive Capability where
  | matrix | shader | geometry | tessellation | addresses | linkage | kernel | vector16
  | float16Buffer | float16 | float64 | int64 | int64Atomics | imageBasic | imageReadWrite
  | imageMipmap | pipes | groups | deviceEnqueue | literalSampler | atomicStorage | int16
  | tessellationPointSize | geometryPointSize | imageGatherExtended | storageImageMultisample
  | genericPointer | int8 | tensorsARM | storageBuffer16BitAccess
  | uniformAndStorageBuffer16BitAccess | storagePushConstant16 | storageInputOutput16
  | variablePointersStorageBuffer | variablePointers | storageBuffer8BitAccess
  | untypedPointersKHR | physicalStorageBufferAddresses | cooperativeMatrixNV
  | cooperativeVectorNV | cooperativeMatrixReductionsNV | cooperativeMatrixPerElementOperationsNV
  | cooperativeMatrixTensorAddressingNV | functionPointersINTEL | indirectReferencesINTEL
  | cooperativeMatrixKHR
  deriving DecidableEq, Repr

namespace Capability

def entry : Capability → Nat × String
  | .matrix => (0, "Matrix")
  | .shader => (1, "Shader")
  | .geometry => (2, "Geometry")
  | .tessellation => (3, "Tessellation")
  | .addresses => (4, "Addresses")
  | .linkage => (5, "Linkage")
  | .kernel => (6, "Kernel")
  | .vector16 => (7, "Vector16")
  | .float16Buffer => (8, "Float16Buffer")
  | .float16 => (9, "Float16")
  | .float64 => (10, "Float64")
  | .int64 => (11, "Int64")
  | .int64Atomics => (12, "Int64Atomics")
  | .imageBasic => (13, "ImageBasic")
  | .imageReadWrite => (14, "ImageReadWrite")
  | .imageMipmap => (15, "ImageMipmap")
  | .pipes => (17, "Pipes")
  | .groups => (18, "Groups")
  | .deviceEnqueue => (19, "DeviceEnqueue")
  | .literalSampler => (20, "LiteralSampler")
  | .atomicStorage => (21, "AtomicStorage")
  | .int16 => (22, "Int16")
  | .tessellationPointSize => (23, "TessellationPointSize")
  | .geometryPointSize => (24, "GeometryPointSize")
  | .imageGatherExtended => (25, "ImageGatherExtended")
  | .storageImageMultisample => (27, "StorageImageMultisample")
  | .genericPointer => (38, "GenericPointer")
  | .int8 => (39, "Int8")
  | .tensorsARM => (4174, "TensorsARM")
  | .storageBuffer16BitAccess => (4433, "StorageBuffer16BitAccess")
  | .uniformAndStorageBuffer16BitAccess => (4434, "UniformAndStorageBuffer16BitAccess")
  | .storagePushConstant16 => (4435, "StoragePushConstant16")
  | .storageInputOutput16 => (4436, "StorageInputOutput16")
  | .variablePointersStorageBuffer => (4441, "VariablePointersStorageBuffer")
  | .variablePointers => (4442, "VariablePointers")
  | .storageBuffer8BitAccess => (4448, "StorageBuffer8BitAccess")
  | .untypedPointersKHR => (4473, "UntypedPointersKHR")
  | .physicalStorageBufferAddresses => (5347, "PhysicalStorageBufferAddresses")
  | .cooperativeMatrixNV => (5357, "CooperativeMatrixNV")
  | .cooperativeVectorNV => (5394, "CooperativeVectorNV")
  | .cooperativeMatrixReductionsNV => (5430, "CooperativeMatrixReductionsNV")
  | .cooperativeMatrixPerElementOperationsNV => (5432, "CooperativeMatrixPerElementOperationsNV")
  | .cooperativeMatrixTensorAddressingNV => (5433, "CooperativeMatrixTensorAddressingNV")
  | .functionPointersINTEL => (5603, "FunctionPointersINTEL")
  | .indirectReferencesINTEL => (5604, "IndirectReferencesINTEL")
  | .cooperativeMatrixKHR => (6022, "CooperativeMatrixKHR")

def value (c : Capability) : Nat := c.entry.1

def text (c : Capability) : String := c.entry.2

def values : List Capability := [
  .matrix, .shader, .geometry, .tessellation, .addresses, .linkage, .kernel, .vector16,
  .float16Buffer, .float16, .float64, .int64, .int64Atomics, .imageBasic, .imageReadWrite,
  .imageMipmap, .pipes, .groups, .deviceEnqueue, .literalSampler, .atomicStorage, .int16,
  .tessellationPointSize, .geometryPointSize, .imageGatherExtended, .storageImageMultisample,
  .genericPointer, .int8, .tensorsARM, .storageBuffer16BitAccess,
  .uniformAndStorageBuffer16BitAccess, .storagePushConstant16, .storageInputOutput16,
  .variablePointersStorageBuffer, .variablePointers, .storageBuffer8BitAccess,
  .untypedPointersKHR, .physicalStorageBufferAddresses, .cooperativeMatrixNV,
  .cooperativeVectorNV, .cooperativeMatrixReductionsNV, .cooperativeMatrixPerElementOperationsNV,
  .cooperativeMatrixTensorAddressingNV, .functionPointersINTEL, .indirectReferencesINTEL,
  .cooperativeMatrixKHR]

def ofValue? (n : Nat) : Option Capability := values.find? (·.value == n)

theorem ofValue?_value (c : Capability) : ofValue? c.value = some c := by
  cases c <;> rfl

theorem mem_values (c : Capability) : c ∈ values :=
  List.mem_of_find?_eq_some (ofValue?_value c)

def implied : Capability → List Capability
  | .shader => [.matrix]
  | .geometry | .tessellation | .atomicStorage | .imageGatherExtended
  | .storageImageMultisample | .variablePointersStorageBuffer
  | .physicalStorageBufferAddresses | .cooperativeMatrixNV => [.shader]
  | .tessellationPointSize => [.tessellation]
  | .geometryPointSize => [.geometry]
  | .vector16 | .float16Buffer | .imageBasic | .pipes | .deviceEnqueue
  | .literalSampler => [.kernel]
  | .int64Atomics => [.int64]
  | .imageReadWrite | .imageMipmap => [.imageBasic]
  | .genericPointer => [.addresses]
  | .variablePointers => [.variablePointersStorageBuffer]
  | _ => []

end Capability
end Spirv
