set_option autoImplicit false

/-!
# Addressing and memory models

What `OpMemoryModel` declares. A module that declares no addressing model is a logical one.
-/
namespace Spirv

inductive AddressingModel where
  | logical | physical32 | physical64 | physicalStorageBuffer64
  deriving DecidableEq, Repr

namespace AddressingModel

def entry : AddressingModel → Nat × String
  | .logical => (0, "Logical")
  | .physical32 => (1, "Physical32")
  | .physical64 => (2, "Physical64")
  | .physicalStorageBuffer64 => (5348, "PhysicalStorageBuffer64")

def value (a : AddressingModel) : Nat := a.entry.1

def text (a : AddressingModel) : String := a.entry.2

def values : List AddressingModel := [
  .logical, .physical32, .physical64, .physicalStorageBuffer64]

def ofValue? (n : Nat) : Option AddressingModel := values.find? (·.value == n)

end AddressingModel

inductive MemoryModel where
  | simple | glsl450 | openCL | vulkan
  deriving DecidableEq, Repr

namespace MemoryModel

def entry : MemoryModel → Nat × String
  | .simple => (0, "Simple")
  | .glsl450 => (1, "GLSL450")
  | .openCL => (2, "OpenCL")
  | .vulkan => (3, "Vulkan")

def value (m : MemoryModel) : Nat := m.entry.1

def text (m : MemoryModel) : String := m.entry.2

def values : List MemoryModel := [.simple, .glsl450, .openCL, .vulkan]

def ofValue? (n : Nat) : Option MemoryModel := values.find? (·.value == n)

end MemoryModel
end Spirv
