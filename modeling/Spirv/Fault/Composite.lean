import Spirv.Word

set_option autoImplicit false

/-!
# Faults of composite constants

How the constituents of a composite constant can fail to fit its result type.
-/
namespace Spirv

inductive TypePart where
  | componentType | columnType | elementType | length | rank | shape
  deriving DecidableEq, Repr

def TypePart.text : TypePart → String
  | .componentType => "Component type"
  | .columnType => "Column type"
  | .elementType => "Element type"
  | .length => "Length"
  | .rank => "Rank"
  | .shape => "Shape"

/-- What the result type counts its constituents by. -/
inductive Measure where
  | vectorComponents | matrixColumns | arrayLength | structMembers | outermostDimension
  deriving DecidableEq, Repr

def Measure.text : Measure → String
  | .vectorComponents => "vector component count"
  | .matrixColumns => "matrix column count"
  | .arrayLength => "array length"
  | .structMembers => "struct member count"
  | .outermostDimension => "outermost shape dimension"

/-- What the result type gives the type of a constituent by. -/
inductive ConstituentRole where
  | vectorElement | matrixColumn | arrayElement | structMember | matrixComponent | tensorElement
  deriving DecidableEq, Repr

def ConstituentRole.text : ConstituentRole → String
  | .vectorElement => "vector element type"
  | .matrixColumn => "matrix column type"
  | .arrayElement => "array element type"
  | .structMember => "member type"
  | .matrixComponent => "component type"
  | .tensorElement => "tensor element type"

inductive CompositeFault where
  | undefinedPart (part : TypePart) (id : Id)
  | notConstant (constituent : Id)
  | undefinedType (constituent : Id)
  | count (measure : Measure)
  | mismatch (role : ConstituentRole) (constituent : Id)
  | columnComponent (constituent : Id)
  | columnCount (constituent : Id)
  | notSingle (found : Nat)
  | notTensor (constituent : Id) (rank : Nat)
  | tensorRank (constituent : Id) (rank : Nat)
  | undefinedShape (constituent : Id) (index : Nat) (shape : Id)
  | shapeDimension (constituent : Id) (dimension actual expected : Nat)
  deriving DecidableEq, Repr

namespace CompositeFault

def ids (type : Id) : CompositeFault → List Id
  | .undefinedPart _ id => [id]
  | .notConstant c | .undefinedType c => [c]
  | .count _ | .notSingle _ => [type]
  | .undefinedShape c _ shape => [c, shape]
  | .mismatch _ c | .columnComponent c | .columnCount c | .notTensor c _ | .tensorRank c _
  | .shapeDimension c _ _ _ => [c, type]

def message (name : Id → String) (type : Id) : CompositeFault → String
  | .undefinedPart part id =>
    part.text ++ " " ++ name id ++ " of Result Type " ++ name type ++ " is not defined."
  | .notConstant c => "Constituent " ++ name c ++ " is not a constant or undef."
  | .undefinedType c => "Constituent " ++ name c ++ "'s type is not defined."
  | .count measure =>
    "Constituent count does not match Result Type " ++ name type ++ "'s " ++ measure.text ++ "."
  | .mismatch role c =>
    "Constituent " ++ name c ++ "'s type does not match Result Type " ++ name type ++ "'s " ++
      role.text ++ "."
  | .columnComponent c =>
    "Constituent " ++ name c ++ " component type does not match Result Type " ++ name type ++
      "'s matrix column component type."
  | .columnCount c =>
    "Constituent " ++ name c ++ " vector component count does not match Result Type " ++
      name type ++ "'s vector component count."
  | .notSingle found =>
    "Expected a single constituent for cooperative matrix Result Type " ++ name type ++
      ", found " ++ toString found ++ "."
  | .notTensor c rank =>
    "Constituent " ++ name c ++ " must be a tensor, as Result Type " ++ name type ++
      " has rank " ++ toString rank ++ "."
  | .tensorRank c rank =>
    "Constituent " ++ name c ++ "'s rank must be one less than the rank " ++ toString rank ++
      " of Result Type " ++ name type ++ "."
  | .undefinedShape _ index shape =>
    "Shape " ++ name shape ++ " of Constituent " ++ toString index ++ " is not defined."
  | .shapeDimension c dimension actual expected =>
    "Constituent " ++ name c ++ "'s shape dimension " ++ toString dimension ++ " is " ++
      toString actual ++ ", but Result Type " ++ name type ++ " requires " ++
      toString expected ++ "."

end CompositeFault
end Spirv
