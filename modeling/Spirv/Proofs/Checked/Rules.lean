import Spirv.Proofs.Checked.Walk
import Spirv.Proofs.Composite.Table
import Spirv.Rule.Constant
import Spirv.Rule.PerElement

set_option autoImplicit false

/-!
# Checked rules

The rules that walk over types, that add to the rank of a tensor, and that take parameters by their
index. The other rules have nothing in them that could go wrong.
-/
namespace Spirv

theorem Module.uint64Value?_lt {m : Module} {id : Id} {v : Nat} (h : m.uint64Value? id = some v) :
    v < UInt64.size := by
  rw [uint64Value?] at h
  split at h
  · contradiction
  · rename_i i hdef
    split at h
    · contradiction
    · split at h
      · obtain rfl := Option.some.inj h
        decide
      · obtain ⟨low, -, rfl⟩ := Option.map_eq_some_iff.mp h
        have hlow := low.toNat_lt
        have hhigh := (i.operandOrZero 3).toNat_lt
        change low.toNat + (i.operandOrZero 3).toNat * 4294967296 < 18446744073709551616
        omega
      · contradiction

/-- No tensor type has the greatest rank that there is. -/
def Module.RanksBelow (m : Module) : Prop :=
  ∀ t ∈ m.instructions, t.opcode = .typeTensorARM →
    (t.operand 2).bind m.uint64Value? ≠ some (UInt64.size - 1)

namespace Checked

variable (m : Module)

/-! ### Constants -/

def rankBelow (below? : Option Nat) (rank : Nat) : Checked Bool :=
  match below? with
  | none => .ok true
  | some below => do
    let next ← add below 1
    return next == rank

def checkSubtensor (element : Id) (rank : Nat) (shape : Instruction) (id : Id) (index : Nat)
    (tensor : Instruction) : Checked (Except CompositeFault Unit) :=
  after (require (tensor.opcode == .typeTensorARM) (.notTensor id rank)) fun _ =>
    after (require (tensor.operand 1 == some element) (.mismatch .tensorElement id)) fun _ => do
      let fits ← rankBelow ((tensor.operand 2).bind m.uint64Value?) rank
      return do
        require fits (.tensorRank id rank)
        m.checkShape shape id index tensor

def checkTensorConstituent (element : Id) (rank : Nat) (shape : Instruction) (id : Id)
    (index : Nat) : Checked (Except CompositeFault Unit) :=
  after (m.constituentType id) fun p =>
    match rank with
    | 0 => .ok (.ok ())
    | 1 => .ok (require (p.1 == element) (.mismatch .tensorElement id))
    | _ => checkSubtensor m element rank shape id index p.2

def checkTensor (type : Instruction) (constituents : List Id) :
    Checked (Except CompositeFault Unit) :=
  after (m.typePart type 1 .elementType) fun element =>
    after (m.typePart type 2 .rank) fun rank =>
      after (m.typePart type 3 .shape) fun shape =>
        after (require (((shape.2.operand 2).bind m.uint64Value?).all (· == constituents.length))
          (.count .outermostDimension)) fun _ =>
          requireEach (fun p => checkTensorConstituent m element.1
            ((m.uint64Value? rank.1).getD 0) shape.2 p.1 p.2) constituents.zipIdx

def checkConstituents (type : Instruction) (constituents : List Id) :
    Checked (Except CompositeFault Unit) :=
  match type.opcode with
  | .typeTensorARM => checkTensor m type constituents
  | _ => .ok (m.checkConstituents type constituents)

def checkComposite (i : Instruction) : Checked (Except ConstantFault Unit) :=
  match (m.definition? i.typeIdOrZero).filter fun type =>
      type.opcode.isCompositeType || type.isShapedTensor with
  | none => .ok (.error .notCompositeType)
  | some type => (checkConstituents m type (i.operandsFrom 2)).map (·.mapError .composite)

variable (config : Config) (frames : Nat)

def checkNull (i : Instruction) : Checked (Except ConstantFault Unit) := do
  let nullable ← isNullableId m config.maxTypeDepth frames i.typeIdOrZero
  return require nullable .notNullable

def checkNarrowNumeric (i : Instruction) : Checked (Except ConstantFault Unit) :=
  match i.typeId with
  | none => .ok (.ok ())
  | some t =>
    if m.hasCapability .shader && !m.isPointerType t then do
      let limited ← containsLimitedNumeric m config.maxTypeDepth frames t
      return require (!limited) .narrowNumeric
    else .ok (.ok ())

def checkConstantKind (i : Instruction) : Checked (Except ConstantFault Unit) :=
  match i.opcode with
  | .constantComposite | .specConstantComposite => checkComposite m i
  | .constantNull => checkNull m config frames i
  | _ => .ok (m.checkConstantKind config i)

def checkConstant (i : Instruction) : Checked (Except ConstantFault Unit) := do
  let kind ← checkConstantKind m config frames i
  after kind fun _ =>
    if i.opcode.isConstant then checkNarrowNumeric m config frames i else .ok (.ok ())

/-! ### Functions -/

def takesElement (component : Id) (parameters : List Id) : Checked Bool :=
  if 3 ≤ parameters.length then do
    let place ← sliceTo parameters 2
    if place.all m.isInt32Type then do
      let element ← index parameters 2
      return element == component
    else return false
  else .ok false

def checkElementFunction (id : Id) (function : Instruction) (component : Id) :
    Checked (Except FunctionFault Unit) :=
  match m.functionType? function with
  | none => .ok (.error (.missingType (some id)))
  | some type =>
    after (require (type.operand 1 == some component) (.elementReturn id)) fun _ => do
      let takes ← takesElement m component (type.operandsFrom 2)
      return require takes (.elementParameters id)

def checkPerElement (i : Instruction) : Checked (Except FunctionFault Unit) :=
  let id := i.operandOrZero 3
  match m.function? id with
  | none => .ok (.error (.notFunction id))
  | some function =>
    let matrixId := i.operandOrZero 2
    match m.definition? matrixId with
    | none => .ok (.error (.undefinedMatrix matrixId))
    | some matrix =>
      let matrixType := matrix.typeIdOrZero
      match (m.definition? matrixType).filter (·.opcode == .typeCooperativeMatrixKHR) with
      | none => .ok (.error (.notCooperativeMatrix matrixId))
      | some type =>
        after (require (matrixType == i.typeIdOrZero) (.matrixResult matrixId)) fun _ =>
          checkElementFunction m id function (type.operandOrZero 1)

def argumentFits (typeId : Id) (type : Instruction) (parameter : Id) : Checked Bool :=
  if typeId == parameter then .ok true
  else if config.beforeLegalization then
    whenSome (m.definition? parameter) (pointeesMatch m config.maxTypeDepth frames type)
  else .ok false

def checkArgument (callee id parameter : Id) : Checked (Except FunctionFault Unit) :=
  match m.definition? id with
  | none => .ok (.error (.undefinedArgument id))
  | some argument =>
    match m.typeDefinition? argument with
    | none => .ok (.error (.undefinedArgumentType id))
    | some type => do
      let fits ← argumentFits m config frames argument.typeIdOrZero type parameter
      return do
        require fits (.argumentType id callee)
        if m.addressing == .logical && !config.relaxLogicalPointer && m.isPointerType parameter then
          m.checkPointerArgument config argument parameter
        else .ok ()

def checkArguments (callee : Id) (arguments parameters : List Id) :
    Checked (Except FunctionFault Unit) :=
  after (require (arguments.length == parameters.length) (.argumentCount callee)) fun _ =>
    requireEach (fun p => checkArgument m config frames callee p.1 p.2) (arguments.zip parameters)

def checkCall (i : Instruction) : Checked (Except FunctionFault Unit) :=
  let id := i.operandOrZero 2
  match m.function? id with
  | none => .ok (.error (.notFunction id))
  | some callee =>
    let declared := callee.typeIdOrZero
    after (require ((m.definition? declared).isSome && declared == i.typeIdOrZero)
      (.callResult id)) fun _ =>
      match m.functionType? callee with
      | none => .ok (.error (.missingType (some id)))
      | some type =>
        checkArguments m config frames id (i.operandsFrom 3) (type.operandsFrom 2)

variable {m config frames} {enough : Prop}

theorem rankBelow_eq_ok {below? : Option Nat} {rank : Nat}
    (h : ∀ below, below? = some below → below + 1 < UInt64.size) :
    rankBelow below? rank = .ok (below?.all (· + 1 == rank)) := by
  cases below? with
  | none => rfl
  | some below =>
    rw [rankBelow, add_eq_ok (h below rfl)]
    rfl

theorem checkSubtensor_ends (hm : m.RanksBelow) (element : Id) (rank : Nat) (shape : Instruction)
    (id : Id) (index : Nat) {tensor : Instruction} (htensor : tensor ∈ m.instructions) :
    Ends enough (checkSubtensor m element rank shape id index tensor)
      (m.checkSubtensor element rank shape id index tensor) := by
  rw [checkSubtensor, Module.checkSubtensor]
  refine .after fun _ hop => .after fun _ _ => ?_
  have hrank (below : Nat) (hbelow : (tensor.operand 2).bind m.uint64Value? = some below) :
      below + 1 < UInt64.size := by
    have hne := hm tensor htensor (eq_of_beq (require_eq_ok_iff.mp hop))
    obtain ⟨rankId, -, hvalue⟩ := Option.bind_eq_some_iff.mp hbelow
    have hlt := Module.uint64Value?_lt hvalue
    rw [hbelow, Ne, Option.some.injEq] at hne
    omega
  rw [rankBelow_eq_ok hrank, ok_bind]
  exact .ok _

theorem checkTensorConstituent_ends (hm : m.RanksBelow) (element : Id) (rank : Nat)
    (shape : Instruction) (id : Id) (index : Nat) :
    Ends enough (checkTensorConstituent m element rank shape id index)
      (m.checkTensorConstituent element rank shape id index) := by
  rw [checkTensorConstituent, Module.checkTensorConstituent]
  refine .after fun p hp => ?_
  obtain ⟨t, type⟩ := p
  obtain ⟨_, -, -, -, hdef⟩ := (Module.constituentType_eq_ok_iff m id t type).mp hp
  match rank with
  | 0 => exact .ok _
  | 1 => exact .ok _
  | rank + 2 => exact checkSubtensor_ends hm element _ shape id index (Module.mem_of_definition? hdef).1

theorem checkTensor_ends (hm : m.RanksBelow) (type : Instruction) (constituents : List Id) :
    Ends enough (checkTensor m type constituents) (m.checkTensor type constituents) := by
  rw [checkTensor, Module.checkTensor]
  exact .after fun element _ => .after fun rank _ => .after fun shape _ => .after fun _ _ =>
    .requireEach fun p _ => checkTensorConstituent_ends hm _ _ _ p.1 p.2

theorem checkConstituents_ends (hm : m.RanksBelow) (type : Instruction) (constituents : List Id) :
    Ends enough (checkConstituents m type constituents)
      (m.checkConstituents type constituents) := by
  rw [checkConstituents]
  split
  case h_1 hop =>
    rw [Module.checkConstituents, hop]
    exact checkTensor_ends hm type constituents
  case h_2 => exact .ok _

theorem checkComposite_ends (hm : m.RanksBelow) (i : Instruction) :
    Ends enough (checkComposite m i) (m.checkComposite i) := by
  rw [checkComposite, Module.checkComposite]
  cases (m.definition? i.typeIdOrZero).filter fun type =>
      type.opcode.isCompositeType || type.isShapedTensor with
  | none => exact .ok _
  | some type => exact (checkConstituents_ends hm type (i.operandsFrom 2)).map

theorem checkNull_ends (h : Room enough config.maxTypeDepth frames 0) (i : Instruction) :
    Ends enough (checkNull m config frames i) (m.checkNull config i) :=
  .bind (isNullableId_ends h i.typeIdOrZero) (.ok _)

theorem checkNarrowNumeric_ends (h : Room enough config.maxTypeDepth frames 0) (i : Instruction) :
    Ends enough (checkNarrowNumeric m config frames i) (m.checkNarrowNumeric config i) := by
  rw [checkNarrowNumeric, Module.checkNarrowNumeric]
  cases i.typeId with
  | none => exact .ok _
  | some t =>
    dsimp only
    cases m.hasCapability .shader && !m.isPointerType t with
    | false => exact .ok _
    | true => exact .bind (containsLimitedNumeric_ends h t) (.ok _)

theorem checkConstantKind_ends (hm : m.RanksBelow) (h : Room enough config.maxTypeDepth frames 0)
    (i : Instruction) :
    Ends enough (checkConstantKind m config frames i) (m.checkConstantKind config i) := by
  rw [checkConstantKind]
  split
  case h_1 hop =>
    rw [Module.checkConstantKind, hop]
    exact checkComposite_ends hm i
  case h_2 hop =>
    rw [Module.checkConstantKind, hop]
    exact checkComposite_ends hm i
  case h_3 hop =>
    rw [Module.checkConstantKind, hop]
    exact checkNull_ends h i
  case h_4 => exact .ok _

theorem checkConstant_ends (hm : m.RanksBelow) (h : Room enough config.maxTypeDepth frames 0)
    (i : Instruction) :
    Ends enough (checkConstant m config frames i) (m.checkConstant config i) := by
  rw [checkConstant, Module.checkConstant]
  refine .bind (checkConstantKind_ends hm h i) (.after fun _ _ => ?_)
  split
  · exact checkNarrowNumeric_ends h i
  · exact .ok _

/-- The parameters that a per-element operation takes by their index are there. -/
theorem takesElement_eq_ok (component : Id) (parameters : List Id) :
    takesElement m component parameters = .ok (m.takesElement component parameters) := by
  match parameters with
  | [] => rfl
  | [_] => rfl
  | [_, _] => rfl
  | row :: column :: element :: rest =>
    have hlength : 3 ≤ (row :: column :: element :: rest).length := by simp
    rw [takesElement, if_pos hlength, sliceTo_eq_ok (by simp), ok_bind, Module.takesElement]
    cases hrow : m.isInt32Type row <;> cases hcolumn : m.isInt32Type column <;>
      simp [hrow, hcolumn, index]

theorem checkElementFunction_ends (id : Id) (function : Instruction) (component : Id) :
    Ends enough (checkElementFunction m id function component)
      (m.checkElementFunction id function component) := by
  rw [checkElementFunction, Module.checkElementFunction]
  cases m.functionType? function with
  | none => exact .ok _
  | some type => exact .after fun _ _ => .bind (.of_eq (takesElement_eq_ok _ _)) (.ok _)

theorem checkPerElement_ends (i : Instruction) :
    Ends enough (checkPerElement m i) (m.checkPerElement i) := by
  rw [checkPerElement, Module.checkPerElement]
  dsimp only
  cases m.function? (i.operandOrZero 3) with
  | none => exact .ok _
  | some function =>
    dsimp only
    cases m.definition? (i.operandOrZero 2) with
    | none => exact .ok _
    | some matrix =>
      dsimp only
      cases (m.definition? matrix.typeIdOrZero).filter (·.opcode == .typeCooperativeMatrixKHR) with
      | none => exact .ok _
      | some type => exact .after fun _ _ => checkElementFunction_ends _ function _

theorem argumentFits_ends (h : Room enough config.maxTypeDepth frames 0) (typeId : Id)
    (type : Instruction) (parameter : Id) :
    Ends enough (argumentFits m config frames typeId type parameter)
      (m.argumentFits config typeId type parameter) := by
  rw [argumentFits, Module.argumentFits]
  cases typeId == parameter with
  | true => exact .ok _
  | false =>
    cases config.beforeLegalization with
    | false => exact .ok _
    | true => exact .whenSome fun p _ => pointeesMatch_ends h type p

theorem checkArgument_ends (h : Room enough config.maxTypeDepth frames 0)
    (callee id parameter : Id) :
    Ends enough (checkArgument m config frames callee id parameter)
      (m.checkArgument config callee id parameter) := by
  rw [checkArgument, Module.checkArgument]
  cases m.definition? id with
  | none => exact .ok _
  | some argument =>
    dsimp only
    cases m.typeDefinition? argument with
    | none => exact .ok _
    | some type => exact .bind (argumentFits_ends h _ type parameter) (.ok _)

theorem checkArguments_ends (h : Room enough config.maxTypeDepth frames 0) (callee : Id)
    (arguments parameters : List Id) :
    Ends enough (checkArguments m config frames callee arguments parameters)
      (m.checkArguments config callee arguments parameters) := by
  rw [checkArguments, Module.checkArguments]
  exact .after fun _ _ => .requireEach fun p _ => checkArgument_ends h callee p.1 p.2

theorem checkCall_ends (h : Room enough config.maxTypeDepth frames 0) (i : Instruction) :
    Ends enough (checkCall m config frames i) (m.checkCall config i) := by
  rw [checkCall, Module.checkCall]
  cases m.function? (i.operandOrZero 2) with
  | none => exact .ok _
  | some callee =>
    refine .after fun _ _ => ?_
    cases m.functionType? callee with
    | none => exact .ok _
    | some type => exact checkArguments_ends h _ _ _

end Checked
end Spirv
