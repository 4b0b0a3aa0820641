import ScriptHost.Proofs.Registry.Indexes

/-! Signatures made with the builders. A chain of builder calls begins with a function or a method,
and each further call adds a parameter or gives another result. What the chain makes is told by its
beginning, the parameters in the order in which they were added and the last result. -/
namespace ScriptHost.Signature

/-- How a chain of builder calls begins. -/
inductive Start where
  | function (id : BuiltinId) (name : String)
  | method (id : BuiltinId) (receiver : TypeDesc) (name : String)

/-- A further call in a chain. -/
inductive Step where
  | param (name : String) (type : TypeDesc)
  | returns (type : TypeDesc)

namespace Step

def apply (signature : Signature) : Step → Signature
  | .param name type => signature.param name type
  | .returns type => signature.returns type

/-- The parameter that a call adds. -/
def param? : Step → Option (String × TypeDesc)
  | .param name type => some (name, type)
  | .returns _ => none

/-- The result that a call gives. -/
def result? : Step → Option TypeDesc
  | .param _ _ => none
  | .returns type => some type

end Step

/-- The parameters of all calls that add one, in order. -/
def added (steps : List Step) : List (String × TypeDesc) := steps.filterMap Step.param?

/-- The last result that a call gives, or else the one from before the calls. -/
def lastResult (steps : List Step) (before : TypeDesc) : TypeDesc :=
  (steps.filterMap Step.result?).getLastD before

theorem added_cons (step : Step) (rest : List Step) :
    added (step :: rest) = step.param?.toList ++ added rest := by
  cases step <;> rfl

theorem lastResult_cons (step : Step) (rest : List Step) (before : TypeDesc) :
    lastResult (step :: rest) before = lastResult rest (step.result?.getD before) := by
  cases step with
  | param name type => rfl
  | returns type => exact List.getLastD_cons

namespace Start

def id : Start → BuiltinId
  | .function id _ | .method id _ _ => id

/-- A method is named after the kind of its receiver. -/
def name : Start → String
  | .function _ name => name
  | .method _ receiver name => receiver.kind.text ++ "." ++ name

def receiver? : Start → Option TypeDesc
  | .function _ _ => none
  | .method _ receiver _ => some receiver

def method? : Start → Option String
  | .function _ _ => none
  | .method _ _ name => some name

/-- The receiver is a parameter before any is added. -/
def params (start : Start) : List (String × TypeDesc) :=
  start.receiver?.toList.map ("self", ·)

def signature : Start → Signature
  | .function id name => .function id name
  | .method id receiver name => .ofMethod id receiver name

/-- What a chain of builder calls makes. -/
def build (start : Start) (steps : List Step) : Signature :=
  steps.foldl Step.apply start.signature

/-- The signature that declares some parameters and a result. -/
def withParams (start : Start) (params : List (String × TypeDesc)) (result : TypeDesc) :
    Signature where
  id := start.id
  name := start.name
  arity := params.length
  paramNames := params.map (·.1)
  paramTypes := params.map (·.2)
  result := result
  receiver := start.receiver?
  method := start.method?

theorem signature_eq_withParams (start : Start) :
    start.signature = start.withParams start.params .unit := by
  cases start <;> rfl

/-- A call adds its parameter behind the others, or puts its result in place of the other one. -/
theorem apply_withParams (start : Start) (params : List (String × TypeDesc)) (result : TypeDesc)
    (step : Step) : step.apply (start.withParams params result) =
      start.withParams (params ++ step.param?.toList) (step.result?.getD result) := by
  cases step with
  | param name type =>
    simp [Step.apply, param, withParams, Step.param?, Step.result?]
  | returns type =>
    simp [Step.apply, returns, withParams, Step.param?, Step.result?]

theorem foldl_apply_withParams (start : Start) (params : List (String × TypeDesc))
    (result : TypeDesc) (steps : List Step) :
    steps.foldl Step.apply (start.withParams params result) =
      start.withParams (params ++ added steps) (lastResult steps result) := by
  -- What is declared so far grows with each call.
  induction steps generalizing params result with
  | nil => simp [added, lastResult]
  | cons step rest ih =>
    rw [List.foldl_cons, apply_withParams, ih, added_cons, lastResult_cons, List.append_assoc]

/-- A chain makes the signature that declares all its parameters and its last result. -/
theorem build_eq_withParams (start : Start) (steps : List Step) :
    start.build steps = start.withParams (start.params ++ added steps) (lastResult steps .unit) := by
  rw [build, signature_eq_withParams, foldl_apply_withParams]

theorem params_withParams (start : Start) (params : List (String × TypeDesc)) (result : TypeDesc) :
    (start.withParams params result).params = params :=
  (List.zip_of_prod rfl rfl).symm

/-- The receiver comes first, whatever is added behind it. -/
theorem validate_withParams (start : Start) (more : List (String × TypeDesc)) (result : TypeDesc) :
    (start.withParams (start.params ++ more) result).validate = .ok () := by
  refine validate_eq_ok_iff.mpr ⟨List.length_map _, List.length_map _, ?_⟩
  cases start with
  | function id name => exact .inr ⟨rfl, rfl⟩
  | method id receiver name => exact .inl ⟨receiver, name, rfl, rfl, rfl⟩

end Start

/-- A signature agrees with itself and declares what a chain of builder calls asks for: every
parameter once, in order and behind the receiver, and the last result. -/
structure Declares (signature : Signature) (start : Start) (steps : List Step) : Prop where
  valid : signature.validate = .ok ()
  id : signature.id = start.id
  name : signature.name = start.name
  receiver : signature.receiver = start.receiver?
  method : signature.method = start.method?
  arity : signature.arity = (added steps).length + if signature.isMethod then 1 else 0
  params : signature.params = start.params ++ added steps
  first : ∀ receiver ∈ signature.receiver, signature.params.head? = some ("self", receiver)
  result : signature.result = lastResult steps .unit
  text : signature.text = start.name ++ "(" ++
    ", ".intercalate ((start.params ++ added steps).map fun (name, type) =>
      name ++ ": " ++ type.text) ++
    ") -> " ++ (lastResult steps .unit).text

theorem Start.declares_build (start : Start) (steps : List Step) :
    (start.build steps).Declares start steps := by
  rw [build_eq_withParams]
  have params := start.params_withParams (start.params ++ added steps) (lastResult steps .unit)
  constructor
  case valid => exact start.validate_withParams _ _
  case id => rfl
  case name => rfl
  case receiver => rfl
  case method => rfl
  case arity => cases start <;> simp [withParams, isMethod, Start.params, receiver?, Nat.add_comm]
  case params => exact params
  case first =>
    rw [params]
    cases start with
    | function id name => nofun
    | method id receiver name => rintro _ ⟨⟩; rfl
  case result => rfl
  case text =>
    rw [text, params]
    rfl

example : ((Start.method ⟨7⟩ (.list .int) "fill").build
    [.returns .unit, .param "value" .int, .returns (.list .int)]).text =
      "list.fill(self: list<int>, value: int) -> list<int>" := by decide

end ScriptHost.Signature
