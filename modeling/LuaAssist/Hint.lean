import LuaAssist.CallSite
import LuaAssist.Documentation
import LuaAssist.Signature

/-!
# Parameter hints

For the call at the cursor, the functions of that name that are known, each as a label
in which every parameter has its place.
-/

namespace LuaAssist

/-- A function as a hint shows it. -/
structure HintSignature where
  name : Text
  /-- The type of the result, empty if it is unknown. -/
  returns : Text
  parameters : List Text
  deriving DecidableEq, Repr

namespace HintSignature

/-- What stands before the parameters. -/
def opening (signature : HintSignature) : Text :=
  (if signature.returns.isEmpty then [] else signature.returns ++ [' ']) ++
    signature.name ++ ['(']

/-- The result, the name and the parameters in one line. -/
def label (signature : HintSignature) : Text :=
  signature.opening ++ Text.join [',', ' '] signature.parameters ++ [')']

/-- The bytes of parameters that stand from `start` on with a comma and a space between. -/
def rangesFrom (start : Nat) : List Text → List (Nat × Nat)
  | [] => []
  | parameter :: rest =>
    let stop := start + Text.utf8Length parameter
    (start, stop) :: rangesFrom (stop + 2) rest

/-- The bytes of each parameter in the label. -/
def parameterRanges (signature : HintSignature) : List (Nat × Nat) :=
  let result :=
    if signature.returns.isEmpty then 0 else Text.utf8Length signature.returns + 1
  rangesFrom (result + Text.utf8Length signature.name + 1) signature.parameters

/-- A function whose header is known. -/
def ofSignature (signature : Signature) : HintSignature :=
  ⟨signature.qualifiedName, [], signature.parameters⟩

/-- A documented function. -/
def ofCall (call : Documentation.Call) : HintSignature :=
  ⟨call.qualifiedName, call.returns, call.arguments⟩

end HintSignature

/-- The hint for a call. -/
structure Hint where
  call : CallSite
  signatures : List HintSignature
  /-- The index of the argument at the cursor, unless a bracket is open in it. -/
  active : Option Nat
  deriving DecidableEq, Repr

/-- The hint for the call at an offset: the visible functions of its name, then the
documented ones. Without any there is no hint. -/
def Hint.find? (text : Text) (offset : Nat) (visible : List Signature)
    (documented : Documentation.CallTable) : Option Hint := do
  let call ← CallSite.find? text offset
  let signatures :=
    (visible.filter fun s => s.name = call.callee).map HintSignature.ofSignature ++
      (documented.named call.callee).map HintSignature.ofCall
  if signatures.isEmpty then none
  else some ⟨call, signatures, CallSite.activeArgument? text call.openOffset offset⟩

end LuaAssist
