import Disposal.Finding
import Disposal.Resolution

/-!
# Diagnostics

Advisory checks on every type that gets generated code.  They never change what is generated.

* `Diagnostic` is a check, `Diagnostic.run` its findings on one type.
-/

namespace Disposal

/-- An advisory check.  These are the checks of the library itself; a host that brings its own check
is outside of this type. -/
inductive Diagnostic where
  /-- The type has nothing to clean up. -/
  | nothingToDispose
  /-- The generated class only compiles if the type is partial. -/
  | notPartial
  /-- A cleanup hook with a signature that is not called. -/
  | hookSignature
  deriving DecidableEq, Repr, Inhabited

namespace Diagnostic

/-- The code of a check. -/
def id : Diagnostic → String
  | .nothingToDispose => "DP0001"
  | .notPartial => "DP0002"
  | .hookSignature => "DP0003"

/-- The title of a check. -/
def title : Diagnostic → String
  | .nothingToDispose => "Nothing to dispose"
  | .notPartial => "Class is not partial"
  | .hookSignature => "Cleanup hook has the wrong signature"

/-- How serious the findings of a check are. -/
def severity : Diagnostic → String
  | .notPartial => "error"
  | _ => "warning"

/-- How to mend what a check finds. -/
def hint : Diagnostic → String
  | .nothingToDispose =>
    "Add a 'void DisposeManaged()' and/or 'void DisposeUnmanaged()' method, " ++
      "or hold a disposable field, so the generated Dispose() has work to do."
  | .notPartial => "Add the 'partial' modifier to the class declaration."
  | .hookSignature => "Declare the hook as 'private void DisposeManaged()' / " ++
      "'private void DisposeUnmanaged()'."

/-- Every check. -/
def all : List Diagnostic := [.nothingToDispose, .notPartial, .hookSignature]

/-- The check with a given code. -/
def ofId? (s : String) : Option Diagnostic := all.find? fun d => d.id = s

/-- A finding of a check on a type, at the type unless a place is given. -/
def finding (d : Diagnostic) (t : TypeSymbol) (message : String)
    (place : Option Location := none) : Finding where
  rule := d.id
  message := message
  location := place.orElse fun _ => t.location
  symbol := some t.qualifiedName
  severity := d.severity

/-- Whether a member is named like a cleanup hook but has another signature. -/
def isMisshapenHook (m : MemberSymbol) : Bool :=
  m.kind == .method && (m.name == managedHook || m.name == unmanagedHook) &&
    !(m.parameterCount == 0 && m.typeParameterCount == 0 && m.returnsVoid)

/-- The findings of a check on a type with its work item and members. -/
def run (d : Diagnostic) (item : WorkItem) (t : TypeSymbol) (members : List MemberSymbol) :
    List Finding :=
  match d with
  | .nothingToDispose =>
    if item.lacksWork then
      [d.finding t ("Class '" ++ item.className ++
        "' does not implement a DisposeManaged or DisposeUnmanaged method.")]
    else []
  | .notPartial =>
    if t.isPartial then []
    else [d.finding t ("Class '" ++ item.className ++
      "' must be declared partial for the generated Dispose() to compile.")]
  | .hookSignature =>
    (members.filter isMisshapenHook).map fun m =>
      d.finding t ("'" ++ item.className ++ "." ++ m.name ++
        "' must be a non-generic parameterless void method; it will not be called.") m.location

end Diagnostic

end Disposal
