import Disposal.Framework
import Disposal.Log
import Disposal.Provider
import Disposal.Text.Quoted
import Disposal.WorkItem

/-!
# Resolving candidates

Every candidate gets a verdict: it is passed over for one of several reasons, or it gives a work
item.  A type gives at most one work item, however many candidates declare it.  The host may
cancel between candidates; then nothing that was found counts.

* `Provider.workItem` is the work item of a type;
* `Verdict` is the verdict on one candidate, `Provider.judge` decides it;
* `Resolution` is the outcome of a whole list, `Provider.resolve` computes it,
  `Resolution.items?` are the work items and `Resolution.log` is what resolving says;
* `Provider.resolveAsking` counts the questions to the host as they are asked, and
  `Provider.resolveCalling` hands each work item to its caller as soon as it is found.
-/

namespace Disposal

/-- The method that the generated code declares. -/
def disposeMethod : String := "Dispose"

/-- The hook that cleans up managed resources. -/
def managedHook : String := "DisposeManaged"

/-- The hook that cleans up unmanaged resources. -/
def unmanagedHook : String := "DisposeUnmanaged"

/-- Whether some member is the method `void name()` without type parameters. -/
def hasCleanupHook (members : List MemberSymbol) (name : String) : Bool :=
  members.any (·.isParameterlessVoid name)

/-- Whether some member is the method `void Dispose()`. -/
def hasDisposeMethod (members : List MemberSymbol) : Bool := hasCleanupHook members disposeMethod

/-- Why a type never gets generated code. -/
inductive SkipReason where
  | notClass (kind : TypeKind)
  | nested (outer : String)
  | globalNamespace
  deriving DecidableEq, Repr, Inhabited

namespace SkipReason

/-- The wording of a reason. -/
def text : SkipReason → String
  | .notClass kind => kind.text ++ " is not a class"
  | .nested outer => "nested in " ++ outer
  | .globalNamespace => "declared in the global namespace"

/-- The reason to pass over a type, if there is one. -/
def of? (t : TypeSymbol) : Option SkipReason :=
  if t.kind ≠ .classType then some (.notClass t.kind)
  else match t.containingType with
    | some outer => some (.nested outer)
    | none => if t.namespaceName = "" then some .globalNamespace else none

end SkipReason

/-- The verdict on a candidate. -/
inductive Verdict (ν : Type) where
  | unresolved
  | skipped (name : String) (reason : SkipReason)
  | repeated (name : String)
  | unrelated (name : String)
  | alreadyDisposes (name : String)
  | work (item : WorkItem) (symbol : TypeSymbol) (node : ν)
  deriving Repr, Inhabited

namespace Provider

variable {ν : Type} (P : Provider ν)

/-- The names of the instance fields and properties whose type is disposable. -/
def disposableMemberNames (members : List MemberSymbol) (interface : TypeSymbol) : List String :=
  (members.filter fun m => m.isInstanceData &&
    ((m.declaredType.bind P.typeNamed?).any fun t => P.isOrImplements t interface)).map
      MemberSymbol.name

/-- The work item of a type. -/
def workItem (t interface : TypeSymbol) : WorkItem where
  namespaceName := t.namespaceName
  className := t.name
  accessibility := t.accessibility
  memberNames := P.disposableMemberNames (P.members t) interface
  managedHook := hasCleanupHook (P.members t) Disposal.managedHook
  unmanagedHook := hasCleanupHook (P.members t) Disposal.unmanagedHook

/-- The verdict on a candidate, given the names of the types that already have a work item. -/
def judge (interface : TypeSymbol) (seen : List String) (node : ν) : Verdict ν :=
  match P.declaration? node with
  | none => .unresolved
  | some t =>
    match SkipReason.of? t with
    | some reason => .skipped t.qualifiedName reason
    | none =>
      if seen.contains t.qualifiedName then .repeated t.qualifiedName
      else if !P.implements t interface then .unrelated t.qualifiedName
      else if hasDisposeMethod (P.members t) then .alreadyDisposes t.qualifiedName
      else .work (P.workItem t interface) t node

end Provider

namespace Verdict

variable {ν : Type}

/-- The names with a work item after a verdict. -/
def seenAfter (seen : List String) : Verdict ν → List String
  | .work _ t _ => t.qualifiedName :: seen
  | _ => seen

/-- The work item of a verdict, with its type and candidate. -/
def work? : Verdict ν → Option (WorkItem × TypeSymbol × ν)
  | .work item t node => some (item, t, node)
  | _ => none

/-- What is said about a verdict. -/
def message (interfaceName : String) : Verdict ν → String
  | .unresolved => "Skipping candidate: declaration could not be resolved"
  | .skipped name reason => "Skipping " ++ name ++ ": " ++ reason.text
  | .repeated name => "Skipping " ++ name ++ ": already resolved in this pass"
  | .unrelated name => "Skipping " ++ name ++ ": does not implement " ++ interfaceName
  | .alreadyDisposes name => "Skipping " ++ name ++ ": already declares " ++ disposeMethod ++ "()"
  | .work item t _ =>
    "Work for " ++ t.qualifiedName ++ ": managed=" ++ (if item.managedHook then "True" else "False")
      ++ " unmanaged=" ++ (if item.unmanagedHook then "True" else "False")
      ++ " members=" ++ Text.quoteList item.memberNames

end Verdict

/-- The outcome of resolving a list of candidates. -/
inductive Resolution (ν : Type) where
  /-- The disposal interface is unknown; no candidate was looked at. -/
  | unknownInterface
  /-- The host cancelled after these verdicts. -/
  | cancelled (verdicts : List (Verdict ν))
  /-- Every candidate has a verdict. -/
  | complete (verdicts : List (Verdict ν))
  deriving Repr, Inhabited

namespace Resolution

variable {ν : Type}

/-- Put a verdict in front of those of a resolution. -/
def cons (v : Verdict ν) : Resolution ν → Resolution ν
  | .unknownInterface => .unknownInterface
  | .cancelled vs => .cancelled (v :: vs)
  | .complete vs => .complete (v :: vs)

/-- The work items with their types and candidates; none if the host cancelled. -/
def resolved? : Resolution ν → Option (List (WorkItem × TypeSymbol × ν))
  | .unknownInterface => some []
  | .cancelled _ => none
  | .complete vs => some (vs.filterMap Verdict.work?)

/-- The work items in candidate order; none if the host cancelled. -/
def items? (r : Resolution ν) : Option (List WorkItem) := r.resolved?.map (·.map Prod.fst)

/-- How often the host was asked whether to cancel. -/
def consultations : Resolution ν → Nat
  | .unknownInterface => 0
  | .cancelled vs => vs.length + 1
  | .complete vs => vs.length

/-- What resolving says. -/
def log (interfaceName : String) : Resolution ν → List Log.Record
  | .unknownInterface =>
    [⟨.warning, .resolver,
      "Disposal interface " ++ interfaceName ++ " is unknown; nothing to generate"⟩]
  | .cancelled vs =>
    vs.map (fun v => ⟨.debug, .resolver, v.message interfaceName⟩) ++
      [⟨.info, .resolver, "Pass cancelled after " ++ Nat.repr (vs.filterMap Verdict.work?).length ++
        " work item(s); discarding them"⟩]
  | .complete vs =>
    vs.map (fun v => ⟨.debug, .resolver, v.message interfaceName⟩) ++
      [⟨.info, .resolver,
        "Resolved " ++ Nat.repr (vs.filterMap Verdict.work?).length ++ " work item(s)"⟩]

end Resolution

/-- The answers of the host to the question whether to cancel, one per call. -/
abbrev Cancellation := Nat → Bool

/-- A host that never cancels. -/
def Cancellation.never : Cancellation := fun _ => false

/-- Ask a host once; the state is the number of questions so far. -/
def Cancellation.ask (cancel : Cancellation) : StateM Nat Bool := do
  let asked ← get
  set (asked + 1)
  return cancel asked

namespace Provider

variable {ν : Type} (P : Provider ν)

/-- Resolve candidates one after the other; the host has been asked `asked` times. -/
def resolveFrom (interface : TypeSymbol) (cancel : Cancellation) :
    (asked : Nat) → (seen : List String) → List ν → Resolution ν
  | _, _, [] => .complete []
  | asked, seen, node :: nodes =>
    if cancel asked then .cancelled []
    else
      let v := P.judge interface seen node
      (resolveFrom interface cancel (asked + 1) (v.seenAfter seen) nodes).cons v

/-- Resolve candidates for the disposal interface with a given name. -/
def resolve (candidates : List ν) (interfaceName : String := Framework.disposableInterface)
    (cancel : Cancellation := .never) : Resolution ν :=
  match P.typeNamed? interfaceName with
  | none => .unknownInterface
  | some interface => P.resolveFrom interface cancel 0 [] candidates

/-! ### Runs that call out -/

/-- Resolve candidates one after the other, asking the host before each of them. -/
def resolveAskingFrom (interface : TypeSymbol) (ask : StateM Nat Bool) :
    (seen : List String) → List ν → StateM Nat (Resolution ν)
  | _, [] => return .complete []
  | seen, node :: nodes => do
    if ← ask then return .cancelled []
    else
      let v := P.judge interface seen node
      return (← resolveAskingFrom interface ask (v.seenAfter seen) nodes).cons v

/-- Resolve candidates for the disposal interface with a given name, asking the host. -/
def resolveAsking (candidates : List ν) (interfaceName : String)
    (ask : StateM Nat Bool) : StateM Nat (Resolution ν) :=
  match P.typeNamed? interfaceName with
  | none => return .unknownInterface
  | some interface => P.resolveAskingFrom interface ask [] candidates

variable {m : Type → Type} [Monad m]

/-- Resolve candidates one after the other, handing every work item to `onItem` with its type and
its candidate as soon as it is found. -/
def resolveCallingFrom (interface : TypeSymbol)
    (onItem : WorkItem → TypeSymbol → ν → m Unit) :
    (seen : List String) → List ν → m (Resolution ν)
  | _, [] => return .complete []
  | seen, node :: nodes => do
    let v := P.judge interface seen node
    if let some (item, t, c) := v.work? then
      onItem item t c
    return (← resolveCallingFrom interface onItem (v.seenAfter seen) nodes).cons v

/-- Resolve candidates for the disposal interface with a given name, handing out work items. -/
def resolveCalling (candidates : List ν) (interfaceName : String)
    (onItem : WorkItem → TypeSymbol → ν → m Unit) : m (Resolution ν) :=
  match P.typeNamed? interfaceName with
  | none => return .unknownInterface
  | some interface => P.resolveCallingFrom interface onItem [] candidates

end Provider

end Disposal
