import Disposal.Accessibility

/-!
# Work items

A work item says which disposal code one type needs: its name, the members to dispose and the
cleanup hooks it declares.  Work items never change once they are made.
-/

namespace Disposal

/-- The disposal code that one type needs. -/
structure WorkItem where
  namespaceName : String := ""
  className : String := ""
  accessibility : Accessibility := .unspecified
  /-- Disposable members in the order of their declarations, repetitions kept. -/
  memberNames : List String := []
  /-- Whether the type declares the hook for managed resources. -/
  managedHook : Bool := false
  /-- Whether the type declares the hook for unmanaged resources. -/
  unmanagedHook : Bool := false
  deriving DecidableEq, Repr, Inhabited

namespace WorkItem

/-- Whether there is anything to clean up. -/
def hasWork (item : WorkItem) : Bool :=
  item.unmanagedHook || item.managedHook || !item.memberNames.isEmpty

theorem hasWork_eq_false {item : WorkItem} : item.hasWork = false ↔
    item.unmanagedHook = false ∧ item.managedHook = false ∧ item.memberNames = [] := by
  simp [hasWork, and_assoc]

/-- Whether there is nothing to clean up. -/
def lacksWork (item : WorkItem) : Bool := !item.hasWork

/-- The name of the type with its namespace. -/
def qualifiedName (item : WorkItem) : String :=
  if item.namespaceName = "" then item.className
  else item.namespaceName ++ "." ++ item.className

/-- Read a work item from its fields. -/
def ofFields (fields : Fields) : Checked WorkItem :=
  WorkItem.mk <$> fields.optional "namespace_name" "" Value.toText
    <*> fields.optional "class_name" "" Value.toText
    <*> fields.optional "declared_accessibility" .unspecified Accessibility.ofValue
    <*> fields.optional "disposable_member_names" [] Value.toTexts
    <*> fields.optional "implement_managed" false Value.toBool
    <*> fields.optional "implement_unmanaged" false Value.toBool

/-- Assigning fields of a work item.  Names that start with an underscore are notes beside the
item; any other name is refused, and the first refusal ends the assignment. -/
def assign (item : WorkItem) : Fields → Checked WorkItem
  | [] => .value item
  | (name, _) :: fields =>
    if name.toList.head? = some '_' then item.assign fields
    else (Checked.fault .frozen).under (.field name)

end WorkItem

end Disposal
