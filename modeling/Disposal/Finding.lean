import Disposal.Location

/-!
# Findings

A finding is one piece of advice about a type: the rule that gives it, a message and where it
applies.
-/

namespace Disposal

/-- A piece of advice about a type. -/
structure Finding where
  /-- The code of the rule. -/
  rule : String
  message : String
  location : Option Location := none
  /-- Qualified name of the type concerned. -/
  symbol : Option String := none
  /-- How serious the finding is, such as `error` or `warning`. -/
  severity : String := "warning"
  deriving DecidableEq, Repr, Inhabited

namespace Finding

/-- Read a finding from its fields. -/
def ofFields (fields : Fields) : Checked Finding :=
  Finding.mk <$> fields.required "rule_id" Value.toText
    <*> fields.required "message" Value.toText
    <*> fields.nullable "location" Location.ofValue
    <*> fields.nullable "symbol" Value.toText
    <*> fields.optional "severity" "warning" Value.toText

/-- Whether a finding stands for generated code that cannot compile. -/
def isError (f : Finding) : Bool :=
  String.ofList (f.severity.toList.map Char.toLower) == "error"

end Finding

end Disposal
