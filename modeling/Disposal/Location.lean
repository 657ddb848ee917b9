import Disposal.Field

/-!
# Source locations

Where in the sources something stands: a file, a line and a column, all counted from 1.
-/

namespace Disposal

/-- A place in a source file. -/
structure Location where
  path : Path
  /-- Line, counted from 1. -/
  line : Nat
  /-- Column in bytes, counted from 1. -/
  column : Nat
  endLine : Option Nat := none
  endColumn : Option Nat := none
  /-- The first line of the text found there. -/
  snippet : Option String := none
  deriving DecidableEq, Repr, Inhabited

namespace Location

/-- Read a location from its fields. -/
def ofFields (fields : Fields) : Checked Location :=
  Location.mk <$> fields.required "path" Value.toPath
    <*> fields.required "line" Value.toPositive
    <*> fields.required "column" Value.toPositive
    <*> fields.nullable "end_line" Value.toPositive
    <*> fields.nullable "end_column" Value.toPositive
    <*> fields.nullable "snippet" Value.toText

/-- Read a location. -/
def ofValue : Value → Checked Location
  | .record fields => ofFields fields
  | _ => .fault .notRecord

end Location

end Disposal
