/-!
# Log records

Every stage of a run says what it did as a list of `Log.Record` values; writing them anywhere
is left to the outermost layer.
-/

namespace Disposal.Log

/-- How important a record is, in increasing order. -/
inductive Level where
  | debug
  | info
  | warning
  | error
  deriving DecidableEq, Repr, Inhabited

/-- The stage that a record comes from. -/
inductive Source where
  | parser
  | context
  | traversal
  | collector
  | model
  | resolver
  | generator
  | output
  | command
  deriving DecidableEq, Repr, Inhabited

/-- One thing that a stage says about its work. -/
structure Record where
  level : Level
  source : Source
  message : String
  deriving DecidableEq, Repr, Inhabited

/-- The name that a level is shown by. -/
def Level.name : Level → String
  | .debug => "DEBUG"
  | .info => "INFO"
  | .warning => "WARNING"
  | .error => "ERROR"

/-- The rank of a level. -/
def Level.rank : Level → Nat
  | .debug => 0
  | .info => 1
  | .warning => 2
  | .error => 3

/-- The name that a stage is shown by. -/
def Source.name : Source → String
  | .parser => "disposegen.parser"
  | .context => "disposegen.context"
  | .traversal => "disposegen.traversal"
  | .collector => "disposegen.filters.collector"
  | .model => "disposegen.semantic.csharp"
  | .resolver => "disposegen.resolver"
  | .generator => "disposegen.generator"
  | .output => "disposegen.output"
  | .command => "disposegen.main"

/-- The line that shows a record. -/
def Record.line (r : Record) : String :=
  r.level.name ++ " " ++ r.source.name ++ ": " ++ r.message

/-- Whether a record is at least as important as `level`. -/
def Record.atLeast (level : Level) (r : Record) : Bool := level.rank ≤ r.level.rank

end Disposal.Log
