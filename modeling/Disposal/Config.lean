import Disposal.Artifact
import Disposal.Candidate
import Disposal.Diagnostic

/-!
# Configuration

The choices of a pass: which declarations are candidates, what makes a type disposable, how
generated sources are named and which checks run.
-/

namespace Disposal

/-- The choices of a pass. -/
structure Config where
  filter : Filter := .loose
  disposalInterface : String := Framework.disposableInterface
  artifactSuffix : String := Artifact.defaultSuffix
  includeFramework : Bool := true
  /-- Whether to report types with nothing to clean up. -/
  reportEmptyWork : Bool := false
  diagnostics : List Diagnostic := []
  deriving DecidableEq, Repr, Inhabited

namespace Config

/-- The choices of the command line. -/
def standard (strict : Bool := false) (reportEmptyWork : Bool := false) : Config where
  filter := if strict then .strict Framework.disposableInterface else .loose
  reportEmptyWork := reportEmptyWork
  diagnostics := [.notPartial, .hookSignature]

/-- The checks that run: those listed, and the one for empty work if it is asked for. -/
def enabledDiagnostics (c : Config) : List Diagnostic :=
  if c.reportEmptyWork && !c.diagnostics.contains .nothingToDispose then
    c.diagnostics ++ [.nothingToDispose]
  else c.diagnostics

end Config

end Disposal
