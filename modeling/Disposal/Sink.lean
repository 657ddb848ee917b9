import Disposal.Text.Quoted

/-!
# Sinks

A sink takes generated sources under their keys and keeps them in the order they come.  A key is
taken once.
-/

namespace Disposal

/-- Generated sources by key, in order. -/
abbrev Sink := List (String × String)

/-- A key was added a second time. -/
structure DuplicateArtifact where
  key : String
  deriving DecidableEq, Repr, Inhabited

/-- The wording of the error. -/
def DuplicateArtifact.message (e : DuplicateArtifact) : String :=
  "Artifact " ++ Text.quote e.key ++ " was already added"

namespace Sink

/-- Add a source. -/
def add (sink : Sink) (key text : String) : Except DuplicateArtifact Sink :=
  if (sink.lookup key).isSome then .error ⟨key⟩ else .ok (sink ++ [(key, text)])

/-- Add sources up to the first key that is taken: the sink then, and the key refused. -/
def addAll (sink : Sink) : List (String × String) → Sink × Option DuplicateArtifact
  | [] => (sink, none)
  | (key, text) :: rest =>
    match sink.add key text with
    | .ok sink => addAll sink rest
    | .error e => (sink, some e)

end Sink

end Disposal
