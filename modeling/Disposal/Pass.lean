import Disposal.Config
import Disposal.Model
import Disposal.Sink

/-!
# A pass over some files

One pass takes parsed files to generated sources: candidates are collected, the semantic model is
built, candidates are resolved, checks run on the types that get code, and the sources are
rendered.  Nothing is given to a sink before all of that is done, so a cancelled pass leaves no
trace there.

* `runPass` is a pass with the answers of any provider;
* `Pass` is everything a pass computes with the model of its own files, `Pass.ofFiles` computes it;
* `Pass.result?` is the result, `Pass.deliver` hands the sources to a sink.
-/

namespace Disposal

/-- What a pass produced. -/
structure PassResult where
  workItems : List WorkItem
  /-- Generated sources by key. -/
  artifacts : List (String × String)
  findings : List Finding
  candidateCount : Nat
  files : List Path
  deriving DecidableEq, Repr, Inhabited

/-- Why a pass has no result. -/
inductive PassError where
  | cancelled
  | duplicate (e : DuplicateArtifact)
  deriving DecidableEq, Repr, Inhabited

/-- The wording of an error. -/
def PassError.message : PassError → String
  | .cancelled => "analysis pass cancelled"
  | .duplicate e => e.message

/-- Store a source under its key; a key keeps its first place and its last source. -/
def putArtifact (key text : String) : List (String × String) → List (String × String)
  | [] => [(key, text)]
  | (k, t) :: rest => if k = key then (k, text) :: rest else (k, t) :: putArtifact key text rest

/-- The sources of some work items. -/
def renderAll (suffix : String) (items : List WorkItem) : List (String × String) :=
  items.foldl (fun artifacts item => putArtifact (item.artifactKey suffix) item.render artifacts) []

/-- The findings of the enabled checks, type by type. -/
def runDiagnostics {ν : Type} (P : Provider ν) (config : Config)
    (resolved : List (WorkItem × TypeSymbol)) : List Finding :=
  resolved.flatMap fun (item, t) =>
    config.enabledDiagnostics.flatMap fun d => d.run item t (P.members t)

namespace PassResult

/-- What a pass over some files produces from the work among its candidates, found with the
answers of a provider. -/
def ofWork (P : Provider Candidate) (config : Config) (files : List SourceFile)
    (candidates : List Candidate) (work : List (WorkItem × TypeSymbol × Candidate)) :
    PassResult where
  workItems := work.map Prod.fst
  artifacts := renderAll config.artifactSuffix (work.map Prod.fst)
  findings := runDiagnostics P config (work.map fun (item, t, _) => (item, t))
  candidateCount := candidates.length
  files := files.map SourceFile.path

/-- The outcome of a pass whose sources go to a sink, and the sink afterwards.  Without a result
the pass was cancelled. -/
def deliver (result? : Option PassResult) (sink : Sink) : Except PassError PassResult × Sink :=
  match result? with
  | none => (.error .cancelled, sink)
  | some result =>
    match sink.addAll result.artifacts with
    | (sink, none) => (.ok result, sink)
    | (sink, some e) => (.error (.duplicate e), sink)

end PassResult

/-- One pass over some files with the answers of a given provider: its outcome, and the sink
afterwards. -/
def runPass (P : Provider Candidate) (config : Config) (files : List SourceFile)
    (cancel : Cancellation := .never) (sink : Sink := []) : Except PassError PassResult × Sink :=
  let candidates := Candidate.collect config.filter files
  let resolution := P.resolve candidates config.disposalInterface cancel
  PassResult.deliver (resolution.resolved?.map (.ofWork P config files candidates)) sink

/-- Everything that a pass computes. -/
structure Pass where
  config : Config
  files : List SourceFile
  candidates : List Candidate
  model : Model
  resolution : Resolution Candidate
  deriving Repr, Inhabited

namespace Pass

/-- A pass over some files. -/
def ofFiles (config : Config) (files : List SourceFile) (cancel : Cancellation := .never) : Pass :=
  let candidates := Candidate.collect config.filter files
  let model := Model.ofFiles config.includeFramework files
  { config, files, candidates, model
    resolution := model.provider.resolve candidates config.disposalInterface cancel }

/-- The result of a pass that was not cancelled. -/
def result? (p : Pass) : Option PassResult :=
  p.resolution.resolved?.map (.ofWork p.model.provider p.config p.files p.candidates)

/-- What a pass says until its sources are rendered. -/
def analysisLog (p : Pass) : List Log.Record :=
  Candidate.collectLog p.config.filter p.candidates ++ p.model.log p.files ++
    p.resolution.log p.config.disposalInterface

/-- What a pass says at its end. -/
def finalLog (r : PassResult) : List Log.Record :=
  [⟨.info, .generator, "Pass complete: " ++ Nat.repr r.files.length ++ " file(s), " ++
    Nat.repr r.candidateCount ++ " candidate(s), " ++ Nat.repr r.artifacts.length ++
    " artifact(s), " ++ Nat.repr r.findings.length ++ " finding(s)"⟩]

/-- The result of a pass whose sources go to a sink, and the sink afterwards. -/
def deliver (p : Pass) (sink : Sink) : Except PassError PassResult × Sink :=
  PassResult.deliver p.result? sink

/-- The result of a pass without a sink. -/
def result (p : Pass) : Except PassError PassResult := (p.deliver []).1

/-- What a pass says, given its outcome. -/
def log (p : Pass) (outcome : Except PassError PassResult) : List Log.Record :=
  p.analysisLog ++ match outcome with
    | .ok result => finalLog result
    | .error _ => []

end Pass

end Disposal
