import Disposal.Disk.Write
import Disposal.Load
import Disposal.Report
import Disposal.Search

/-!
# The command

The command analyses a source file or the source files below a directory and shows the generated
sources, or writes them to a directory.

* `Command.Options` are the options of a run as they are after the arguments were read;
* `Command.run` runs the command on a disk.  The parser of the sources and the display for the
  report are given from outside.
-/

namespace Disposal.Command

/-- The options of a run. -/
structure Options where
  /-- What is analysed: a path from the root without links that something stands at.  Both are
  seen to when the arguments are read. -/
  target : Path
  /-- The directory that generated sources are written to; they are shown if there is none. -/
  out : Option Path := none
  strict : Bool := false
  reportEmpty : Bool := false
  verbose : Bool := false
  deriving DecidableEq, Repr, Inhabited

/-! ### Outcomes -/

/-- Why a target is rejected. -/
inductive BadTarget where
  | noSource (target : Path)
  /-- What stands there is neither a file nor a directory. -/
  | neither (target : Path)
  deriving DecidableEq, Repr, Inhabited

/-- The wording of a rejection. -/
def BadTarget.message : BadTarget → String
  | .noSource target => "Target file must have .cs extension, got: " ++ target.toString
  | .neither target => "Target path is neither a file nor a directory: " ++ target.toString

/-- Why a run cannot be completed. -/
inductive Failure where
  | search (e : Search.Failure)
  /-- Writing a generated source failed. -/
  | disk (e : OsError)
  /-- A part of the report is refused. -/
  | display (e : Display.Fault)
  deriving DecidableEq, Repr, Inhabited

/-- The wording of a failure. -/
def Failure.message : Failure → String
  | .search e => e.message
  | .disk e => e.message
  | .display e => e.message

/-- How a run ends. -/
inductive Outcome where
  | rejected (bad : BadTarget)
  | failed (e : Failure)
  /-- The run is complete; `lines` are shown. -/
  | complete (success : Bool) (lines : List String)
  deriving DecidableEq, Repr, Inhabited

/-- The exit code of the program. -/
def Outcome.exitCode : Outcome → Nat
  | .rejected _ => 2
  | .failed _ => 1
  | .complete success _ => if success then 0 else 1

/-- A run: how it ends, the disk afterwards, and what is said. -/
structure Run where
  outcome : Outcome
  disk : Disk
  log : List Log.Record
  deriving Repr, Inhabited

/-! ### Running -/

/-- The source files of a target, or how a run ends without them, and what looking for them
says. -/
def targetFiles (disk : Disk) (target : Path) : Except Outcome (List Path) × List Log.Record :=
  if disk.isFile target then
    (if Search.isSource target then .ok [target] else .error (.rejected (.noSource target)), [])
  else if disk.isDirectory target then
    let found := Search.walk disk {} target
    let said := Search.log disk target found
    match found with
    | .error e => (.error (.failed (.search e)), said)
    | .ok found => (.ok found.files, said ++
        if found.files.isEmpty then
          [⟨.warning, .command, "No .cs files found under " ++ target.toString⟩] else [])
  else (.error (.rejected (.neither target)), [])

/-- The report on a result. -/
def report (disk : Disk) (o : Options) (result : PassResult) : List Display.Part :=
  (if o.out.isNone then Report.artifacts result.artifacts else []) ++
    Report.findings disk.shorten o.verbose result.findings ++
    [Report.summary disk.shorten
      ⟨result.files.length, result.candidateCount, result.artifacts.length, result.findings⟩ o.out]

/-- Analyse source files; write the generated sources if a directory is given for them. -/
def analyse (disk : Disk) (parse : Parser) (display : Display) (o : Options)
    (files : List Path) : Run :=
  let loaded := files.map (Loaded.ofPath disk parse)
  let pass := Pass.ofFiles (.standard o.strict o.reportEmpty) (Loaded.files loaded)
  let said := loaded.flatMap Loaded.log ++ pass.analysisLog
  match pass.result? with
  | none => ⟨.complete true [], disk, said⟩
  | some result =>
    let complete (disk : Disk) (said : List Log.Record) : Run :=
      ⟨match display.printAll (report disk o result) with
        | .ok lines => .complete (!result.findings.any Finding.isError) lines
        | .error e => .failed (.display e), disk, said ++ Pass.finalLog result⟩
    match o.out with
    | none => complete disk said
    | some out =>
      match disk.writeAll out result.artifacts with
      | (disk, written, none) => complete disk (said ++ Disk.writeLog written)
      | (disk, written, some e) => ⟨.failed (.disk e), disk, said ++ Disk.writeLog written⟩

/-- Run the command. -/
def run (disk : Disk) (parse : Parser) (display : Display) (o : Options) : Run :=
  match targetFiles disk o.target with
  | (.error outcome, said) => ⟨outcome, disk, said⟩
  | (.ok files, said) =>
    let run := analyse disk parse display o files
    { run with log := said ++ run.log }

/-- The log lines shown: warnings and errors, and with `verbose` also what was done. -/
def shownLog (verbose : Bool) (log : List Log.Record) : List String :=
  (log.filter (·.atLeast (if verbose then .info else .warning))).map Log.Record.line

end Disposal.Command
