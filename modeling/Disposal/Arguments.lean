import Disposal.Command

/-!
# The command line

`generate TARGET [--out DIR] [--strict] [--report-empty] [--verbose]`: the outer layer of the
command reads its arguments and looks up its target.  What follows, `Command.run`, is told from the
options that come out of this, whatever reads them.

* `Arguments.read?` reads arguments, `Arguments.options?` are the options of a run with them;
* `Arguments.request` is what some arguments ask for.

Shell completion and the texts that `--help` shows are left out.
-/

namespace Disposal

/-- The options and positional arguments of the command, as they are written. -/
structure Arguments where
  targets : List String := []
  out : Option String := none
  strict : Bool := false
  reportEmpty : Bool := false
  verbose : Bool := false
  help : Bool := false
  deriving DecidableEq, Repr, Inhabited

namespace Arguments

/-- An option of the command. -/
inductive Flag where
  | out
  | strict
  | reportEmpty
  | verbose
  | help
  deriving DecidableEq, Repr, Inhabited

/-- The option with a long name. -/
def Flag.ofLong? : String → Option Flag
  | "--out" => some .out
  | "--strict" => some .strict
  | "--report-empty" => some .reportEmpty
  | "--verbose" => some .verbose
  | "--help" => some .help
  | _ => none

/-- The option with a letter. -/
def Flag.ofShort? : Char → Option Flag
  | 'o' => some .out
  | 'v' => some .verbose
  | _ => none

/-- Set an option that takes no value; `none` if it needs one. -/
def set? (a : Arguments) : Flag → Option Arguments
  | .out => none
  | .strict => some { a with strict := true }
  | .reportEmpty => some { a with reportEmpty := true }
  | .verbose => some { a with verbose := true }
  | .help => some { a with help := true }

/-- What an argument does: done, or the next argument is the output directory. -/
inductive Change where
  | done (a : Arguments)
  | needsOut (a : Arguments)
  | invalid
  deriving DecidableEq, Repr, Inhabited

/-- Read an argument `--name` or `--name=value`. -/
def readLong (a : Arguments) (arg : List Char) : Change :=
  let name := String.ofList (arg.takeWhile (· ≠ '='))
  match Flag.ofLong? name, arg.dropWhile (· ≠ '=') with
  | some .out, [] => .needsOut a
  | some .out, _ :: value => .done { a with out := some (String.ofList value) }
  | some flag, [] => match a.set? flag with
    | some a => .done a
    | none => .invalid
  | _, _ => .invalid

/-- Read the letters of an argument `-abc`; what follows the letter for the output directory is
its value. -/
def readShort (a : Arguments) : List Char → Change
  | [] => .done a
  | c :: cs =>
    match Flag.ofShort? c with
    | none => .invalid
    | some .out =>
      if cs.isEmpty then .needsOut a else .done { a with out := some (String.ofList cs) }
    | some flag => match a.set? flag with
      | some a => readShort a cs
      | none => .invalid

/-- Read one argument.  An argument that does not start with a dash, and a dash alone, is
positional. -/
def readArg (a : Arguments) (arg : String) : Change :=
  match arg.toList with
  | '-' :: '-' :: cs => readLong a ('-' :: '-' :: cs)
  | '-' :: c :: cs => readShort a (c :: cs)
  | _ => .done { a with targets := a.targets ++ [arg] }

/-- Read the arguments of the command; `none` if they are not valid.  After `--` all arguments
are positional. -/
def readFrom? : Arguments → List String → Option Arguments
  | a, [] => some a
  | a, arg :: args =>
    if arg = "--" then some { a with targets := a.targets ++ args }
    else match readArg a arg, args with
      | .done a, args => readFrom? a args
      | .needsOut a, value :: args => readFrom? { a with out := some value } args
      | .needsOut _, [] => none
      | .invalid, _ => none

/-- Read the arguments of the program: the name of the command and its own arguments.  Help can be
asked for in front of them. -/
def read? : List String → Option Arguments
  | "--help" :: _ => some { help := true }
  | "generate" :: args => readFrom? {} args
  | "--" :: "generate" :: args => readFrom? {} args
  | _ => none

/-- The form of valid arguments. -/
def usage : String :=
  "Usage: disposegen generate TARGET [--out DIR] [--strict] [--report-empty] [--verbose]"

/-- Whether a written path can be given to a disk: it does not hold the character that ends a
path. -/
def isWritable (path : String) : Bool := !path.toList.contains '\x00'

/-- The options of a run with some arguments: there is one target, something stands there, and its
path is followed to the end of its links. -/
def options? (disk : Disk) (a : Arguments) : Option Command.Options :=
  match a.targets with
  | [target] =>
    let target := disk.realPath (.ofString target)
    if disk.holds target && a.out.all isWritable then
      some { target, out := a.out.map .ofString, strict := a.strict, reportEmpty := a.reportEmpty
             verbose := a.verbose }
    else none
  | _ => none

/-- What arguments ask for. -/
inductive Request where
  | generate (o : Command.Options)
  | help
  | invalid
  deriving DecidableEq, Repr, Inhabited

/-- What the arguments of the program ask for. -/
def request (disk : Disk) (args : List String) : Request :=
  match read? args with
  | none => .invalid
  | some a => if a.help then .help else (a.options? disk).elim .invalid .generate

end Arguments

end Disposal
