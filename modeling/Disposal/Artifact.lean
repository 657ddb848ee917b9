import Disposal.WorkItem

/-!
# Generated sources

The source text generated for a work item: a partial class that implements `Dispose()`.  The
text is a list of lines, each blank or at some nesting depth; four spaces stand for one level
and every line ends with a line feed.

* `Artifact.Line` is a line, `Artifact.block` a header with its body between braces;
* `WorkItem.lines` are the lines for a work item, `WorkItem.render` is their text;
* `WorkItem.artifactKey` is the name that the text is stored under.
-/

namespace Disposal

namespace Artifact

/-- A line of generated source. -/
inductive Line where
  | blank
  | code (depth : Nat) (text : String)
  deriving DecidableEq, Repr, Inhabited

/-- The text of a line without its end. -/
def Line.toString : Line → String
  | .blank => ""
  | .code depth text => String.ofList (List.replicate (4 * depth) ' ') ++ text

/-- The text of a list of lines. -/
def text (lines : List Line) : String := String.join (lines.map fun l => l.toString ++ "\n")

theorem text_cons (l : Line) (ls : List Line) : text (l :: ls) = l.toString ++ "\n" ++ text ls :=
  String.join_cons

theorem text_append (ls ms : List Line) : text (ls ++ ms) = text ls ++ text ms := by
  rw [text, List.map_append, String.join_append]
  rfl

/-- A header and its body between braces. -/
def block (depth : Nat) (header : String) (body : List Line) : List Line :=
  [.code depth header, .code depth "\x7b"] ++ body ++ [.code depth "\x7d"]

/-- Parts of a body with a blank line between any two of them. -/
def paragraphs : List (List Line) → List Line
  | [] => []
  | [part] => part
  | part :: parts => part ++ .blank :: paragraphs parts

/-- The suffix of generated sources. -/
def defaultSuffix : String := ".g.cs"

/-- The field that remembers whether the object was disposed. -/
def disposedFlag : String := "_isDisposed"

/-- The parameter that tells `Dispose()` from the finalizer. -/
def disposingParameter : String := "isDisposing"

end Artifact

namespace WorkItem

open Artifact

/-- The statements that clean up managed resources.  A managed hook owns the members. -/
def managedCleanup (item : WorkItem) : List Line :=
  if item.managedHook then [.code 4 "DisposeManaged();"]
  else item.memberNames.map fun name => .code 4 (name ++ ".Dispose();")

/-- The public method `Dispose()`; its body is empty when there is nothing to clean up. -/
def publicDispose (item : WorkItem) : List Line :=
  block 2 "public void Dispose()" <|
    if item.hasWork then [.code 3 "Dispose(true);", .code 3 "GC.SuppressFinalize(this);"] else []

/-- The private method that cleans up once. -/
def privateDispose (item : WorkItem) : List Line :=
  block 2 ("private void Dispose(bool " ++ disposingParameter ++ ")") <| paragraphs <|
    [block 3 ("if (" ++ disposedFlag ++ ")") [.code 4 "return;"],
      block 3 ("if (" ++ disposingParameter ++ ")") item.managedCleanup] ++
    (if item.unmanagedHook then [[.code 3 "DisposeUnmanaged();"]] else []) ++
    [[.code 3 (disposedFlag ++ " = true;")]]

/-- The members of the generated class. -/
def members (item : WorkItem) : List (List Line) :=
  (if item.hasWork then [[.code 2 ("private bool " ++ disposedFlag ++ " = false;")]] else []) ++
    [item.publicDispose] ++
    (if item.hasWork then [item.privateDispose] else []) ++
    (if item.unmanagedHook then
      [[.code 2 ("~" ++ item.className ++ "() => Dispose(false);")]] else [])

/-- The header of the generated class. -/
def classHeader (item : WorkItem) : String :=
  (if item.accessibility.text = "" then "" else item.accessibility.text ++ " ") ++
    "partial class " ++ item.className

/-- The lines generated for a work item. -/
def lines (item : WorkItem) : List Line :=
  [.code 0 "using System;", .blank] ++
    block 0 ("namespace " ++ item.namespaceName)
      (block 1 item.classHeader (paragraphs item.members))

/-- The source text generated for a work item. -/
def render (item : WorkItem) : String := text item.lines

/-- The name that the source generated for a work item is stored under. -/
def artifactKey (item : WorkItem) (suffix : String := Artifact.defaultSuffix) : String :=
  item.namespaceName ++ "." ++ item.className ++ ".Dispose" ++ suffix

end WorkItem

end Disposal
