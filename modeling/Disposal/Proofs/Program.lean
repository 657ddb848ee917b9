import Disposal.Text.Blank
import Mathlib.Data.List.Basic

/-!
# Source text as a program

Just enough of the language to run a class whose methods test flags, return, set flags and call
methods.  A text is a list of words; words are grouped by braces into items; items are read as
statements and as the members of a class; and a class is run.

* `Program.words` are the words of a text, and `Program.items?` are its items;
* `Program.ClassCode.read?` reads a text with one class in it;
* `Program.ClassCode.run` runs a list of calls from outside on a new object and gives the calls
  that were made on others, in order;
* `Program.words_append` and `Program.Reads` are what texts can be put together by.
-/

namespace Disposal.Program

/-! ### Words -/

/-- The characters of names: letters, digits and what else can stand in an identifier. -/
def isNameChar (c : Char) : Bool :=
  c.isAlphanum || c == '_' || c == '@' || c == '\\' || (128 ≤ c.toNat && !Text.isBlank c)

/-- The word read so far, if there is one.  Its characters are in reverse order. -/
def flush (word : List Char) : List String :=
  if word = [] then [] else [String.ofList word.reverse]

/-- The words of a text, given the word read so far. -/
def wordsFrom : (word : List Char) → List Char → List String
  | word, [] => flush word
  | word, c :: cs =>
    if isNameChar c then wordsFrom (c :: word) cs
    else if Text.isBlank c then flush word ++ wordsFrom [] cs
    else flush word ++ String.singleton c :: wordsFrom [] cs

/-- The words of a text: names as a whole, other characters one by one, no blanks. -/
def words (s : String) : List String := wordsFrom [] s.toList

/-- A name: some characters of names, and no others.  Every identifier is one. -/
def IsName (s : String) : Prop := s ≠ "" ∧ ∀ c ∈ s.toList, isNameChar c = true

instance (s : String) : Decidable (IsName s) :=
  decidable_of_iff (s ≠ "" ∧ s.toList.all isNameChar = true) (by simp [IsName])

theorem wordsFrom_append {c : Char} (hc : isNameChar c = false) (word a b : List Char) :
    wordsFrom word (a ++ c :: b) = wordsFrom word a ++ wordsFrom [] (c :: b) := by
  induction a generalizing word with
  | nil => by_cases hb : Text.isBlank c <;> simp [wordsFrom, hc, hb, flush]
  | cons d a ih =>
    rw [List.cons_append, wordsFrom, wordsFrom]
    split_ifs
    · exact ih _
    · rw [ih, List.append_assoc]
    · rw [ih, List.append_assoc, List.cons_append]

theorem words_append {a b : String} (h : b.toList.head?.all (!isNameChar ·) = true) :
    words (a ++ b) = words a ++ words b := by
  rw [words, words, words, String.toList_append]
  cases hb : b.toList with
  | nil => simp [wordsFrom, flush]
  | cons c cs =>
    have hc : isNameChar c = false := by simpa [hb] using h
    exact wordsFrom_append hc _ _ _

theorem wordsFrom_singleton_append {c : Char} (hc : isNameChar c = false) (b : List Char) :
    wordsFrom [] (c :: b) = wordsFrom [] [c] ++ wordsFrom [] b := by
  rw [wordsFrom, wordsFrom]
  simp only [hc, Bool.false_eq_true, ↓reduceIte]
  split_ifs <;> simp [wordsFrom, flush]

theorem words_append_right {a b : String} (h : a.toList.getLast?.all (!isNameChar ·) = true) :
    words (a ++ b) = words a ++ words b := by
  rw [words, words, words, String.toList_append]
  rcases List.eq_nil_or_concat a.toList with ha | ⟨front, c, ha⟩
  · simp [ha, wordsFrom, flush]
  · have hc : isNameChar c = false := by simpa [ha] using h
    rw [ha, List.concat_eq_append, List.append_assoc, List.singleton_append,
      wordsFrom_append hc, wordsFrom_append hc, wordsFrom_singleton_append hc, List.append_assoc]

theorem wordsFrom_name {cs : List Char} (h : ∀ c ∈ cs, isNameChar c = true) (word : List Char) :
    wordsFrom word cs = flush (cs.reverse ++ word) := by
  induction cs generalizing word with
  | nil => rfl
  | cons c cs ih =>
    rw [wordsFrom, if_pos (h c List.mem_cons_self), ih fun d hd => h d (List.mem_cons_of_mem _ hd)]
    simp

theorem IsName.words_eq {s : String} (h : IsName s) : words s = [s] := by
  have hne : s.toList ≠ [] := by simpa using h.1
  rw [words, wordsFrom_name h.2]
  simp [flush, hne]

/-! ### Items -/

/-- A part of a text: some words up to a semicolon, or what stands between braces with the words
before it. -/
inductive Item where
  | simple (words : List String)
  | block (header : List String) (body : List Item)

/-- What has been read: the blocks still open with the items before them, innermost first, the
items of the current block, the last first, and the words behind them, likewise. -/
structure Reading where
  outer : List (List String × List Item) := []
  items : List Item := []
  pending : List String := []

/-- Read one more word.  Between an item and the brace that closes a block nothing can stand. -/
def Reading.step (r : Reading) (w : String) : Option Reading :=
  if w = ";" then some ⟨r.outer, .simple r.pending.reverse :: r.items, []⟩
  else if w = "\x7b" then some ⟨(r.pending.reverse, r.items) :: r.outer, [], []⟩
  else if w = "\x7d" then
    match r.pending, r.outer with
    | [], (header, before) :: outer => some ⟨outer, .block header r.items.reverse :: before, []⟩
    | _, _ => none
  else some ⟨r.outer, r.items, w :: r.pending⟩

/-- The items of some words; none if braces do not match or the last item has no end. -/
def items? (ws : List String) : Option (List Item) :=
  match ws.foldlM Reading.step {} with
  | some ⟨[], items, []⟩ => some items.reverse
  | _ => none

/-- The words read as the items, wherever they stand. -/
def Reads (ws : List String) (items : List Item) : Prop :=
  ∀ outer before, ws.foldlM Reading.step ⟨outer, before, []⟩ =
    some ⟨outer, items.reverse ++ before, []⟩

/-- A word that ends no item and is no brace. -/
def IsPlain (w : String) : Prop := w ≠ ";" ∧ w ≠ "\x7b" ∧ w ≠ "\x7d"

instance (w : String) : Decidable (IsPlain w) :=
  inferInstanceAs (Decidable (w ≠ ";" ∧ w ≠ "\x7b" ∧ w ≠ "\x7d"))

theorem Reading.step_plain {w : String} (h : IsPlain w) (r : Reading) :
    r.step w = some ⟨r.outer, r.items, w :: r.pending⟩ := by
  simp [step, h.1, h.2.1, h.2.2]

theorem foldlM_plain {ws : List String} (h : ∀ w ∈ ws, IsPlain w) (r : Reading) :
    ws.foldlM Reading.step r = some ⟨r.outer, r.items, ws.reverse ++ r.pending⟩ := by
  induction ws generalizing r with
  | nil => rfl
  | cons w ws ih =>
    rw [List.foldlM_cons, Reading.step_plain (h w List.mem_cons_self), Option.bind_eq_bind,
      Option.bind_some, ih fun v hv => h v (List.mem_cons_of_mem _ hv)]
    simp

theorem Reads.nil : Reads [] [] := fun _ _ => rfl

theorem Reads.append {ws vs : List String} {is js : List Item} (h : Reads ws is)
    (h' : Reads vs js) : Reads (ws ++ vs) (is ++ js) := by
  intro outer before
  rw [List.foldlM_append, h, Option.bind_eq_bind, Option.bind_some, h']
  simp

theorem Reads.simple {ws : List String} (h : ∀ w ∈ ws, IsPlain w) :
    Reads (ws ++ [";"]) [.simple ws] := by
  intro outer before
  rw [List.foldlM_append, foldlM_plain h]
  simp [Reading.step]

theorem Reads.block {header body : List String} {is : List Item} (hheader : ∀ w ∈ header, IsPlain w)
    (hbody : Reads body is) :
    Reads (header ++ ["\x7b"] ++ body ++ ["\x7d"]) [.block header is] := by
  intro outer before
  have hopen : (header ++ ["\x7b"]).foldlM Reading.step ⟨outer, before, []⟩ =
      some ⟨(header, before) :: outer, [], []⟩ := by
    rw [List.foldlM_append, foldlM_plain hheader]
    simp [Reading.step]
  rw [List.append_assoc, List.foldlM_append, hopen, Option.bind_eq_bind, Option.bind_some,
    List.foldlM_append, hbody, Option.bind_eq_bind, Option.bind_some]
  simp [Reading.step]

theorem Reads.items?_eq {ws : List String} {is : List Item} (h : Reads ws is) :
    items? ws = some is := by
  rw [items?, h]
  simp

/-! ### Statements -/

/-- A statement: return from the method, do something if a flag is set, set a flag, or call a
method. -/
inductive Statement where
  | leave
  | ifFlag (flag : String) (body : List Statement)
  | assign (flag : String) (value : Bool)
  | call (words : List String)

/-- The value of a word for a truth value. -/
def truth? (w : String) : Option Bool :=
  if w = "true" then some true else if w = "false" then some false else none

/-- The statement of the words before a semicolon. -/
def simpleStatement? : List String → Option Statement
  | ["return"] => some .leave
  | [flag, "=", value] => (truth? value).map (.assign flag)
  | ws => if ws.contains "=" then none else some (.call ws)

/-- The flag that the words before a block test. -/
def condition? : List String → Option String
  | ["if", "(", flag, ")"] => some flag
  | _ => none

mutual
/-- The statement that an item is. -/
def Item.statement? : Item → Option Statement
  | .simple ws => simpleStatement? ws
  | .block header body =>
    (condition? header).bind fun flag => (Item.statements? body).map (.ifFlag flag)

/-- The statements that some items are. -/
def Item.statements? : List Item → Option (List Statement)
  | [] => some []
  | i :: is => i.statement?.bind fun s => (Item.statements? is).map (s :: ·)
end

/-! ### Classes -/

/-- A method without a result and with at most one parameter, which is a flag. -/
structure Method where
  access : String
  name : String
  parameter : Option String
  body : List Statement

/-- A class: its flags with their first values, its methods, and what its finalizer does. -/
structure ClassCode where
  name : String
  flags : List (String × Bool)
  methods : List Method
  finalizer : Option (List Statement)

/-- A class without members. -/
def ClassCode.empty (name : String) : ClassCode := ⟨name, [], [], none⟩

/-- Add the member that the words before a semicolon declare: a flag or the finalizer. -/
def ClassCode.addSimple? (code : ClassCode) : List String → Option ClassCode
  | ["private", "bool", flag, "=", value] =>
    (truth? value).map fun b => { code with flags := code.flags ++ [(flag, b)] }
  | "~" :: name :: "(" :: ")" :: "=" :: ">" :: ws =>
    if name = code.name ∧ code.finalizer.isNone then
      (simpleStatement? ws).map fun s => { code with finalizer := some [s] }
    else none
  | _ => none

/-- Add the method with the given words before its body. -/
def ClassCode.addMethod? (code : ClassCode) (body : List Statement) :
    List String → Option ClassCode
  | [access, "void", name, "(", ")"] =>
    some { code with methods := code.methods ++ [⟨access, name, none, body⟩] }
  | [access, "void", name, "(", "bool", parameter, ")"] =>
    some { code with methods := code.methods ++ [⟨access, name, some parameter, body⟩] }
  | _ => none

/-- Add the member that an item declares. -/
def ClassCode.add? (code : ClassCode) : Item → Option ClassCode
  | .simple ws => code.addSimple? ws
  | .block header body => (Item.statements? body).bind fun b => code.addMethod? b header

/-- The name of the class that the words before a block declare. -/
def className? (header : List String) : Option String :=
  match header.reverse with
  | name :: "class" :: "partial" :: _ => some name
  | _ => none

/-- Read a text with a using directive and one class in one namespace. -/
def ClassCode.read? (text : String) : Option ClassCode :=
  match items? (words text) with
  | some [.simple ("using" :: _), .block ("namespace" :: _) [.block header members]] =>
    (className? header).bind fun name => members.foldlM add? (empty name)
  | _ => none

/-! ### Running a class -/

/-- The values of flags. -/
abbrev Flags := List (String × Bool)

/-- Give a flag a new value; none if there is no such flag. -/
def Flags.set? (flags : Flags) (name : String) (value : Bool) : Option Flags :=
  if flags.any (·.1 = name) then
    some (flags.map fun f => if f.1 = name then (name, value) else f)
  else none

/-- Where a run of some statements ends: whether the method is left, the flags of the object, and
the calls made on others. -/
structure Outcome where
  left : Bool
  flags : Flags
  calls : List String
  deriving DecidableEq, Repr

/-- What a call does to the flags of the object, and the calls it makes on others. -/
abbrev Invoke := List String → Flags → Option (Flags × List String)

mutual
/-- Run a statement, given what calls do and the value of the parameter.  A run is stuck at a
flag that does not exist and at a call that is. -/
def Statement.exec (invoke : Invoke) (parameter : Flags) : Statement → Flags → Option Outcome
  | .leave, flags => some ⟨true, flags, []⟩
  | .ifFlag name body, flags =>
    ((parameter ++ flags).lookup name).bind fun b =>
      if b then Statement.execAll invoke parameter body flags else some ⟨false, flags, []⟩
  | .assign name value, flags => (flags.set? name value).map fun flags => ⟨false, flags, []⟩
  | .call ws, flags => (invoke ws flags).map fun r => ⟨false, r.1, r.2⟩

/-- Run statements one after the other until the method is left. -/
def Statement.execAll (invoke : Invoke) (parameter : Flags) :
    List Statement → Flags → Option Outcome
  | [], flags => some ⟨false, flags, []⟩
  | s :: ss, flags =>
    (s.exec invoke parameter flags).bind fun o =>
      if o.left then some o
      else (Statement.execAll invoke parameter ss o.flags).map fun p =>
        { p with calls := o.calls ++ p.calls }
end

/-- The call that tells the runtime that there is nothing left to finalize. -/
def suppressFinalize : List String := ["GC", ".", "SuppressFinalize", "(", "this", ")"]

namespace ClassCode

/-- The method of the class that a call names, with the value of its parameter. -/
def callee? (code : ClassCode) : List String → Option (Method × Flags)
  | [name, "(", ")"] =>
    (code.methods.find? fun m => m.name = name ∧ m.parameter = none).map fun m => (m, [])
  | [name, "(", arg, ")"] => (truth? arg).bind fun b =>
    (code.methods.find? fun m => m.name = name ∧ m.parameter.isSome).map fun m =>
      (m, m.parameter.toList.map fun p => (p, b))
  | _ => none

/-- What a call does: a method of the class is run, and any other call but one to the runtime is
noted.  Calls nest at most `depth` deep. -/
def invoke (code : ClassCode) : (depth : Nat) → Invoke
  | 0, _, _ => none
  | depth + 1, ws, flags =>
    match code.callee? ws with
    | some (m, parameter) =>
      (Statement.execAll (invoke code depth) parameter m.body flags).map fun o => (o.flags, o.calls)
    | none => some (flags, if ws = suppressFinalize then [] else [String.join ws])

/-- The calls that come from outside: the public method `Dispose()`, and the finalizer. -/
inductive Entry where
  | dispose
  | finalizer
  deriving DecidableEq, Repr

/-- The statements that a call from outside runs. -/
def entry? (code : ClassCode) : Entry → Option (List Statement)
  | .dispose => (code.methods.find? fun m =>
      m.access = "public" ∧ m.name = "Dispose" ∧ m.parameter = none).map Method.body
  | .finalizer => code.finalizer

/-- Run calls from outside one after the other: the calls made on others. -/
def runFrom (code : ClassCode) (depth : Nat) : Flags → List Entry → Option (List String)
  | _, [] => some []
  | flags, e :: es =>
    (code.entry? e).bind fun body =>
      (Statement.execAll (code.invoke depth) [] body flags).bind fun o =>
        (runFrom code depth o.flags es).map (o.calls ++ ·)

/-- Run calls from outside on a new object. -/
def run (code : ClassCode) (depth : Nat) (es : List Entry) : Option (List String) :=
  code.runFrom depth code.flags es

end ClassCode

end Disposal.Program
