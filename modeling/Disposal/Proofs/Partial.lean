import Disposal.Proofs.Generation
import Mathlib.Data.List.Perm.Basic

/-!
# Types declared in parts

A type may be declared in several places, in one file or in many, and types are nested in one
another.  The model has one symbol for a name and gives it what is written in the declarations
of that name, and nothing else.

* `Interleaves`: a list is put together from several lists, each kept in its order;
* `Declaration.gatheredIn_ofType`, `SourceFile.gatheredIn_declarations`: the members recorded
  under any name are written directly in the declarations of that name, each of them once and in
  document order;
* `Sources.Merges` is what the symbol of a name says, `Sources.Gathers` which members it has;
* `Sources.nodup_keys_types`: no name has two symbols.

The main statement says that every declared name has exactly one symbol, with all of this.
For a name that is not empty the members are those of one declaration after the other, because
what is nested in a type has a longer name.  Classes whose name is missing have the empty name
outside of all namespaces, also inside one another, and then their members are mixed.
-/

namespace Disposal

open Declaration Reader

/-! ### Interleaving -/

/-- A list has the entries of some lists, each of them once, and keeps the order of each. -/
structure Interleaves {α : Type} (whole : List α) (parts : List (List α)) : Prop where
  perm : whole.Perm parts.flatten
  sublist : ∀ part ∈ parts, part.Sublist whole

namespace Interleaves

variable {α : Type} {whole more part : List α} {parts others : List (List α)}

theorem nil : Interleaves ([] : List α) [] := ⟨.refl _, by simp⟩

theorem singleton (part : List α) : Interleaves part [part] := ⟨by simp, by simp⟩

theorem append (h : Interleaves whole parts) (hmore : Interleaves more others) :
    Interleaves (whole ++ more) (parts ++ others) := by
  refine ⟨?_, fun part hpart => ?_⟩
  · rw [List.flatten_append]
    exact h.perm.append hmore.perm
  · rcases List.mem_append.1 hpart with hpart | hpart
    · exact (h.sublist part hpart).trans (List.sublist_append_left _ _)
    · exact (hmore.sublist part hpart).trans (List.sublist_append_right _ _)

/-- A first entry belongs to the first part. -/
theorem cons (x : α) (h : Interleaves whole (part :: parts)) :
    Interleaves (x :: whole) ((x :: part) :: parts) := by
  refine ⟨h.perm.cons x, fun p hp => ?_⟩
  rcases List.mem_cons.1 hp with rfl | hp
  · exact (h.sublist part List.mem_cons_self).cons_cons x
  · exact (h.sublist p (List.mem_cons_of_mem _ hp)).cons x

/-- What is put in front may be parts of its own. -/
theorem append_behind (h : Interleaves whole (part :: parts)) (hmore : Interleaves more others) :
    Interleaves (more ++ whole) (part :: (others ++ parts)) := by
  obtain ⟨hperm, hsublist⟩ := hmore.append h
  refine ⟨hperm.trans ?_, fun p hp => hsublist p ?_⟩
  · rw [List.flatten_append, List.flatten_cons, List.flatten_cons, List.flatten_append]
    exact List.perm_append_comm_assoc ..
  · simp only [List.mem_cons, List.mem_append] at hp ⊢
    tauto

end Interleaves

/-! ### Where members are written -/

/-- The places where members are written directly in a declaration: nodes of its body that
declare no types, with its scope. -/
def TypeDecl.places (d : TypeDecl) : List (Node × Scope) :=
  (d.node.memberNodes.filter fun c => c.typeKind?.isNone).map fun c => (c, d.scope)

/-- The members written at a place, with their scope. -/
def SourceFile.membersAt (f : SourceFile) (place : Node × Scope) : List (MemberDecl × Scope) :=
  (MemberDecl.ofNode f place.1).map fun m => (m, place.2)

/-- Members are written at places that interleave some lists of places, in the order of some
nodes. -/
structure Gathered (f : SourceFile) (ns : List Node) (members : List (MemberDecl × Scope))
    (parts : List (List (Node × Scope))) (places : List (Node × Scope)) : Prop where
  ordered : (places.map Prod.fst).Sublist ns
  written : members = places.flatMap f.membersAt
  interleaves : Interleaves places parts

namespace Gathered

variable {f : SourceFile} {m n : List Node} {members more : List (MemberDecl × Scope)}
variable {part places behind : List (Node × Scope)} {parts others : List (List (Node × Scope))}

theorem nil (f : SourceFile) (ns : List Node) : Gathered f ns [] [] [] :=
  ⟨List.nil_sublist ns, rfl, .nil⟩

theorem weaken (h : Gathered f m members parts places) (hsub : m.Sublist n) :
    Gathered f n members parts places :=
  ⟨h.ordered.trans hsub, h.written, h.interleaves⟩

theorem append (h : Gathered f m members parts places) (hmore : Gathered f n more others behind) :
    Gathered f (m ++ n) (members ++ more) (parts ++ others) (places ++ behind) := by
  refine ⟨?_, ?_, h.interleaves.append hmore.interleaves⟩
  · rw [List.map_append]
    exact h.ordered.append hmore.ordered
  · rw [h.written, hmore.written, List.flatMap_append]

end Gathered

namespace Declaration

variable {f : SourceFile} {scope : Scope} {q : String}

/-- The members under the name `q` are gathered from the declarations of `q`. -/
def GatheredIn (f : SourceFile) (q : String) (ns : List Node) (ds : List Declaration) : Prop :=
  ∃ places, Gathered f ns (membersIn q ds) ((typesOf q ds).map TypeDecl.places) places

theorem gatheredIn_of_empty (f : SourceFile) {ds : List Declaration} (htypes : typesOf q ds = [])
    (hmembers : membersIn q ds = []) (ns : List Node) : GatheredIn f q ns ds := by
  rw [GatheredIn, htypes, hmembers]
  exact ⟨[], .nil f ns⟩

theorem GatheredIn.append {m n : List Node} {a b : List Declaration} (ha : GatheredIn f q m a)
    (hb : GatheredIn f q n b) : GatheredIn f q (m ++ n) (a ++ b) := by
  obtain ⟨_, ha⟩ := ha
  obtain ⟨_, hb⟩ := hb
  rw [GatheredIn, membersIn_append, typesOf_append, List.map_append]
  exact ⟨_, ha.append hb⟩

theorem GatheredIn.weaken {m n : List Node} {a : List Declaration} (hsub : m.Sublist n)
    (ha : GatheredIn f q m a) : GatheredIn f q n a :=
  ha.imp fun _ h => h.weaken hsub

theorem gatheredIn_flatMap {l : List Node} {g : Node → List Declaration}
    (h : ∀ c ∈ l, GatheredIn f q c.preorder (g c)) :
    GatheredIn f q (l.flatMap Node.preorder) (l.flatMap g) := by
  induction l with
  | nil => exact gatheredIn_of_empty f rfl rfl _
  | cons c l ih =>
    rw [List.flatMap_cons, List.flatMap_cons]
    exact (h c List.mem_cons_self).append (ih fun c hc => h c (List.mem_cons_of_mem _ hc))

/-- In the body of a declaration of `q`, the members written there are the first part, and what
the types nested there have under the name `q` makes up the others. -/
theorem gathered_body (scope : Scope) {cs : List Node}
    (h : ∀ c ∈ cs, ∀ kind, c.typeKind? = some kind →
      GatheredIn f q c.preorder (ofType f scope (some q) kind c)) :
    ∃ places, Gathered f (cs.flatMap Node.preorder)
      (membersIn q (cs.flatMap (ofMember f scope q)))
      (((cs.filter fun c => c.typeKind?.isNone).map fun c => (c, scope)) ::
        (typesOf q (cs.flatMap (ofMember f scope q))).map TypeDecl.places) places := by
  induction cs with
  | nil => exact ⟨[], List.nil_sublist _, rfl, .singleton []⟩
  | cons c cs ih =>
    obtain ⟨places, hrest⟩ := ih fun c hc => h c (List.mem_cons_of_mem _ hc)
    rw [List.flatMap_cons, List.flatMap_cons, membersIn_append, typesOf_append, List.map_append]
    cases hc : c.typeKind? with
    | none =>
      -- a member: the next place of the declaration itself
      have hmembers : membersIn q (ofMember f scope q c) = f.membersAt (c, scope) := by
        simp [ofMember, hc, membersIn_members, SourceFile.membersAt]
      have htypes : typesOf q (ofMember f scope q c) = [] := by simp [ofMember, hc, typesOf]
      refine ⟨(c, scope) :: places, ?_, ?_, ?_⟩
      · exact (List.singleton_sublist.2 c.self_mem_preorder).append hrest.ordered
      · rw [hmembers, hrest.written, List.flatMap_cons]
      · simpa [hc, htypes] using hrest.interleaves.cons (c, scope)
    | some kind =>
      -- a nested type: if it has the name `q` again, its places are parts of their own
      have hnested : ofMember f scope q c = ofType f scope (some q) kind c := by
        rw [ofMember, hc]
      obtain ⟨inner, hinner⟩ := h c List.mem_cons_self kind hc
      rw [hnested]
      refine ⟨inner ++ places, ?_, ?_, ?_⟩
      · rw [List.map_append]
        exact hinner.ordered.append hrest.ordered
      · rw [hinner.written, hrest.written, List.flatMap_append]
      · simpa [hc] using hrest.interleaves.append_behind hinner.interleaves

/-- **A type and everything nested in it** give the name `q` the members that are written
directly in declarations of `q`. -/
theorem gatheredIn_ofType {outer : Option String} {kind : TypeKind} {n : Node} :
    GatheredIn f q n.preorder (ofType f scope outer kind n) := by
  induction n using Node.descendants_induction generalizing scope outer kind with
  | _ n ih =>
    cases hname : n.childInField? "name" with
    | none =>
      rw [ofType_unnamed hname]
      exact gatheredIn_of_empty f rfl rfl _
    | some name =>
      obtain ⟨d, hd, heq⟩ := ofType_named f scope outer kind hname
      have hnode : d.node = n := by rw [hd]; rfl
      have hbelow : (n.memberNodes.flatMap Node.preorder).Sublist n.preorder := by
        rw [Node.preorder_eq]
        exact n.memberNodes_sublist.cons n
      rw [heq]
      by_cases hdq : d.qualifiedName = q
      · -- the type itself: its own members come first, those of nested types may be mixed in
        rw [GatheredIn, membersIn_cons_type, typesOf_cons_self hdq, List.map_cons, TypeDecl.places,
          hnode, hdq]
        obtain ⟨places, hbody⟩ := gathered_body (q := q) d.scope
          fun c hc _ _ => ih c (Node.memberNodes_subset hc)
        exact ⟨places, hbody.weaken hbelow⟩
      · -- another type: only what is nested in it can have members of `q`
        have hbody : GatheredIn f q (n.memberNodes.flatMap Node.preorder)
            (n.memberNodes.flatMap (ofMember f d.scope d.qualifiedName)) := by
          refine gatheredIn_flatMap fun c hc => ?_
          unfold ofMember
          split
          · exact ih c (Node.memberNodes_subset hc)
          · exact gatheredIn_of_empty f (by simp [typesOf]) (by simp [membersIn_members, hdq]) _
        rw [GatheredIn, membersIn_cons_type, typesOf_cons_of_ne hdq]
        exact hbody.weaken hbelow

end Declaration

/-- **The members of a file under any name** are written directly in the declarations of that
name, and stand in document order. -/
theorem SourceFile.gatheredIn_declarations (f : SourceFile) (q : String) :
    GatheredIn f q f.root.preorder f.declarations := by
  have h : GatheredIn f q (f.root.children.flatMap Node.preorder) f.declarations :=
    ofSiblings_induction (Q := GatheredIn f q) (gatheredIn_of_empty f rfl rfl _)
      GatheredIn.append GatheredIn.weaken (fun _ => gatheredIn_of_empty f rfl rfl _)
      (fun _ _ _ _ => gatheredIn_ofType) _ _
  refine h.weaken ?_
  rw [Node.preorder_eq]
  exact List.sublist_cons_self _ _

/-! ### Base names -/

theorem firstOccurrences_filter (p : String → Bool) (xs : List String) :
    firstOccurrences (xs.filter p) = (firstOccurrences xs).filter p := by
  induction xs with
  | nil => rfl
  | cons x xs ih =>
    by_cases hx : p x
    · rw [List.filter_cons_of_pos hx, firstOccurrences, firstOccurrences, ih,
        List.filter_cons_of_pos hx, List.filter_filter, List.filter_filter]
      simp only [Bool.and_comm]
    · -- what is selected is not `x`, so that removing `x` makes no difference
      have hne : ∀ y ∈ firstOccurrences xs, (p y && decide (y ≠ x)) = p y := by
        intro y _
        by_cases hyx : y = x
        · simp [hyx, hx]
        · simp [hyx]
      rw [List.filter_cons_of_neg hx, firstOccurrences, List.filter_cons_of_neg hx,
        List.filter_filter, List.filter_congr hne, ih]

theorem firstOccurrences_eq_eraseDups (xs : List String) :
    firstOccurrences xs = xs.eraseDups := by
  induction hlen : xs.length using Nat.strongRecOn generalizing xs with
  | _ n ih =>
    cases xs with
    | nil => rfl
    | cons x xs =>
      have hshort : (xs.filter fun y => y ≠ x).length < n := by
        rw [← hlen, List.length_cons]
        exact Nat.lt_succ_of_le (List.length_filter_le _ _)
      rw [firstOccurrences, ← firstOccurrences_filter, ih _ hshort _ rfl, List.eraseDups_cons]
      congr 2
      exact List.filter_congr fun y _ => by by_cases hyx : y = x <;> simp [hyx]

namespace Sources

variable {S : Sources} {q : String}

/-- What an entry of a base list adds to the base names: the known type it stands for, or else
its name, and nothing if that is empty. -/
def baseEntry? (S : Sources) (scope : Scope) (written : String) : Option String :=
  ((S.resolver.resolve? scope written).or (TypeName.normalize? written)).filter (· ≠ "")

theorem filter_baseName? (scope : Scope) (written : String) :
    (S.resolver.baseName? scope written).filter (· ≠ "") = S.baseEntry? scope written := by
  unfold Model.Resolver.baseName? baseEntry?
  cases hres : S.resolver.resolve? scope written with
  | none => simp
  | some name =>
    by_cases hname : name = ""
    · subst hname
      simp [normalize?_of_resolve?_empty hres]
    · simp [hname]

/-! ### The symbol of a name -/

/-- What the files say together about the type named `q`. -/
structure Merges (S : Sources) (q : String) (t : TypeSymbol) : Prop where
  /-- The type is known by its name. -/
  qualifiedName : t.qualifiedName = q
  /-- Name, kind and place are those of the first declaration. -/
  first : ∃ f d rest, S.declarationsOf q = (f, d) :: rest ∧ t.name = d.name ∧
    d.node.typeKind? = some t.kind ∧ t.namespaceName = d.namespaceName ∧
    t.containingType = d.containingType ∧ t.location = some (f.locate d.node)
  /-- The accessibility is the first that is written explicitly. -/
  accessibility : t.accessibility = .firstExplicit ((S.declarationsOf q).map fun entry =>
    .ofModifiers (entry.2.node.modifiers entry.1.source))
  /-- One `partial` is enough. -/
  isPartial : t.isPartial = true ↔
    ∃ entry ∈ S.declarationsOf q, "partial" ∈ entry.2.node.modifiers entry.1.source
  /-- The base names are those of all base lists, each where it comes first. -/
  baseNames : t.baseNames = ((S.declarationsOf q).flatMap fun entry =>
    (entry.2.node.baseEntries entry.1.source).filterMap (S.baseEntry? entry.2.scope)).eraseDups

/-- The members written at a place of a file, resolved. -/
def membersAt (S : Sources) (f : SourceFile) (place : Node × Scope) : List MemberSymbol :=
  (MemberDecl.ofNode f place.1).map fun m => S.resolver.memberSymbol m place.2

/-- The members of the type named `q`: file by file, they are written directly in the declarations
of `q`, each of them once, and stand in document order. -/
def Gathers (S : Sources) (q : String) (members : List MemberSymbol) : Prop :=
  ∃ places : SourceFile → List (Node × Scope),
    (members = S.files.flatMap fun f => (places f).flatMap (S.membersAt f)) ∧
    ∀ f ∈ S.files, ((places f).map Prod.fst).Sublist f.root.preorder ∧
      Interleaves (places f) ((typesOf q f.declarations).map TypeDecl.places)

theorem reads_of_mem_declarationsOf {f : SourceFile} {d : TypeDecl}
    (h : (f, d) ∈ S.declarationsOf q) :
    d.node.typeKind? = some d.kind ∧ d.location = f.locate d.node ∧
      d.accessibility = .ofModifiers (d.node.modifiers f.source) ∧
      d.isPartial = (d.node.modifiers f.source).contains "partial" ∧
      d.bases = d.node.baseEntries f.source := by
  obtain ⟨-, hd, -⟩ := mem_declarationsOf.1 h
  obtain ⟨scope, outer, kind, name, hkind, -, hread⟩ := f.typeDecls_reads d hd
  rw [hread]
  exact ⟨hkind, rfl, rfl, rfl, rfl⟩

theorem merges_of_symbol? {t : TypeSymbol} (h : S.declarationsOf q ≠ [])
    (ht : S.symbol? q = some t) : S.Merges q t := by
  obtain ⟨⟨f, first⟩, rest, hds⟩ := List.exists_cons_of_ne_nil h
  have hname := qualifiedName_of_symbol? ht
  obtain rfl : S.symbolOf first ((S.declarationsOf q).map Prod.snd) = t := by
    rw [symbol?, hds] at ht
    rw [hds]
    exact Option.some.inj ht
  have hfirst : (f, first) ∈ S.declarationsOf q := by rw [hds]; exact List.mem_cons_self
  obtain ⟨hkind, hlocation, -⟩ := reads_of_mem_declarationsOf hfirst
  refine ⟨hname, ⟨f, first, rest, hds, rfl, hkind, rfl, rfl, congrArg some hlocation⟩, ?_, ?_, ?_⟩
  · simp only [symbolOf, List.map_map]
    refine congrArg Accessibility.firstExplicit (List.map_congr_left fun entry hentry => ?_)
    obtain ⟨-, -, haccess, -⟩ := reads_of_mem_declarationsOf hentry
    exact haccess
  · simp only [symbolOf, List.any_map, List.any_eq_true, Function.comp_apply]
    refine exists_congr fun entry => and_congr_right fun hentry => ?_
    obtain ⟨-, -, -, hpartial, -⟩ := reads_of_mem_declarationsOf hentry
    rw [hpartial, List.contains_iff_mem]
  · simp only [symbolOf, firstOccurrences_eq_eraseDups, List.filter_flatMap, List.flatMap_map]
    refine congrArg List.eraseDups (List.flatMap_congr fun entry hentry => ?_)
    obtain ⟨-, -, -, -, hbases⟩ := reads_of_mem_declarationsOf hentry
    rw [List.filter_filterMap, hbases]
    exact List.filterMap_congr fun written _ => filter_baseName? ..

/-! ### One symbol for each name -/

theorem nodup_keys_framework : (Framework.table.map Prod.fst).Nodup := by decide +kernel

/-- **No name has two symbols** in a model: declared types have one draft each, and a framework
type that is declared is left out. -/
theorem nodup_keys_types (S : Sources) : (S.model.types.map Prod.fst).Nodup := by
  have hdrafts : (S.drafts.map Prod.fst).Nodup :=
    Draft.Table.nodup_keys_ofDeclarations S.declarations
  have hframework : ((if S.includeFramework then Framework.table else []).map Prod.fst).Nodup := by
    split_ifs
    · exact nodup_keys_framework
    · exact List.nodup_nil
  have hothers : (S.others.map Prod.fst).Nodup :=
    hframework.sublist (List.filter_sublist.map Prod.fst)
  rw [model_eq, List.map_append, List.map_map, List.nodup_append]
  refine ⟨hdrafts, hothers, ?_⟩
  rintro name hname _ hother rfl
  -- only the framework types without a draft are left
  obtain ⟨entry, hentry, rfl⟩ := List.mem_map.1 hother
  have hnone : (S.drafts.lookup entry.1).isNone = true := (List.mem_filter.1 hentry).2
  have hsome : (S.drafts.lookup entry.1).isSome = true := Assoc.isSome_lookup.2 hname
  rw [← Option.not_isSome, hsome] at hnone
  cases hnone

theorem count_declared (h : S.declarationsOf q ≠ []) : S.model.declared.count q = 1 := by
  rw [model_eq]
  refine List.count_eq_one_of_mem (Draft.Table.nodup_keys_ofDeclarations _) ?_
  have hdraft : (S.drafts.lookup q).isSome = true := by
    rw [isSome_lookup_drafts]
    simpa using h
  exact Assoc.isSome_lookup.1 hdraft

theorem gathers_membersOf (h : S.declarationsOf q ≠ []) :
    S.Gathers q (S.model.membersOf q) := by
  -- a file has the same places wherever it stands among the files
  choose places hplaces using fun f : SourceFile => f.gatheredIn_declarations q
  refine ⟨places, ?_, fun f _ => ⟨(hplaces f).ordered, (hplaces f).interleaves⟩⟩
  rw [membersOf_model_of_declared h, declarations, membersIn_flatMap, List.map_flatMap]
  refine List.flatMap_congr fun f _ => ?_
  rw [(hplaces f).written, List.map_flatMap]
  refine List.flatMap_congr fun place _ => ?_
  rw [SourceFile.membersAt, List.map_map]
  rfl

theorem exists_symbol? (h : S.declarationsOf q ≠ []) : ∃ t, S.symbol? q = some t := by
  rw [← Option.isSome_iff_exists, isSome_symbol?, known]
  simp [h]

/-- **Declarations of one name are merged into one symbol.**  A declared name has exactly one
symbol and no other name has that symbol.  The symbol says what the declarations say together, and
its members are those written directly in the declarations; if the name is not empty, declaration
by declaration. -/
theorem partial_declarations_merge (S : Sources) (q : String) (h : S.declarationsOf q ≠ []) :
    ∃ t, (S.model.types.filter fun entry => entry.1 = q) = [(q, t)] ∧
      S.model.declared.count q = 1 ∧
      (∀ p, S.model.provider.typeNamed? p = some t ↔ p = q) ∧
      S.Merges q t ∧
      S.Gathers q (S.model.provider.members t) ∧
      (q ≠ "" → S.model.provider.members t = (S.declarationsOf q).flatMap fun entry =>
        (entry.2.members entry.1).map fun m => S.resolver.memberSymbol m entry.2.scope) := by
  obtain ⟨t, ht⟩ := exists_symbol? h
  have hget : S.model.types.lookup q = some t := (get?_model q).trans ht
  refine ⟨t, ?_, count_declared h, fun p => ⟨fun hp => ?_, ?_⟩, merges_of_symbol? h ht, ?_, ?_⟩
  · rw [Assoc.filter_key S.nodup_keys_types, hget]
    rfl
  · have hsymbol : S.symbol? p = some t := (get?_model p).symm.trans hp
    rw [← qualifiedName_of_symbol? hsymbol, qualifiedName_of_symbol? ht]
  · rintro rfl
    exact hget
  · rw [members_provider ht]
    exact gathers_membersOf h
  · rw [members_provider ht]
    exact membersOf_model

/-- A field as in `int a;`. -/
def fieldNode (start : Nat) : Node :=
  nodeAt "field_declaration" none ⟨start, start + 6⟩
    [nodeAt "variable_declaration" none ⟨start, start + 5⟩
      [leafAt "predefined_type" (some "type") ⟨start, start + 3⟩,
        nodeAt "variable_declarator" none ⟨start + 4, start + 5⟩
          [leafAt "identifier" (some "name") ⟨start + 4, start + 5⟩]]]

/-- The name that a parser adds where none is written. -/
def missingName (start : Nat) : Node :=
  .mk { kind := "identifier", field := some "name", start, stop := some start, missing := true } []

/-- A class with the nodes of its head and of its body, which ends where the class ends. -/
def classNode (span : Span) (head : List Node) (bodyStart : Nat) (body : List Node) : Node :=
  nodeAt "class_declaration" none span
    (head ++ [nodeAt "declaration_list" (some "body") ⟨bodyStart, span.stop⟩ body])

/-- A file with one class. -/
def classFile (path text : String) (root : Node) : SourceFile :=
  ⟨.ofString path, Text.encode text, nodeAt "compilation_unit" none root.span [root]⟩

/-- A class in two files, with a type nested between its members. -/
def nestedParts : Sources where
  includeFramework := true
  files :=
    [classFile "a.cs" "partial class C:B\x7bint a;class D\x7bint b;\x7dint c;\x7d" <|
      classNode ⟨0, 46⟩
        [leafAt "modifier" none ⟨0, 7⟩, leafAt "identifier" (some "name") ⟨14, 15⟩,
          nodeAt "base_list" none ⟨15, 17⟩ [leafAt "identifier" none ⟨16, 17⟩]] 17
        [fieldNode 18,
          classNode ⟨24, 39⟩ [leafAt "identifier" (some "name") ⟨30, 31⟩] 31 [fieldNode 32],
          fieldNode 39],
      classFile "b.cs" "public class C:A,B\x7bint d;\x7d" <| classNode ⟨0, 26⟩
        [leafAt "modifier" none ⟨0, 6⟩, leafAt "identifier" (some "name") ⟨13, 14⟩,
          nodeAt "base_list" none ⟨14, 18⟩
            [leafAt "identifier" none ⟨15, 16⟩, leafAt "identifier" none ⟨17, 18⟩]] 18
        [fieldNode 19]]

theorem partial_declarations_merge_nestedParts : nestedParts.declarationsOf "C" ≠ [] ∧
    ∃ t, nestedParts.Merges "C" t ∧ t.isPartial = true ∧ t.accessibility = .publicAccess ∧
      t.baseNames = ["B", "A"] ∧
      (nestedParts.model.provider.members t).map MemberSymbol.name = ["a", "c", "d"] := by
  have hdeclared : nestedParts.declarationsOf "C" ≠ [] := by
    rw [← List.isEmpty_eq_false_iff]
    decide +kernel
  obtain ⟨t, -, -, -, hmerges, -, hmembers⟩ :=
    partial_declarations_merge nestedParts "C" hdeclared
  refine ⟨hdeclared, t, hmerges, hmerges.isPartial.2 (by decide +kernel), ?_, ?_, ?_⟩
  · rw [hmerges.accessibility]
    decide +kernel
  · rw [hmerges.baseNames]
    decide +kernel
  · rw [hmembers (by decide)]
    decide +kernel

/-- A class without a name inside another one, between its members. -/
def nestedUnnamed : Sources where
  includeFramework := true
  files :=
    [classFile "a.cs" "class\x7bint a;class\x7bint b;\x7dint c;\x7d" <|
      classNode ⟨0, 32⟩ [missingName 5] 5
        [fieldNode 6, classNode ⟨12, 25⟩ [missingName 17] 17 [fieldNode 18], fieldNode 25]]

/-- The members of a type without a name need not be those of one declaration after the other:
here `b` stands between `a` and `c`. -/
theorem mixed_members_nestedUnnamed : nestedUnnamed.declarationsOf "" ≠ [] ∧
    ∃ t, nestedUnnamed.model.provider.typeNamed? "" = some t ∧
      nestedUnnamed.model.provider.members t ≠
        (nestedUnnamed.declarationsOf "").flatMap fun entry =>
          (entry.2.members entry.1).map fun m =>
            nestedUnnamed.resolver.memberSymbol m entry.2.scope := by
  have hdeclared : nestedUnnamed.declarationsOf "" ≠ [] := by
    rw [← List.isEmpty_eq_false_iff]
    decide +kernel
  obtain ⟨t, ht⟩ := exists_symbol? hdeclared
  refine ⟨hdeclared, t, (get?_model "").trans ht, fun heq => ?_⟩
  -- the names are enough to tell the two lists apart
  have hnames := congrArg (List.map MemberSymbol.name) heq
  rw [members_provider ht] at hnames
  revert hnames
  decide +kernel

end Sources

end Disposal
