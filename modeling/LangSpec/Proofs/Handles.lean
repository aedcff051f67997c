import LangSpec.Draft.Token
import LangSpec.Proofs.Arena
import Mathlib.Tactic.MkIffOfInductiveProp

/-!
# Handles inside their tables

What a specification is made of refers to other things by handles, and so does
what is handed to the operations of a draft: regular expressions, code, types
and lists of elements hold handles at any depth. `handles x` lists all of them.

* `AllHandles`: a property of all handles in a thing; one lemma for each kind of
  thing reduces it to the parts;
* `Spec.Covers`: all handles in a thing lie inside the tables of a
  specification;
* `Spec.Closed`: a specification that covers itself, so that no handle in it
  leads nowhere.
-/

namespace LangSpec

/-- A handle of any table. -/
structure AnyHandle where
  /-- The table. -/
  table : Table
  /-- The position in the table. -/
  index : Nat
deriving DecidableEq

/-- What holds handles. -/
class Holds (α : Type) where
  /-- All handles held, those held by the parts included. -/
  handles : α → List AnyHandle

export Holds (handles)

/-- All handles in `x` have the property `P`. -/
def AllHandles (P : AnyHandle → Prop) {α : Type} [Holds α] (x : α) : Prop := ∀ h ∈ handles x, P h

variable {P : AnyHandle → Prop}

section Generic

variable {t : Table} {α : Type} [Holds α]

instance : Holds (Handle t) := ⟨fun h => [⟨t, h.index⟩]⟩

instance : Holds (List α) := ⟨fun xs => xs.flatMap handles⟩

instance : Holds (Option α) := ⟨fun x => handles x.toList⟩

instance : Holds (Dict α) := ⟨fun d => handles d.values⟩

instance : Holds (Arena t α) := ⟨fun a => handles a.toList⟩

theorem AllHandles.imp {Q : AnyHandle → Prop} {x : α} (hx : AllHandles P x)
    (hpq : ∀ h, P h → Q h) : AllHandles Q x := fun h hh => hpq h (hx h hh)

theorem allHandles_handle {h : Handle t} : AllHandles P h ↔ P ⟨t, h.index⟩ :=
  List.forall_mem_singleton

theorem allHandles_list {xs : List α} :
    AllHandles P xs ↔ ∀ x ∈ xs, AllHandles P x :=
  List.forall_mem_flatMap

@[simp] theorem allHandles_nil : AllHandles P ([] : List α) :=
  allHandles_list.2 fun _ hx => absurd hx List.not_mem_nil

@[simp] theorem allHandles_cons {x : α} {xs : List α} :
    AllHandles P (x :: xs) ↔ AllHandles P x ∧ AllHandles P xs := by
  rw [allHandles_list, List.forall_mem_cons, allHandles_list]

@[simp] theorem allHandles_append {xs ys : List α} :
    AllHandles P (xs ++ ys) ↔ AllHandles P xs ∧ AllHandles P ys := by
  rw [allHandles_list, List.forall_mem_append, allHandles_list, allHandles_list]

@[simp] theorem allHandles_none : AllHandles P (none : Option α) := fun _ hh => by
  simp [handles] at hh

@[simp] theorem allHandles_some {x : α} : AllHandles P (some x) ↔ AllHandles P x := by
  rw [AllHandles, AllHandles]
  simp [handles]

theorem allHandles_option {o : Option α} : AllHandles P o ↔ ∀ x, o = some x → AllHandles P x := by
  cases o <;> simp

theorem allHandles_dict {d : Dict α} :
    AllHandles P d ↔ ∀ e ∈ d.entries, AllHandles P e.2 :=
  allHandles_list.trans List.forall_mem_map

@[simp] theorem allHandles_emptyDict : AllHandles P (Dict.empty : Dict α) :=
  allHandles_dict.2 fun _ he => absurd he List.not_mem_nil

theorem AllHandles.insert {d : Dict α} {k : String} {v : α} (hd : AllHandles P d)
    (hv : AllHandles P v) : AllHandles P (d.insert k v) := by
  rw [allHandles_dict] at hd ⊢
  intro e he
  rcases Dict.mem_insert he with he | rfl
  · exact hd e he
  · exact hv

theorem allHandles_arena {a : Arena t α} :
    AllHandles P a ↔ a.Forall fun _ x => AllHandles P x :=
  allHandles_list.trans Arena.forall_mem_toList

theorem AllHandles.push {a : Arena t α} {x : α} (ha : AllHandles P a) (hx : AllHandles P x) :
    AllHandles P (a.push x) :=
  allHandles_arena.2 ((allHandles_arena.1 ha).push hx)

theorem AllHandles.modify {a : Arena t α} {h : Handle t} {f : α → α} (ha : AllHandles P a)
    (hf : ∀ x, a.get? h = some x → AllHandles P x → AllHandles P (f x)) :
    AllHandles P (a.modify h f) :=
  allHandles_arena.2 ((allHandles_arena.1 ha).modify hf)

theorem AllHandles.modifyAt {xs : List α} {i : Nat} {f : α → α} (hxs : AllHandles P xs)
    (hf : ∀ x, AllHandles P x → AllHandles P (f x)) : AllHandles P (xs.modify i f) := by
  induction xs generalizing i with
  | nil => rwa [List.modify_nil]
  | cons x xs ih =>
    rw [allHandles_cons] at hxs
    cases i with
    | zero => exact allHandles_cons.2 ⟨hf x hxs.1, hxs.2⟩
    | succ i => exact allHandles_cons.2 ⟨hxs.1, ih hxs.2⟩

theorem AllHandles.get [Inhabited α] {a : Arena t α} {h : Handle t} (ha : AllHandles P a)
    (hh : h ∈ a) : AllHandles P (a.get h) :=
  allHandles_arena.1 ha h _ (Arena.get?_eq_some_get hh)

end Generic

/-! ## References, types and code -/

instance : Holds VarRef := ⟨fun v => handles v.context ++ handles v.scope⟩

instance : Holds Qualifier := ⟨fun q => handles q.writtenIn⟩

instance : Holds TypeAttrs := ⟨fun a => handles a.qualifier ++ handles a.binder⟩

/-- The handles in a type. -/
def TypeRef.handles : TypeRef → List AnyHandle
  | named attrs _ => Holds.handles attrs
  | literal attrs _ => Holds.handles attrs
  | list attrs elem => Holds.handles attrs ++ elem.handles
  | parser attrs parsed => Holds.handles attrs ++ parsed.handles
  | within attrs owner _ => Holds.handles attrs ++ owner.handles

instance : Holds TypeRef := ⟨TypeRef.handles⟩

instance : Holds Binding := ⟨fun b => handles b.field ++ handles b.ref⟩

mutual

/-- The handles in an expression. -/
def Expr.handles : Expr → List AnyHandle
  | .var ref => Holds.handles ref
  | .number _ _ => []
  | .text _ _ => []
  | .binary _ left right _ => left.handles ++ right.handles
  | .unary _ arg _ => arg.handles
  | .fits tree pattern _ => Holds.handles tree ++ Holds.handles pattern
  | .require tree pattern _ => Holds.handles tree ++ Holds.handles pattern
  | .construct binding type inits constructor _ =>
    Holds.handles binding ++ Holds.handles type ++ Expr.initHandles inits ++
      Holds.handles constructor
  | .send parser feed _ _ => Holds.handles parser ++ Holds.handles feed
  | .sendTree parser feed _ _ => Holds.handles parser ++ Holds.handles feed
  | .parse _ binding parser inits constructor feed _ =>
    Holds.handles binding ++ Holds.handles parser ++ Expr.initHandles inits ++
      Holds.handles constructor ++ Holds.handles feed

/-- The handles in initial values. -/
def Expr.initHandles : List (FieldInit Expr) → List AnyHandle
  | [] => []
  | ⟨_, value, _⟩ :: inits => value.handles ++ Expr.initHandles inits

end

instance : Holds Expr := ⟨Expr.handles⟩

instance : Holds (FieldInit Expr) := ⟨fun i => handles i.value⟩

instance : Holds IterCall := ⟨fun c => handles c.iter ++ handles c.args⟩

mutual

/-- The handles in a statement. -/
def Stmt.handles : Stmt → List AnyHandle
  | .assign target value _ => Holds.handles target ++ Holds.handles value
  | .eval expr => Holds.handles expr
  | .print args _ => Holds.handles args
  | .loop field type iter body context scope _ =>
    Holds.handles field ++ Holds.handles type ++ Holds.handles iter ++ Stmt.bodyHandles body ++
      Holds.handles context ++ Holds.handles scope
  | .yield value _ => Holds.handles value

/-- The handles in the body of a loop. -/
def Stmt.bodyHandles : List Stmt → List AnyHandle
  | [] => []
  | stmt :: stmts => stmt.handles ++ Stmt.bodyHandles stmts

end

instance : Holds Stmt := ⟨Stmt.handles⟩

instance : Holds Code :=
  ⟨fun c => handles c.stmts ++ handles c.frame ++ handles c.context⟩

@[simp] theorem allHandles_code {c : Code} :
    AllHandles P c ↔ AllHandles P c.stmts ∧ AllHandles P c.frame ∧ AllHandles P c.context := by
  simp only [AllHandles, handles, List.forall_mem_append, and_assoc]

/-! ## Regular expressions -/

instance : Holds Regex.MarkAction := ⟨fun a => handles a.mark⟩

instance : Holds Regex.Capture :=
  ⟨fun c => handles c.enter ++ handles c.leave ++ handles c.field⟩

mutual

/-- The handles in a factor. -/
def Factor.handles : Factor → List AnyHandle
  | .reference target _ => Holds.handles target
  | .paren inner => inner.handles
  | .literal _ => []
  | .range _ _ => []
  | .oneOf _ => []
  | .noneOf _ => []

/-- The handles in a negated factor. -/
def Negated.handles : Negated → List AnyHandle
  | .plain factor => factor.handles
  | .negate _ inner => inner.handles

/-- The handles in a repeated factor. -/
def Repeated.handles : Repeated → List AnyHandle
  | .plain inner => inner.handles
  | .repeated _ inner => inner.handles

/-- The handles in a part. -/
def Part.handles : Part → List AnyHandle
  | .mk body actions captures =>
    body.handles ++ Holds.handles actions ++ Holds.handles captures

/-- The handles in a term. -/
def Term.handles : Term → List AnyHandle
  | .single part => part.handles
  | .join _ left right => left.handles ++ right.handles

/-- The handles in an expression. -/
def RegexExpr.handles : RegexExpr → List AnyHandle
  | .single term => term.handles
  | .join _ left right => left.handles ++ right.handles

/-- The handles in a regular expression. -/
def Regex.handles : Regex → List AnyHandle
  | .plain body mark => body.handles ++ Holds.handles mark
  | .trailing body context mark => body.handles ++ context.handles ++ Holds.handles mark

end

instance : Holds Part := ⟨Part.handles⟩

instance : Holds Regex := ⟨Regex.handles⟩

/-! ## The entries of the tables -/

instance : Holds RegularEntry := ⟨fun e => handles e.target⟩

instance : Holds ContextEntry := ⟨fun e => handles e.context⟩

@[simp] theorem allHandles_contextEntry {e : ContextEntry} :
    AllHandles P e ↔ AllHandles P e.context :=
  Iff.rfl

instance : Holds Namespace :=
  ⟨fun n => handles n.id ++ handles n.parent ++ handles n.children ++ handles n.tokens ++
    handles n.nonterminals ++ handles n.aliases ++ handles n.contexts ++ handles n.literals ++
    handles n.regulars⟩

@[simp] theorem allHandles_namespace {n : Namespace} :
    AllHandles P n ↔ AllHandles P n.id ∧ AllHandles P n.parent ∧ AllHandles P n.children ∧
      AllHandles P n.tokens ∧ AllHandles P n.nonterminals ∧ AllHandles P n.aliases ∧
      AllHandles P n.contexts ∧ AllHandles P n.literals ∧ AllHandles P n.regulars := by
  simp only [AllHandles, handles, List.forall_mem_append, and_assoc]

instance : Holds Object :=
  ⟨fun o => handles o.id ++ handles o.rootScope ++ handles o.scopes⟩

@[simp] theorem allHandles_object {o : Object} :
    AllHandles P o ↔ AllHandles P o.id ∧ AllHandles P o.rootScope ∧ AllHandles P o.scopes := by
  simp only [AllHandles, handles, List.forall_mem_append, and_assoc]

instance : Holds Scope :=
  ⟨fun c => handles c.id ++ handles c.owner ++ handles c.parent ++ handles c.children ++
    handles c.fields ++ handles c.members⟩

@[simp] theorem allHandles_scope {c : Scope} :
    AllHandles P c ↔ AllHandles P c.id ∧ AllHandles P c.owner ∧ AllHandles P c.parent ∧
      AllHandles P c.children ∧ AllHandles P c.fields ∧ AllHandles P c.members := by
  simp only [AllHandles, handles, List.forall_mem_append, and_assoc]

instance : Holds ElementRef := ⟨fun r => handles r.production⟩

@[simp] theorem allHandles_elementRef {r : ElementRef} :
    AllHandles P r ↔ AllHandles P r.production :=
  Iff.rfl

instance : Holds Field :=
  ⟨fun x => handles x.id ++ handles x.type ++ handles x.context ++ handles x.sources⟩

@[simp] theorem allHandles_field {x : Field} :
    AllHandles P x ↔ AllHandles P x.id ∧ AllHandles P x.type ∧ AllHandles P x.context ∧
      AllHandles P x.sources := by
  simp only [AllHandles, handles, List.forall_mem_append, and_assoc]

instance : Holds Pool := ⟨fun p => handles p.occurrences⟩

@[simp] theorem allHandles_pool {p : Pool} : AllHandles P p ↔ AllHandles P p.occurrences :=
  Iff.rfl

instance : Holds Region :=
  ⟨fun r => handles r.id ++ handles r.pool ++ handles r.collectsFor ++ handles r.atEnd⟩

@[simp] theorem allHandles_region {r : Region} :
    AllHandles P r ↔ AllHandles P r.id ∧ AllHandles P r.pool ∧ AllHandles P r.collectsFor ∧
      AllHandles P r.atEnd := by
  simp only [AllHandles, handles, List.forall_mem_append, and_assoc]

instance : Holds Scanner :=
  ⟨fun c => handles c.id ++ handles c.mixedPool ++ handles c.tokenPool ++ handles c.ignorePool ++
    handles c.mixed ++ handles c.tokenOnly ++ handles c.ignoreOnly ++ handles c.collect ++
    handles c.tokens⟩

@[simp] theorem allHandles_scanner {c : Scanner} :
    AllHandles P c ↔ AllHandles P c.id ∧ AllHandles P c.mixedPool ∧ AllHandles P c.tokenPool ∧
      AllHandles P c.ignorePool ∧ AllHandles P c.mixed ∧ AllHandles P c.tokenOnly ∧
      AllHandles P c.ignoreOnly ∧ AllHandles P c.collect ∧ AllHandles P c.tokens := by
  simp only [AllHandles, handles, List.forall_mem_append, and_assoc]

instance : Holds Token :=
  ⟨fun t => handles t.id ++ handles t.regex ++ handles t.action ++ handles t.home ++
    handles t.scanner ++ handles t.object ++ handles t.context ++ handles t.occurrences⟩

@[simp] theorem allHandles_token {t : Token} :
    AllHandles P t ↔ AllHandles P t.id ∧ AllHandles P t.regex ∧ AllHandles P t.action ∧
      AllHandles P t.home ∧ AllHandles P t.scanner ∧ AllHandles P t.object ∧
      AllHandles P t.context ∧ AllHandles P t.occurrences := by
  simp only [AllHandles, handles, List.forall_mem_append, and_assoc]

instance : Holds Occurrence :=
  ⟨fun o => handles o.id ++ handles o.token ++ handles o.regex ++ handles o.home ++
    handles o.region ++ handles o.copyOf⟩

@[simp] theorem allHandles_occurrence {o : Occurrence} :
    AllHandles P o ↔ AllHandles P o.id ∧ AllHandles P o.token ∧ AllHandles P o.regex ∧
      AllHandles P o.home ∧ AllHandles P o.region ∧ AllHandles P o.copyOf := by
  simp only [AllHandles, handles, List.forall_mem_append, and_assoc]

instance : Holds Regular := ⟨fun r => handles r.id ++ handles r.regex⟩

@[simp] theorem allHandles_regular {r : Regular} :
    AllHandles P r ↔ AllHandles P r.id ∧ AllHandles P r.regex := by
  simp only [AllHandles, handles, List.forall_mem_append]

instance : Holds Mark := ⟨fun m => handles m.id⟩

@[simp] theorem allHandles_mark {m : Mark} : AllHandles P m ↔ AllHandles P m.id :=
  Iff.rfl

instance : Holds Element :=
  ⟨fun e => handles e.type ++ handles e.capture ++ handles e.production⟩

@[simp] theorem allHandles_element {e : Element} :
    AllHandles P e ↔ AllHandles P e.type ∧ AllHandles P e.capture ∧ AllHandles P e.production := by
  simp only [AllHandles, handles, List.forall_mem_append, and_assoc]

instance : Holds PredicateOf :=
  ⟨fun
    | .token token => handles token
    | .nonterminal nonterminal => handles nonterminal⟩

instance : Holds Production :=
  ⟨fun p => handles p.id ++ handles p.elements ++ handles p.action ++ handles p.predicateOf ++
    handles p.owner⟩

@[simp] theorem allHandles_production {p : Production} :
    AllHandles P p ↔ AllHandles P p.id ∧ AllHandles P p.elements ∧ AllHandles P p.action ∧
      AllHandles P p.predicateOf ∧ AllHandles P p.owner := by
  simp only [AllHandles, handles, List.forall_mem_append, and_assoc]

instance : Holds Nonterminal :=
  ⟨fun n => handles n.id ++ handles n.home ++ handles n.context ++ handles n.object ++
    handles n.alternatives⟩

@[simp] theorem allHandles_nonterminal {n : Nonterminal} :
    AllHandles P n ↔ AllHandles P n.id ∧ AllHandles P n.home ∧ AllHandles P n.context ∧
      AllHandles P n.object ∧ AllHandles P n.alternatives := by
  simp only [AllHandles, handles, List.forall_mem_append, and_assoc]

instance : Holds Ranked := ⟨fun r => handles r.type⟩

instance : Holds Precedence := ⟨fun p => handles p.ranked⟩

instance : Holds PatternItem :=
  ⟨fun i =>
    (match i.form with
      | .element e => handles e
      | .text _ => []) ++ handles i.binder⟩

instance : Holds SupplyItem :=
  ⟨fun i =>
    match i.form with
    | .literal e => handles e
    | .text _ => []
    | .expr e => handles e⟩

instance : Holds Pattern := ⟨fun p => handles p.id ++ handles p.home ++ handles p.items⟩

@[simp] theorem allHandles_pattern {p : Pattern} :
    AllHandles P p ↔ AllHandles P p.id ∧ AllHandles P p.home ∧ AllHandles P p.items := by
  simp only [AllHandles, handles, List.forall_mem_append, and_assoc]

instance : Holds Constructor := ⟨fun c => handles c.id ++ handles c.home ++ handles c.items⟩

@[simp] theorem allHandles_constructor {c : Constructor} :
    AllHandles P c ↔ AllHandles P c.id ∧ AllHandles P c.home ∧ AllHandles P c.items := by
  simp only [AllHandles, handles, List.forall_mem_append, and_assoc]

instance : Holds Feed := ⟨fun f => handles f.id ++ handles f.home ++ handles f.items⟩

@[simp] theorem allHandles_feed {f : Feed} :
    AllHandles P f ↔ AllHandles P f.id ∧ AllHandles P f.home ∧ AllHandles P f.items := by
  simp only [AllHandles, handles, List.forall_mem_append, and_assoc]

instance : Holds Routine :=
  ⟨fun r => handles r.id ++ handles r.result ++ handles r.params ++ handles r.code ++
    handles r.context⟩

@[simp] theorem allHandles_routine {r : Routine} :
    AllHandles P r ↔ AllHandles P r.id ∧ AllHandles P r.result ∧ AllHandles P r.params ∧
      AllHandles P r.code ∧ AllHandles P r.context := by
  simp only [AllHandles, handles, List.forall_mem_append, and_assoc]

instance : Holds Context := ⟨fun c => handles c.id ++ handles c.home ++ handles c.object⟩

@[simp] theorem allHandles_context {c : Context} :
    AllHandles P c ↔ AllHandles P c.id ∧ AllHandles P c.home ∧ AllHandles P c.object := by
  simp only [AllHandles, handles, List.forall_mem_append, and_assoc]

instance : Holds Alias := ⟨fun a => handles a.id ++ handles a.home ++ handles a.type⟩

@[simp] theorem allHandles_alias {a : Alias} :
    AllHandles P a ↔ AllHandles P a.id ∧ AllHandles P a.home ∧ AllHandles P a.type := by
  simp only [AllHandles, handles, List.forall_mem_append, and_assoc]

instance : Holds TokenDecl := ⟨fun t => handles t.regex ++ handles t.object ++ handles t.action⟩

@[simp] theorem allHandles_tokenDecl {t : TokenDecl} :
    AllHandles P t ↔ AllHandles P t.regex ∧ AllHandles P t.object ∧ AllHandles P t.action := by
  simp only [AllHandles, handles, List.forall_mem_append, and_assoc]

/-! ## Specifications and drafts -/

instance : Holds Spec :=
  ⟨fun s => handles s.namespaces ++ handles s.objects ++ handles s.scopes ++ handles s.fields ++
    handles s.pools ++ handles s.regions ++ handles s.scanners ++ handles s.tokens ++
    handles s.occurrences ++ handles s.regulars ++ handles s.regexes ++ handles s.marks ++
    handles s.productions ++ handles s.nonterminals ++ handles s.patterns ++
    handles s.constructors ++ handles s.feeds ++ handles s.routines ++ handles s.contexts ++
    handles s.aliases ++ handles s.precedences ++ handles s.globalObject ++ handles s.rootFrame ++
    handles s.argvType⟩

instance : Holds Draft :=
  ⟨fun d => handles d.spec ++ handles d.openNamespaces ++ handles d.openScanners ++
    handles d.openContexts ++ handles d.frame ++ handles d.scope⟩

namespace Spec

/-- The number of entries of a table. -/
def size (s : Spec) : Table → Nat
  | .namespaces => s.namespaces.size
  | .objects => s.objects.size
  | .scopes => s.scopes.size
  | .fields => s.fields.size
  | .pools => s.pools.size
  | .regions => s.regions.size
  | .scanners => s.scanners.size
  | .tokens => s.tokens.size
  | .occurrences => s.occurrences.size
  | .regulars => s.regulars.size
  | .regexes => s.regexes.size
  | .marks => s.marks.size
  | .productions => s.productions.size
  | .nonterminals => s.nonterminals.size
  | .patterns => s.patterns.size
  | .constructors => s.constructors.size
  | .feeds => s.feeds.size
  | .routines => s.routines.size
  | .contexts => s.contexts.size
  | .aliases => s.aliases.size

/-- A handle lies inside its table. -/
instance : Membership AnyHandle Spec := ⟨fun s h => h.index < s.size h.table⟩

instance (s : Spec) (h : AnyHandle) : Decidable (h ∈ s) :=
  inferInstanceAs (Decidable (h.index < s.size h.table))

theorem mem_iff {s : Spec} {h : AnyHandle} : h ∈ s ↔ h.index < s.size h.table := Iff.rfl

/-- No table of `s'` is shorter than that of `s`. -/
def Grows (s s' : Spec) : Prop := ∀ t, s.size t ≤ s'.size t

theorem Grows.mem {s s' : Spec} (hs : s.Grows s') {h : AnyHandle} (hh : h ∈ s) : h ∈ s' :=
  Nat.lt_of_lt_of_le hh (hs h.table)

/-- All handles in `x` lie inside the tables of `s`. -/
abbrev Covers {α : Type} [Holds α] (s : Spec) (x : α) : Prop := AllHandles (· ∈ s) x

instance {α : Type} [Holds α] (s : Spec) (x : α) : Decidable (s.Covers x) :=
  inferInstanceAs (Decidable (∀ h ∈ handles x, h ∈ s))

theorem Covers.grow {α : Type} [Holds α] {s s' : Spec} {x : α} (hx : s.Covers x)
    (hs : s.Grows s') : s'.Covers x := hx.imp fun _ hh => hs.mem hh

/-- No handle in the specification leads nowhere. -/
def Closed (s : Spec) : Prop := s.Covers s

instance (s : Spec) : Decidable s.Closed := inferInstanceAs (Decidable (s.Covers s))

/-- All handles in a specification have the property `P`, table by table. -/
@[mk_iff]
structure All (P : AnyHandle → Prop) (s : Spec) : Prop where
  namespaces : AllHandles P s.namespaces
  objects : AllHandles P s.objects
  scopes : AllHandles P s.scopes
  fields : AllHandles P s.fields
  pools : AllHandles P s.pools
  regions : AllHandles P s.regions
  scanners : AllHandles P s.scanners
  tokens : AllHandles P s.tokens
  occurrences : AllHandles P s.occurrences
  regulars : AllHandles P s.regulars
  regexes : AllHandles P s.regexes
  marks : AllHandles P s.marks
  productions : AllHandles P s.productions
  nonterminals : AllHandles P s.nonterminals
  patterns : AllHandles P s.patterns
  constructors : AllHandles P s.constructors
  feeds : AllHandles P s.feeds
  routines : AllHandles P s.routines
  contexts : AllHandles P s.contexts
  aliases : AllHandles P s.aliases
  precedences : AllHandles P s.precedences
  globalObject : AllHandles P s.globalObject
  rootFrame : AllHandles P s.rootFrame
  argvType : AllHandles P s.argvType

theorem allHandles_iff_all {s : Spec} : AllHandles P s ↔ s.All P := by
  simp only [all_iff, AllHandles, handles, List.forall_mem_append, and_assoc]

theorem Closed.all {s : Spec} (hs : s.Closed) : s.All (· ∈ s) := allHandles_iff_all.1 hs

end Spec

end LangSpec
