import LangSpec.Proofs.Course
import LangSpec.Spec.Validity

/-!
# Entries carrying their handles

Every entry of a table carries the handle it is found under, from the moment it
is added on: no step of a walk changes it. So the first check of a
specification never fails.

* `Steps.tagged`: walks keep the handles in place;
* `checkAllIds_eq_nil_iff`: the check that every entry carries its own handle.
-/

namespace LangSpec

/-- Every entry of the arena carries its handle. -/
def Arena.Tagged {t : Table} {α : Type} (id : α → Handle t) (a : Arena t α) : Prop :=
  a.Forall fun h x => id x = h

namespace Arena.Tagged

variable {t : Table} {α : Type} {id : α → Handle t} {a : Arena t α}

theorem push {x : α} (ha : a.Tagged id) (hx : id x = a.next) : (a.push x).Tagged id :=
  Forall.push ha hx

theorem modify {h : Handle t} {f : α → α} (ha : a.Tagged id) (hf : ∀ x, id (f x) = id x) :
    (a.modify h f).Tagged id :=
  Forall.modify ha fun x _ hx => (hf x).trans hx

end Arena.Tagged

theorem Annotation.id_apply (a : Annotation) (x : Field) : (a.apply x).id = x.id := by
  cases a <;> rfl

namespace Spec

open Violation

/-- Every entry of the tables that are checked carries its handle. -/
@[mk_iff]
structure Tagged (s : Spec) : Prop where
  namespaces : s.namespaces.Tagged Namespace.id
  objects : s.objects.Tagged Object.id
  scopes : s.scopes.Tagged Scope.id
  fields : s.fields.Tagged Field.id
  regions : s.regions.Tagged Region.id
  scanners : s.scanners.Tagged Scanner.id
  tokens : s.tokens.Tagged Token.id
  occurrences : s.occurrences.Tagged Occurrence.id
  productions : s.productions.Tagged Production.id
  nonterminals : s.nonterminals.Tagged Nonterminal.id
  patterns : s.patterns.Tagged Pattern.id
  constructors : s.constructors.Tagged Constructor.id
  routines : s.routines.Tagged Routine.id
  contexts : s.contexts.Tagged Context.id

variable {s s' : Spec}

namespace Tagged

theorem addToken {t : Token} (hs : s.Tagged) : (s.addToken t).Tagged :=
  { hs with
    namespaces := hs.namespaces.modify fun _ => rfl
    scanners := hs.scanners.modify fun _ => rfl
    tokens := hs.tokens.push rfl }

theorem addOccurrence {token : TokenId} {region : RegionId} {copyOf : Option OccurrenceId}
    (hs : s.Tagged) : (s.addOccurrence token region copyOf).Tagged :=
  { hs with
    tokens := hs.tokens.modify fun _ => rfl
    occurrences := hs.occurrences.push rfl }

theorem addOccurrences {token : TokenId} (hs : s.Tagged) : (s.addOccurrences token).Tagged :=
  hs.addOccurrence.addOccurrence

theorem addLiteral {home : NamespaceId} {text : String} {primary : OccurrenceId} (hs : s.Tagged) :
    (s.addLiteral home text primary).Tagged :=
  { hs with namespaces := hs.namespaces.modify fun _ => rfl }

end Tagged

theorem Edit.tagged (h : s.Edit s') (hs : s.Tagged) : s'.Tagged := by
  cases h with
  | addNamespace =>
    exact { hs with namespaces := (hs.namespaces.push rfl).modify fun _ => rfl }
  | addObject => exact { hs with objects := hs.objects.push rfl, scopes := hs.scopes.push rfl }
  | addScope =>
    exact { hs with
      objects := hs.objects.modify fun _ => rfl
      scopes := (hs.scopes.push rfl).modify fun _ => rfl }
  | addField => exact { hs with fields := hs.fields.push rfl }
  | annotate a => exact { hs with fields := hs.fields.modify a.id_apply }
  | bindField => exact { hs with scopes := hs.scopes.modify fun _ => rfl }
  | addScanner =>
    -- The later regions carry the handles that follow that of the first one.
    refine { hs with
      regions := (((hs.regions.push rfl).push ?_).push ?_).push ?_
      scanners := hs.scanners.push rfl }
    all_goals simp [Arena.next]
  | addToken => exact hs.addToken.addOccurrences
  | addLiteral => exact hs.addToken.addOccurrences.addLiteral
  | addSentinel => exact hs.addToken
  | addRegex | addMark | addFeed | rank => exact { hs with }
  | addRegular | addAlias => exact { hs with namespaces := hs.namespaces.modify fun _ => rfl }
  | setAtEnd => exact { hs with regions := hs.regions.modify fun _ => rfl }
  | renumber => exact { hs with productions := hs.productions.modify fun _ => rfl }
  | addPattern => exact { hs with patterns := hs.patterns.push rfl }
  | addConstructor => exact { hs with constructors := hs.constructors.push rfl }
  | addRoutine => exact { hs with routines := hs.routines.push rfl }
  | addContext =>
    exact { hs with
      namespaces := hs.namespaces.modify fun _ => rfl
      contexts := hs.contexts.push rfl }

theorem Bind.tagged {n : NonterminalId} (h : Bind n s s') (hs : s.Tagged) : s'.Tagged := by
  cases h with
  | own | setCapture => exact { hs with productions := hs.productions.modify fun _ => rfl }
  | addSource | typed => exact { hs with fields := hs.fields.modify fun _ => rfl }
  | bindField => exact { hs with scopes := hs.scopes.modify fun _ => rfl }

theorem Tagged.addProduction {p : Production} (hs : s.Tagged) : (s.addProduction p).Tagged :=
  { hs with productions := hs.productions.push rfl }

theorem Tagged.enlist {n : Nonterminal} (hs : s.Tagged) : (s.enlist n).Tagged :=
  { hs with
    namespaces := hs.namespaces.modify fun _ => rfl
    nonterminals := hs.nonterminals.push rfl }

theorem tagged_initial (o : Options) : (initial o).Tagged where
  namespaces := .push .empty rfl
  objects := .push (.push .empty rfl) rfl
  scopes := .push (.push .empty rfl) rfl
  fields := .empty
  regions := .empty
  scanners := .empty
  tokens := .empty
  occurrences := .empty
  productions := .empty
  nonterminals := .empty
  patterns := .empty
  constructors := .empty
  routines := .empty
  contexts := .empty

theorem Steps.tagged (h : Steps s s') (hc : s.Closed) (hs : s.Tagged) : s'.Tagged :=
  (h.preserves hc Edit.tagged Tagged.addProduction Bind.tagged Tagged.enlist hs).2

/-! ## The check -/

theorem ensure_eq_nil {ok : Bool} {loc : Location} {flaw : Flaw} :
    ensure ok loc flaw = [] ↔ ok = true := by
  cases ok <;> simp [ensure]

theorem checkIds_eq_nil_iff {t : Table} {α : Type} {what : String} {a : Arena t α}
    {id : α → Handle t} : checkIds what a id = [] ↔ a.Tagged id := by
  rw [checkIds, List.flatMap_eq_nil_iff]
  constructor
  · intro h i x hx
    have h := h (x, i.index) (Arena.mem_zipIdx_toList.2 hx)
    rw [ensure_eq_nil, beq_iff_eq] at h
    exact Handle.index_injective h
  · intro ha ⟨x, i⟩ hx
    rw [Arena.mem_zipIdx_toList] at hx
    rw [ensure_eq_nil, beq_iff_eq]
    exact congrArg Handle.index (ha ⟨i⟩ x hx)

theorem checkAllIds_eq_nil_iff : s.checkAllIds = [] ↔ s.Tagged := by
  simp only [checkAllIds, List.append_eq_nil_iff, checkIds_eq_nil_iff, tagged_iff, and_assoc]

end Spec

end LangSpec
