import LangSpec.Proofs.Course

/-!
# What lasts

Entries come to the end of their tables and are changed in place, but never in
what tells them from others: an entry keeps its handle and its name, what it is
within, whom it belongs to, the namespace and the scanner of its declaration,
and what it was copied from. The three kinds of dictionaries are written to only
under names that are free. So the first definition of a name stays: a name that
is found once is found for good, and leads to the same thing.

* `Endures`: what all steps leave as it is;
* `Edit.endures`, `Steps.endures`: one edit, and any number of steps;
* `first_definition_stays`: the law, from any draft on.
-/

namespace LangSpec

open Arena (Retains Finds)

/-- Namespaces stay where they are in the tree, and what is defined in them
    stays. -/
structure NamespacesEndure (a a' : Arena .namespaces Namespace) : Prop where
  entries : Retains (fun x : Namespace => (x.id, x.name, x.parent)) a a'
  regulars : Finds Namespace.regular? a a'
  literals : Finds Namespace.literal? a a'

namespace NamespacesEndure

variable {a a' a'' : Arena .namespaces Namespace} {n : NamespaceId} {f : Namespace → Namespace}

theorem refl : NamespacesEndure a a := ⟨.refl, .refl, .refl⟩

theorem trans (h : NamespacesEndure a a') (h' : NamespacesEndure a' a'') :
    NamespacesEndure a a'' :=
  ⟨h.entries.trans h'.entries, h.regulars.trans h'.regulars, h.literals.trans h'.literals⟩

theorem push {x : Namespace} : NamespacesEndure a (a.push x) :=
  ⟨.push, .push fun _ => rfl, .push fun _ => rfl⟩

/-- A namespace changed in other respects. -/
theorem modify (hi : ∀ x, ((f x).id, (f x).name, (f x).parent) = (x.id, x.name, x.parent))
    (hr : ∀ x, (f x).regulars = x.regulars) (hl : ∀ x, (f x).literals = x.literals) :
    NamespacesEndure a (a.modify n f) where
  entries := .modify hi
  regulars := .modify fun k e he => by rwa [Namespace.regular?, hr]
  literals := .modify fun k i hi => by rwa [Namespace.literal?, hl]

/-- A definition entered under a free name. -/
theorem insertRegular {name : String} {e : RegularEntry}
    (hn : (a.get n).regular? name = none) :
    NamespacesEndure a
      (a.modify n fun x => { x with regulars := x.regulars.insert name e }) where
  entries := .modify fun _ => rfl
  regulars := .modify fun _ _ hv => Dict.find?_insert_of_free hn hv
  literals := .modify fun _ _ hv => hv

/-- A literal entered under a text that is free. -/
theorem insertLiteral {text : String} {i : OccurrenceId}
    (hn : (a.get n).literal? text = none) :
    NamespacesEndure a
      (a.modify n fun x => { x with literals := x.literals.insert text i }) where
  entries := .modify fun _ => rfl
  regulars := .modify fun _ _ hv => hv
  literals := .modify fun _ _ hv => Dict.find?_insert_of_free hn hv

end NamespacesEndure

/-- Scopes stay where they are, and so does what is declared in them. -/
structure ScopesEndure (a a' : Arena .scopes Scope) : Prop where
  entries : Retains (fun x : Scope => (x.id, x.owner, x.parent)) a a'
  members : Finds Scope.member? a a'

namespace ScopesEndure

variable {a a' a'' : Arena .scopes Scope} {c : ScopeId} {f : Scope → Scope}

theorem refl : ScopesEndure a a := ⟨.refl, .refl⟩

theorem trans (h : ScopesEndure a a') (h' : ScopesEndure a' a'') : ScopesEndure a a'' :=
  ⟨h.entries.trans h'.entries, h.members.trans h'.members⟩

theorem push {x : Scope} : ScopesEndure a (a.push x) := ⟨.push, .push fun _ => rfl⟩

/-- A scope changed in other respects. -/
theorem modify (hi : ∀ x, ((f x).id, (f x).owner, (f x).parent) = (x.id, x.owner, x.parent))
    (hm : ∀ x, (f x).members = x.members) : ScopesEndure a (a.modify c f) where
  entries := .modify hi
  members := .modify fun k g hg => by rwa [Scope.member?, hm]

/-- A field put into a scope under a free name. -/
theorem insert {name : String} {g : FieldId} (hn : (a.get c).member? name = none) :
    ScopesEndure a (a.modify c fun x => x.insert name g) where
  entries := .modify fun _ => rfl
  members := .modify fun _ _ hv => Dict.find?_insert_of_free hn hv

end ScopesEndure

namespace Spec

variable {s s' s'' : Spec}

/-- No entry is lost or becomes another one, and no name that leads somewhere
    leads elsewhere. -/
structure Endures (s s' : Spec) : Prop where
  namespaces : NamespacesEndure s.namespaces s'.namespaces
  objects : Retains (fun x : Object => (x.id, x.name)) s.objects s'.objects
  scopes : ScopesEndure s.scopes s'.scopes
  fields : Retains (fun x : Field => (x.id, x.name)) s.fields s'.fields
  regions : Retains Region.id s.regions s'.regions
  scanners : Retains Scanner.id s.scanners s'.scanners
  tokens : Retains (fun x : Token => (x.id, x.name, x.home, x.scanner)) s.tokens s'.tokens
  occurrences : Retains (fun x : Occurrence => (x.id, x.home, x.copyOf)) s.occurrences
    s'.occurrences
  regulars : Retains (fun x : Regular => (x.id, x.name)) s.regulars s'.regulars
  marks : Retains Mark.id s.marks s'.marks
  productions : Retains (fun x : Production => (x.id, x.name)) s.productions s'.productions
  nonterminals : Retains (fun x : Nonterminal => (x.id, x.name, x.home)) s.nonterminals
    s'.nonterminals
  patterns : Retains (fun x : Pattern => (x.id, x.home)) s.patterns s'.patterns
  constructors : Retains (fun x : Constructor => (x.id, x.home)) s.constructors s'.constructors
  feeds : Retains (fun x : Feed => (x.id, x.home)) s.feeds s'.feeds
  routines : Retains (fun x : Routine => (x.id, x.name)) s.routines s'.routines
  contexts : Retains (fun x : Context => (x.id, x.home)) s.contexts s'.contexts
  aliases : Retains (fun x : Alias => (x.id, x.name, x.home)) s.aliases s'.aliases
  precedences : s.precedences <+: s'.precedences

namespace Endures

theorem refl (s : Spec) : s.Endures s where
  namespaces := .refl
  objects := .refl
  scopes := .refl
  fields := .refl
  regions := .refl
  scanners := .refl
  tokens := .refl
  occurrences := .refl
  regulars := .refl
  marks := .refl
  productions := .refl
  nonterminals := .refl
  patterns := .refl
  constructors := .refl
  feeds := .refl
  routines := .refl
  contexts := .refl
  aliases := .refl
  precedences := List.prefix_rfl

theorem trans (h : s.Endures s') (h' : s'.Endures s'') : s.Endures s'' where
  namespaces := h.namespaces.trans h'.namespaces
  objects := h.objects.trans h'.objects
  scopes := h.scopes.trans h'.scopes
  fields := h.fields.trans h'.fields
  regions := h.regions.trans h'.regions
  scanners := h.scanners.trans h'.scanners
  tokens := h.tokens.trans h'.tokens
  occurrences := h.occurrences.trans h'.occurrences
  regulars := h.regulars.trans h'.regulars
  marks := h.marks.trans h'.marks
  productions := h.productions.trans h'.productions
  nonterminals := h.nonterminals.trans h'.nonterminals
  patterns := h.patterns.trans h'.patterns
  constructors := h.constructors.trans h'.constructors
  feeds := h.feeds.trans h'.feeds
  routines := h.routines.trans h'.routines
  contexts := h.contexts.trans h'.contexts
  aliases := h.aliases.trans h'.aliases
  precedences := h.precedences.trans h'.precedences

theorem addToken {t : Token} : s.Endures (s.addToken t) :=
  { refl s with
    namespaces := .modify (fun _ => rfl) (fun _ => rfl) fun _ => rfl
    scanners := .modify fun _ => rfl
    tokens := .push }

theorem addOccurrence {token : TokenId} {region : RegionId} {copyOf : Option OccurrenceId} :
    s.Endures (s.addOccurrence token region copyOf) :=
  { refl s with
    tokens := .modify fun _ => rfl
    occurrences := .push }

theorem addOccurrences {token : TokenId} : s.Endures (s.addOccurrences token) :=
  addOccurrence.trans addOccurrence

theorem addLiteral {home : NamespaceId} {text : String} {primary : OccurrenceId}
    (hn : (s.namespaces.get home).literal? text = none) :
    s.Endures (s.addLiteral home text primary) :=
  { refl s with namespaces := .insertLiteral hn }

theorem addProduction {p : Production} : s.Endures (s.addProduction p) :=
  { refl s with productions := .push }

theorem enlist {n : Nonterminal} : s.Endures (s.enlist n) :=
  { refl s with
    namespaces := .modify (fun _ => rfl) (fun _ => rfl) fun _ => rfl
    nonterminals := .push }

end Endures

theorem Edit.endures (h : s.Edit s') : s.Endures s' := by
  have hs := Endures.refl s
  cases h with
  | addNamespace =>
    exact { hs with
      namespaces := .trans .push (.modify (fun _ => rfl) (fun _ => rfl) fun _ => rfl) }
  | addObject => exact { hs with objects := .push, scopes := .push }
  | addScope =>
    exact { hs with
      objects := .modify fun _ => rfl
      scopes := .trans .push (.modify (fun _ => rfl) fun _ => rfl) }
  | addField => exact { hs with fields := .push }
  | annotate a => exact { hs with fields := .modify fun x => by cases a <;> rfl }
  | bindField _ _ hn => exact { hs with scopes := .insert hn }
  | addScanner =>
    exact { hs with
      regions := Retains.push.trans (Retains.push.trans (Retains.push.trans .push))
      scanners := .push }
  | addToken => exact Endures.addToken.trans Endures.addOccurrences
  | @addLiteral t l _ _ _ hn =>
    refine (Endures.addToken.trans Endures.addOccurrences).trans (Endures.addLiteral ?_)
    -- The token has changed nothing about the literals of its home.
    have hl := Arena.apply_get_modify (a := s.namespaces) (h := t.home) (g := Namespace.literals)
      (f := fun n => { n with tokens := n.tokens ++ [s.tokens.next] }) (fun _ => rfl) t.home
    exact (congrArg (Dict.find? · l.meaning.text) hl).trans hn
  | addSentinel => exact .addToken
  | addRegex => exact { hs with }
  | addMark => exact { hs with marks := .push }
  | addRegular _ _ _ _ hn =>
    exact { hs with namespaces := .insertRegular hn, regulars := .push }
  | setAtEnd => exact { hs with regions := .modify fun _ => rfl }
  | renumber => exact { hs with productions := .modify fun _ => rfl }
  | addPattern => exact { hs with patterns := .push }
  | addConstructor => exact { hs with constructors := .push }
  | addFeed => exact { hs with feeds := .push }
  | addRoutine => exact { hs with routines := .push }
  | addContext =>
    exact { hs with
      namespaces := .modify (fun _ => rfl) (fun _ => rfl) fun _ => rfl
      contexts := .push }
  | addAlias =>
    exact { hs with
      namespaces := .modify (fun _ => rfl) (fun _ => rfl) fun _ => rfl
      aliases := .push }
  | rank => exact { hs with precedences := List.prefix_append _ _ }

/-- What a new nonterminal binds is bound under free names, too. -/
theorem Bind.endures {n : NonterminalId} (h : Bind n s s') : s.Endures s' := by
  have hs := Endures.refl s
  cases h with
  | own | setCapture => exact { hs with productions := .modify fun _ => rfl }
  | addSource | typed => exact { hs with fields := .modify fun _ => rfl }
  | bindField _ hn => exact { hs with scopes := .insert hn }

theorem Steps.endures (h : Steps s s') (hc : s.Closed) : s.Endures s' :=
  (h.preserves (Q := s.Endures) hc (fun he hs => hs.trans he.endures)
    (fun hs => hs.trans .addProduction) (fun hb hs => hs.trans hb.endures)
    (fun hs => hs.trans .enlist) (.refl s)).2

theorem Steps.grows (h : Steps s s') (hc : s.Closed) : s.Grows s' :=
  (h.preserves (Q := s.Grows) hc (fun he hs => hs.trans he.grows)
    (fun hs => hs.trans (grows_addProduction _)) (fun hb hs => by rwa [Grows, hb.size])
    (fun hs => hs.trans (grows_enlist _)) fun _ => Nat.le_refl _).2

end Spec

namespace Draft

variable {o : Options} {d : Draft} {ops : List Op}

/-- From any draft on, whatever is written after it, no table gets shorter, its
    entries stay what they are, and a regular definition, a literal or a field
    that is found under a name is found under it for good. -/
theorem first_definition_stays (hd : Reachable o d) (hops : d.AdmitsAll ops) :
    d.spec.Grows (d.run ops).spec ∧ d.spec.Endures (d.run ops).spec := by
  have h := hd.steps_run hops
  exact ⟨h.grows hd.sound.closed, h.endures hd.sound.closed⟩

/-- A regular definition, a literal and a field are declared once more, under
    names that are taken. -/
theorem first_definition_stays_sums :
    let d := (start {}).run Op.sums
    let ops : List Op :=
      [ .declareRegular { text := "letter" } (.ofLiteral { raw := "'b'" }) true
      , .declareLiteral { raw := "\"+\"" } false false
      , .declareField ⟨3⟩ ⟨1⟩ ]
    Reachable {} d ∧ d.AdmitsAll ops ∧ (d.run ops).diagnostics.length = 3 ∧
      d.spec.Grows (d.run ops).spec ∧ d.spec.Endures (d.run ops).spec := by
  refine ⟨reachable_sums, ?_, ?_, first_definition_stays reachable_sums ?_⟩
  all_goals decide +kernel

end Draft

end LangSpec
