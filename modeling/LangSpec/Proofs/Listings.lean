import LangSpec.Proofs.NamespaceTree

/-!
# What namespaces and scanners list

A thing is declared in a namespace, and a token in a scanner, too. This is noted
twice: the thing names its namespace, and the namespace lists the thing. The two
notes never differ, whatever is opened, closed and opened again in between: a
namespace lists the tokens, nonterminals, aliases and contexts that name it, and
a scanner the tokens that name it, in the order they were declared in. So a name
that is looked up in a namespace leads to the first thing declared there under
it.

* `Arena.Lists`: the entries of a table list those of another one;
* `Lists.enter`: a new entry is listed by its owner;
* `Spec.Listed`: what namespaces and scanners list;
* `Listed.token?_eq`, `Listed.nonterminal?_eq`: lookups in a namespace search
  the table for the first thing that was declared there;
* `declarations_listed`: the whole law.
-/

namespace LangSpec

namespace Arena

variable {t u : Table} {α β : Type} [Inhabited α] [Inhabited β] {a : Arena t α} {b : Arena u β}
  {list : α → List (Handle u)} {owner : β → Handle t}

/-- Every entry of `a` lists the entries of `b` it owns, and no others, in their
    order. -/
def Lists (a : Arena t α) (list : α → List (Handle u)) (b : Arena u β) (owner : β → Handle t) :
    Prop :=
  ∀ h, list (a.get h) = b.select fun x => owner x == h

namespace Lists

theorem empty (hd : list default = []) : (empty : Arena t α).Lists list (empty : Arena u β) owner :=
  fun i => by
    have hi : i ∉ (Arena.empty : Arena t α) := Nat.not_lt_zero _
    rw [get_of_not_mem hi, hd, select_eq_nil fun i hi => absurd hi (Nat.not_lt_zero _)]

/-- An owner that owns nothing yet. -/
theorem push {x : α} (h : a.Lists list b owner) (hx : list x = list default) :
    (a.push x).Lists list b owner :=
  fun i => (apply_get_push hx i).trans (h i)

/-- An owner changed in other respects. -/
theorem modify {i : Handle t} {f : α → α} (h : a.Lists list b owner)
    (hf : ∀ x, list (f x) = list x) : (a.modify i f).Lists list b owner :=
  fun j => (apply_get_modify hf j).trans (h j)

/-- A listed entry changed in other respects. -/
theorem modifyListed {i : Handle u} {f : β → β} (h : a.Lists list b owner)
    (hf : ∀ x, owner (f x) = owner x) : a.Lists list (b.modify i f) owner :=
  fun j => (h j).trans (select_modify fun x => by rw [hf]).symm

/-- A new entry comes last in the list of its owner. -/
theorem enter {x : β} {f : α → α} (h : a.Lists list b owner) (hx : owner x ∈ a)
    (hf : ∀ y, list (f y) = list y ++ [b.next]) :
    (a.modify (owner x) f).Lists list (b.push x) owner := by
  intro i
  rw [select_push, ← h i]
  by_cases e : owner x = i
  · rw [← e, get_modify_self hx, hf, if_pos (beq_self_eq_true _)]
  · rw [get_modify_of_ne e, if_neg fun e' => e (beq_iff_eq.1 e'), List.append_nil]

end Lists

/-! ## Looking up what is listed -/

theorem map_get_ids : a.ids.map a.get = a.toList := by
  refine List.ext_getElem? fun i => ?_
  rw [List.getElem?_map, getElem?_toList, ids, List.getElem?_map]
  by_cases hi : i < a.size
  · rw [List.getElem?_range hi, get?_eq_some_get hi]
    rfl
  · rw [List.getElem?_eq_none (by rwa [List.length_range, ← Nat.not_lt]),
      get?_eq_none_iff.2 hi]
    rfl

/-- The entries with a property are found in the order of the table. -/
theorem map_get_select {p : α → Bool} : (a.select p).map a.get = a.toList.filter p := by
  rw [← map_get_ids, List.filter_map]
  rfl

/-- To look among the entries with a property is to look for an entry with it. -/
theorem find?_select {p q : α → Bool} :
    ((a.select p).map a.get).find? q = a.toList.find? fun x => p x && q x := by
  rw [map_get_select, List.find?_filter]
  simp only [Bool.decide_and, Bool.decide_eq_true]

end Arena

namespace Spec

variable {s s' : Spec}

/-- Namespaces and scanners list what was declared in them. -/
structure Listed (s : Spec) : Prop where
  tokens : s.namespaces.Lists Namespace.tokens s.tokens Token.home
  nonterminals : s.namespaces.Lists Namespace.nonterminals s.nonterminals Nonterminal.home
  aliases : s.namespaces.Lists Namespace.aliases s.aliases Alias.home
  contexts : s.namespaces.Lists (fun n => n.contexts.map (·.context)) s.contexts Context.home
  contextNames : s.namespaces.Forall fun _ n => ∀ e ∈ n.contexts, e.name = n.name
  scannerTokens : s.scanners.Lists Scanner.tokens s.tokens Token.scanner

namespace Listed

theorem initial (o : Options) : (initial o).Listed where
  tokens := (Arena.Lists.empty rfl).push rfl
  nonterminals := (Arena.Lists.empty rfl).push rfl
  aliases := (Arena.Lists.empty rfl).push rfl
  contexts := (Arena.Lists.empty rfl).push rfl
  contextNames := .push .empty fun _ he => absurd he List.not_mem_nil
  scannerTokens := .empty rfl

/-- Namespaces changed in other respects. -/
theorem modifyNamespace {n : NamespaceId} {f : Namespace → Namespace} (hs : s.Listed)
    (ht : ∀ x, (f x).tokens = x.tokens) (hn : ∀ x, (f x).nonterminals = x.nonterminals)
    (ha : ∀ x, (f x).aliases = x.aliases) (hc : ∀ x, (f x).contexts = x.contexts)
    (hname : ∀ x, (f x).name = x.name) :
    { s with namespaces := s.namespaces.modify n f }.Listed where
  tokens := hs.tokens.modify ht
  nonterminals := hs.nonterminals.modify hn
  aliases := hs.aliases.modify ha
  contexts := hs.contexts.modify fun x => by rw [hc]
  contextNames := hs.contextNames.modify fun x _ hx => by
    rw [hc, hname]
    exact hx
  scannerTokens := hs.scannerTokens

theorem addNamespace {loc : Location} {name : String} {parent : NamespaceId} (hs : s.Listed) :
    (s.addNamespace loc name parent).Listed := by
  let x : Namespace := { id := s.namespaces.next, loc, name, parent := some parent }
  have h : { s with namespaces := s.namespaces.push x }.Listed :=
    { hs with
      tokens := hs.tokens.push rfl
      nonterminals := hs.nonterminals.push rfl
      aliases := hs.aliases.push rfl
      contexts := hs.contexts.push rfl
      contextNames := hs.contextNames.push fun _ he => absurd he List.not_mem_nil }
  exact h.modifyNamespace (fun _ => rfl) (fun _ => rfl) (fun _ => rfl) (fun _ => rfl) fun _ => rfl

theorem addToken {t : Token} (hs : s.Listed) (ht : t.FitsIn s) : (s.addToken t).Listed :=
  let t' : Token := { t with id := s.tokens.next, occurrences := [] }
  { tokens := hs.tokens.enter (x := t') ht.home fun _ => rfl
    nonterminals := hs.nonterminals.modify fun _ => rfl
    aliases := hs.aliases.modify fun _ => rfl
    contexts := hs.contexts.modify fun _ => rfl
    contextNames := hs.contextNames.modify fun _ _ hx => hx
    scannerTokens := hs.scannerTokens.enter (x := t') ht.scanner fun _ => rfl }

theorem addOccurrence {token : TokenId} {region : RegionId} {copyOf : Option OccurrenceId}
    (hs : s.Listed) : (s.addOccurrence token region copyOf).Listed where
  tokens := hs.tokens.modifyListed fun _ => rfl
  nonterminals := hs.nonterminals
  aliases := hs.aliases
  contexts := hs.contexts
  contextNames := hs.contextNames
  scannerTokens := hs.scannerTokens.modifyListed fun _ => rfl

theorem addOccurrences {token : TokenId} (hs : s.Listed) : (s.addOccurrences token).Listed :=
  hs.addOccurrence.addOccurrence

theorem addContext {name : String} {loc : Location} {home : NamespaceId} {object : ObjectId}
    (hs : s.Listed) (hh : home ∈ s.namespaces) (hn : (s.namespaces.get home).name = name) :
    (s.addContext name loc home object).Listed where
  tokens := hs.tokens.modify fun _ => rfl
  nonterminals := hs.nonterminals.modify fun _ => rfl
  aliases := hs.aliases.modify fun _ => rfl
  contexts :=
    let x : Context := { id := s.contexts.next, loc, home, object }
    hs.contexts.enter (x := x) hh fun _ => List.map_append
  contextNames := hs.contextNames.modify fun x hx h => by
    rw [Arena.get_eq hx] at hn
    exact List.forall_mem_append.2 ⟨h, List.forall_mem_singleton.2 hn.symm⟩
  scannerTokens := hs.scannerTokens

theorem addAlias {name : String} {loc : Location} {home : NamespaceId} {type : TypeRef}
    (hs : s.Listed) (hh : home ∈ s.namespaces) : (s.addAlias name loc home type).Listed where
  tokens := hs.tokens.modify fun _ => rfl
  nonterminals := hs.nonterminals.modify fun _ => rfl
  aliases :=
    let x : Alias := { id := s.aliases.next, loc, home, name, type }
    hs.aliases.enter (x := x) hh fun _ => rfl
  contexts := hs.contexts.modify fun _ => rfl
  contextNames := hs.contextNames.modify fun _ _ hx => hx
  scannerTokens := hs.scannerTokens

theorem enlist {n : Nonterminal} (hs : s.Listed) (hh : n.home ∈ s.namespaces) :
    (s.enlist n).Listed where
  tokens := hs.tokens.modify fun _ => rfl
  nonterminals :=
    let x : Nonterminal := { n with id := s.nonterminals.next }
    hs.nonterminals.enter (x := x) hh fun _ => rfl
  aliases := hs.aliases.modify fun _ => rfl
  contexts := hs.contexts.modify fun _ => rfl
  contextNames := hs.contextNames.modify fun _ _ hx => hx
  scannerTokens := hs.scannerTokens

end Listed

theorem Edit.listed (h : s.Edit s') (hs : s.Listed) : s'.Listed := by
  cases h with
  | addNamespace => exact hs.addNamespace
  | addScanner => exact { hs with scannerTokens := hs.scannerTokens.push rfl }
  | addToken ht => exact (hs.addToken ht).addOccurrences
  | addLiteral ht =>
    exact (hs.addToken ht).addOccurrences.modifyNamespace (fun _ => rfl) (fun _ => rfl)
      (fun _ => rfl) (fun _ => rfl) fun _ => rfl
  | addSentinel ht => exact hs.addToken ht
  | @addRegular home name loc regex isSealed =>
    let e : RegularEntry := { target := s.regulars.next, isSealed, loc }
    have h := hs.modifyNamespace (n := home)
      (f := fun n => { n with regulars := n.regulars.insert name e }) (fun _ => rfl)
      (fun _ => rfl) (fun _ => rfl) (fun _ => rfl) fun _ => rfl
    exact { h with }
  | addContext _ _ _ hh _ hn => exact hs.addContext hh hn
  | addAlias _ _ hh _ => exact hs.addAlias hh
  | _ => exact { hs with }

theorem Bind.listed {n : NonterminalId} (h : Bind n s s') (hs : s.Listed) : s'.Listed := by
  cases h <;> exact { hs with }

theorem listed_addNonterminal {n : Nonterminal} (hs : s.Listed) (hc : s.Closed)
    (hn : n.FitsIn s) : (s.addNonterminal n).Listed := by
  rw [addNonterminal_eq hc hn]
  have hb := binds_bindAlternatives hc hn
  have hh : n.home ∈ (s.bindAlternatives n).namespaces := by
    rw [Binds.eq hb Bind.namespaces]
    exact hn.home
  refine Listed.enlist ?_ hh
  generalize s.bindAlternatives n = s₁ at hb
  induction hb with
  | refl => exact hs
  | tail _ hb ih => exact hb.listed ih

theorem Step.listed (h : s.Step s') (hc : s.Closed) (hs : s.Listed) : s'.Listed := by
  cases h with
  | edit h => exact h.listed hs
  | production => exact { hs with }
  | nonterminal hn => exact listed_addNonterminal hs hc hn

theorem Steps.listed {o : Options} (h : Steps (initial o) s) : s.Listed :=
  have hs : s.Closed ∧ s.Listed := by
    induction h with
    | refl => exact ⟨closed_initial o, .initial o⟩
    | tail _ h ih => exact ⟨h.closed ih.1, h.listed ih.1 ih.2⟩
  hs.2

namespace Listed

/-- A token found under a name is the first one declared under it in the
    namespace. -/
theorem token?_eq (hs : s.Listed) (n : NamespaceId) (name : String) :
    s.token? n name = s.tokens.toList.find? fun t => t.home == n && t.name == name := by
  rw [token?, hs.tokens n, Arena.find?_select]

/-- A nonterminal found under a name is the first one declared under it in the
    namespace. -/
theorem nonterminal?_eq (hs : s.Listed) (n : NamespaceId) (name : String) :
    s.nonterminal? n name =
      s.nonterminals.toList.find? fun t => t.home == n && t.name == name := by
  rw [nonterminal?, hs.nonterminals n, Arena.find?_select]

/-- The contexts of a namespace are listed under its name. -/
theorem contexts_eq (hs : s.Listed) (n : NamespaceId) :
    (s.namespaces.get n).contexts =
      (s.contexts.select fun x => x.home == n).map fun c =>
        { name := (s.namespaces.get n).name, context := c } := by
  rw [← hs.contexts n, List.map_map]
  refine (List.map_id _).symm.trans (List.map_congr_left fun e he => ?_)
  by_cases hn : n ∈ s.namespaces
  · exact congrArg (ContextEntry.mk · e.context)
      (hs.contextNames n _ (Arena.get?_eq_some_get hn) e he)
  · rw [Arena.get_of_not_mem hn] at he
    exact absurd he List.not_mem_nil

end Listed

end Spec

/-- A namespace is opened twice, the second time for a context. A token is
    declared in it each time, and another one of that name outside, in a scanner
    of its own. -/
def Op.words : List Op :=
  let letter : TokenDecl := .named { text := "letter" } (some (.ofLiteral { raw := "'a'" }))
  [ .openNamespace { text := "words" }
  , .openScanner ⟨1, 0⟩
  , .declareToken letter
  , .closeScanner
  , .closeNamespace
  , .declareToken letter
  , .openContext { text := "words" }
  , .declareToken letter
  , .declareAlias { text := "word" } (.named { loc := ⟨9, 0⟩ } "letter")
  , .closeContext ]

namespace Draft

variable {o : Options} {d : Draft}

theorem reachable_words : Reachable {} ((start {}).run Op.words) :=
  Reachable.start.run (by decide +kernel)

theorem Reachable.listed (hd : Reachable o d) : d.spec.Listed := hd.steps.listed

/-- However namespaces, contexts and scanners are opened, closed and opened
    again: a namespace lists the tokens, nonterminals, aliases and contexts that
    were declared in it, a scanner its tokens, each list in the order of the
    table and complete; and a name looked up in a namespace leads to the first
    thing declared there under it. -/
theorem declarations_listed (hd : Reachable o d) :
    (∀ n, let home := d.spec.namespaces.get n
      home.tokens = d.spec.tokens.select (·.home == n) ∧
      home.nonterminals = d.spec.nonterminals.select (·.home == n) ∧
      home.aliases = d.spec.aliases.select (·.home == n) ∧
      home.contexts =
        (d.spec.contexts.select (·.home == n)).map fun c => { name := home.name, context := c }) ∧
    (∀ c, (d.spec.scanners.get c).tokens = d.spec.tokens.select (·.scanner == c)) ∧
    ∀ n name,
      d.spec.token? n name = d.spec.tokens.toList.find? (fun t => t.home == n && t.name == name) ∧
      d.spec.nonterminal? n name =
        d.spec.nonterminals.toList.find? fun t => t.home == n && t.name == name := by
  have hs := hd.listed
  refine ⟨fun n => ?_, hs.scannerTokens, fun n name => ?_⟩
  · exact ⟨hs.tokens n, hs.nonterminals n, hs.aliases n, hs.contexts_eq n⟩
  · exact ⟨hs.token?_eq n name, hs.nonterminal?_eq n name⟩

theorem declarations_listed_words :
    let d := (start {}).run Op.words
    Reachable {} d ∧
      (d.spec.token? ⟨1⟩ "letter").map (·.id) = some ⟨0⟩ ∧
      (d.spec.namespaces.get ⟨1⟩).tokens = [⟨0⟩, ⟨2⟩] ∧
      (d.spec.namespaces.get ⟨1⟩).contexts = [{ name := "words", context := ⟨0⟩ }] ∧
      (d.spec.scanners.get ⟨1⟩).tokens = [⟨1⟩] := by
  obtain ⟨hn, hc, hf⟩ := declarations_listed reachable_words
  obtain ⟨ht, -, -, hx⟩ := hn ⟨1⟩
  refine ⟨reachable_words, (congrArg (Option.map Token.id) (hf ⟨1⟩ "letter").1).trans ?_,
    ht.trans ?_, hx.trans ?_, (hc ⟨1⟩).trans ?_⟩
  all_goals decide +kernel

end Draft

end LangSpec
