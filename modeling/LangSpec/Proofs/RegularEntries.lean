import LangSpec.Proofs.Finish
import LangSpec.Proofs.NewTokens
import LangSpec.Proofs.Reports
import Mathlib.Logic.Function.Basic

/-!
# The entries of regular definitions

Three kinds of declarations write to the dictionaries of regular definitions:
plain definitions, sealed ones, and tokens with a regular expression, which are
definitions of it under their own name. They write under free names only, and
each entry comes with a new definition of that name. So each definition has one
entry, in one namespace and under its own name.

A token whose name is taken is reported, but stays. Only a specification that is
finished, where nothing was reported, has every token under its name.

* `Edit.dictionary`: what an edit does to the dictionaries;
* `EntriesMatch`: definitions and entries belong together one to one;
* `Spec.Defines`: a namespace has a definition of an expression under a name;
* `Reachable.registered`: the definitions of tokens, if nothing was reported;
* `regular_entries_exact`: the whole law.
-/

namespace LangSpec

/-- The regular expression the token is a definition of. Literals and sentinels
    are not defined under a name. -/
def Token.definition? (t : Token) : Option RegexId :=
  if t.literal.isSome || t.sentinel then none else t.regex

/-- Definitions and entries belong together one to one, by name. -/
structure EntriesMatch (dicts : NamespaceId → Dict RegularEntry)
    (regulars : Arena .regulars Regular) : Prop where
  /-- No dictionary has a name twice. -/
  keys : ∀ n, (dicts n).keys.Nodup
  /-- An entry leads to a definition of its name. -/
  named : ∀ n, ∀ x ∈ (dicts n).entries,
    x.2.target ∈ regulars ∧ (regulars.get x.2.target).name = x.1
  /-- No two dictionaries have an entry of one definition. -/
  apart : ∀ n n', ∀ x ∈ (dicts n).entries, ∀ x' ∈ (dicts n').entries,
    x.2.target = x'.2.target → n = n'
  /-- Every definition has an entry. -/
  entered : ∀ g ∈ regulars, ∃ n, ∃ x ∈ (dicts n).entries, x.2.target = g

namespace EntriesMatch

variable {dicts : NamespaceId → Dict RegularEntry} {regulars : Arena .regulars Regular}

theorem empty : EntriesMatch (fun _ => .empty) .empty where
  keys _ := List.nodup_nil
  named _ _ hx := absurd hx List.not_mem_nil
  apart _ _ _ hx := absurd hx List.not_mem_nil
  entered _ hg := absurd hg (Nat.not_lt_zero _)

/-- A new definition is entered under a free name. -/
theorem insert {home : NamespaceId} {x : Regular} {e : RegularEntry}
    (h : EntriesMatch dicts regulars) (hn : (dicts home).find? x.name = none)
    (he : e.target = regulars.next) :
    EntriesMatch (Function.update dicts home ((dicts home).insert x.name e))
      (regulars.push x) := by
  -- All entries are those there were, with the new one.
  have hmem (n : NamespaceId) (y : String × RegularEntry) :
      y ∈ (Function.update dicts home ((dicts home).insert x.name e) n).entries ↔
        y ∈ (dicts n).entries ∨ n = home ∧ y = (x.name, e) := by
    by_cases hhome : n = home
    · subst hhome
      rw [Function.update_self, Dict.entries_insert_of_find?_eq_none hn, List.mem_append,
        List.mem_singleton]
      simp only [true_and]
    · simp only [Function.update_of_ne hhome, hhome, false_and, or_false]
  have hne {n : NamespaceId} {y : String × RegularEntry} (hy : y ∈ (dicts n).entries) :
      y.2.target ≠ e.target :=
    fun heq => Arena.not_next_mem (he ▸ heq ▸ (h.named n y hy).1)
  refine ⟨fun n => ?_, fun n y hy => ?_, fun n n' y hy y' hy' heq => ?_, fun g hg => ?_⟩
  · by_cases hhome : n = home
    · subst hhome
      have hfree := Dict.find?_eq_none_iff.1 hn
      rw [Function.update_self, Dict.keys_insert, if_neg hfree]
      exact (h.keys n).append (List.nodup_singleton _) (List.disjoint_singleton.2 hfree)
    · rw [Function.update_of_ne hhome]
      exact h.keys n
  · rcases (hmem n y).1 hy with hy | ⟨-, rfl⟩
    · obtain ⟨hg, hname⟩ := h.named n y hy
      exact ⟨Arena.mem_push.2 (.inl hg), by rwa [Arena.get_push_of_mem hg]⟩
    · exact he ▸ ⟨Arena.next_mem_push, by rw [Arena.get_push_next]⟩
  · rcases (hmem n y).1 hy with hold | ⟨hhome, rfl⟩ <;>
      rcases (hmem n' y').1 hy' with hold' | ⟨hhome', rfl⟩
    · exact h.apart n n' y hold y' hold' heq
    · exact absurd heq (hne hold)
    · exact absurd heq.symm (hne hold')
    · exact hhome.trans hhome'.symm
  · rcases Arena.mem_push.1 hg with hg | rfl
    · obtain ⟨n, y, hy, htarget⟩ := h.entered g hg
      exact ⟨n, y, (hmem n y).2 (.inl hy), htarget⟩
    · exact ⟨home, _, (hmem home _).2 (.inr ⟨rfl, rfl⟩), he⟩

/-- A definition has exactly one entry, which is under its name. -/
theorem existsUnique (h : EntriesMatch dicts regulars) {g : RegularId} (hg : g ∈ regulars) :
    ∃ n e, ((regulars.get g).name, e) ∈ (dicts n).entries ∧ e.target = g ∧
      ∀ n' k' e', (k', e') ∈ (dicts n').entries → e'.target = g →
        n' = n ∧ k' = (regulars.get g).name ∧ e' = e := by
  obtain ⟨n, ⟨k, e⟩, he, rfl⟩ := h.entered g hg
  obtain rfl : (regulars.get e.target).name = k := (h.named n _ he).2
  refine ⟨n, e, he, rfl, fun n' k' e' he' htarget => ?_⟩
  obtain rfl : n' = n := h.apart n' n _ he' _ he htarget
  obtain rfl : (regulars.get e.target).name = k' := htarget ▸ (h.named n' _ he').2
  have hfind := Dict.find?_of_mem_entries (h.keys n') he
  have hfind' := Dict.find?_of_mem_entries (h.keys n') he'
  exact ⟨rfl, rfl, Option.some.inj (hfind'.symm.trans hfind)⟩

end EntriesMatch

/-! ## Dictionaries -/

/-- The regular definitions of each namespace. -/
def dictionaries (namespaces : Arena .namespaces Namespace) (n : NamespaceId) : Dict RegularEntry :=
  (namespaces.get n).regulars

section Dictionaries

variable {namespaces : Arena .namespaces Namespace} {n : NamespaceId}

theorem dictionaries_push {x : Namespace} (hx : x.regulars = .empty) :
    dictionaries (namespaces.push x) = dictionaries namespaces :=
  funext (Arena.apply_get_push (g := Namespace.regulars) hx)

/-- A namespace changed in other respects. -/
theorem dictionaries_modify {f : Namespace → Namespace} (hf : ∀ x, (f x).regulars = x.regulars) :
    dictionaries (namespaces.modify n f) = dictionaries namespaces :=
  funext (Arena.apply_get_modify hf)

theorem dictionaries_insert {name : String} {e : RegularEntry} (hn : n ∈ namespaces) :
    dictionaries (namespaces.modify n fun x => { x with regulars := x.regulars.insert name e }) =
      Function.update (dictionaries namespaces) n
        ((dictionaries namespaces n).insert name e) := by
  funext m
  rw [dictionaries]
  by_cases h : m = n
  · rw [h, Function.update_self, Arena.get_modify_self hn, dictionaries]
  · rw [Function.update_of_ne h, Arena.get_modify_of_ne (Ne.symm h), dictionaries]

theorem EntriesMatch.modify {regulars : Arena .regulars Regular} {f : Namespace → Namespace}
    (h : EntriesMatch (dictionaries namespaces) regulars) (hf : ∀ x, (f x).regulars = x.regulars) :
    EntriesMatch (dictionaries (namespaces.modify n f)) regulars :=
  (dictionaries_modify hf).symm ▸ h

end Dictionaries

namespace Spec

variable {s s' : Spec}

theorem dictionaries_initial (o : Options) :
    LangSpec.dictionaries (initial o).namespaces = fun _ => .empty := by
  refine (dictionaries_push rfl).trans (funext fun n => ?_)
  rw [LangSpec.dictionaries, Arena.get_of_not_mem (Nat.not_lt_zero _)]
  rfl

/-- An edit enters a new definition under a free name, or it leaves definitions
    and dictionaries alone. -/
theorem Edit.dictionaries (h : s.Edit s') :
    (dictionaries s'.namespaces = dictionaries s.namespaces ∧ s'.regulars = s.regulars) ∨
      ∃ home x e, (dictionaries s.namespaces home).find? x.name = none ∧
        e.target = s.regulars.next ∧ s'.regulars = s.regulars.push x ∧
        dictionaries s'.namespaces =
          Function.update (dictionaries s.namespaces) home
            ((dictionaries s.namespaces home).insert x.name e) := by
  cases h with
  | @addNamespace loc name parent =>
    let x : Namespace := { id := s.namespaces.next, loc, name, parent := some parent }
    have h : LangSpec.dictionaries (s.namespaces.push x) = LangSpec.dictionaries s.namespaces :=
      dictionaries_push rfl
    refine .inl ⟨?_, rfl⟩
    rw [← h]
    exact dictionaries_modify fun _ => rfl
  | addToken | addSentinel | addContext | addAlias =>
    exact .inl ⟨dictionaries_modify fun _ => rfl, rfl⟩
  | @addLiteral t =>
    have h : LangSpec.dictionaries (s.addToken t).namespaces =
        LangSpec.dictionaries s.namespaces :=
      dictionaries_modify fun _ => rfl
    refine .inl ⟨?_, rfl⟩
    rw [← h]
    exact dictionaries_modify fun _ => rfl
  | @addRegular home name loc regex isSealed hh hr hn =>
    exact .inr ⟨home, { id := s.regulars.next, name, regex }, _, hn, rfl, rfl,
      dictionaries_insert hh⟩
  | _ => exact .inl ⟨rfl, rfl⟩

theorem Edit.entriesMatch (h : s.Edit s')
    (hs : EntriesMatch (LangSpec.dictionaries s.namespaces) s.regulars) :
    EntriesMatch (LangSpec.dictionaries s'.namespaces) s'.regulars := by
  rcases h.dictionaries with ⟨hdicts, hregulars⟩ | ⟨home, x, e, hn, he, hregulars, hdicts⟩
  · rwa [hdicts, hregulars]
  · rw [hdicts, hregulars]
    exact hs.insert hn he

theorem Edit.retains_regulars (h : s.Edit s') : Arena.Retains id s.regulars s'.regulars := by
  rcases h.dictionaries with ⟨-, hregulars⟩ | ⟨_, _, _, _, _, hregulars, -⟩
  · exact hregulars ▸ .refl
  · exact hregulars ▸ .push

theorem Steps.entriesMatch {o : Options} (h : Steps (initial o) s) :
    EntriesMatch (LangSpec.dictionaries s.namespaces) s.regulars := by
  refine (h.preserves (Q := fun s => EntriesMatch (LangSpec.dictionaries s.namespaces) s.regulars)
    (closed_initial o) Edit.entriesMatch id (fun hb hs => ?_) (fun hs => ?_) ?_).2
  · cases hb <;> exact hs
  · exact hs.modify fun _ => rfl
  · exact dictionaries_initial o ▸ .empty

/-- Regular definitions stay as they are. -/
theorem Steps.retains_regulars (h : Steps s s') (hc : s.Closed) :
    Arena.Retains id s.regulars s'.regulars :=
  (h.preserves (Q := fun t => Arena.Retains id s.regulars t.regulars) hc
    (fun he hs => hs.trans he.retains_regulars) id (fun hb hs => by cases hb <;> exact hs) id
    .refl).2

/-- The namespace `n` has a definition of the expression `r` under `name`. -/
def Defines (s : Spec) (n : NamespaceId) (name : String) (r : RegexId) (isSealed : Bool) : Prop :=
  ∃ e, (s.namespaces.get n).regular? name = some e ∧ e.isSealed = isSealed ∧
    e.target ∈ s.regulars ∧ (s.regulars.get e.target).regex = r

section Defines

variable {n : NamespaceId} {name : String} {r r' : RegexId} {isSealed isSealed' : Bool}

/-- A name stands for one expression. -/
theorem Defines.unique (h : s.Defines n name r isSealed) (h' : s.Defines n name r' isSealed') :
    r = r' := by
  obtain ⟨e, he, -, -, rfl⟩ := h
  obtain ⟨e', he', -, -, rfl⟩ := h'
  cases Option.some.inj (he.symm.trans he')
  rfl

theorem Defines.mem_regexes (h : s.Defines n name r isSealed) (hc : s.Closed) :
    r ∈ s.regexes := by
  obtain ⟨e, -, -, hmem, rfl⟩ := h
  exact covers_handle.1 (allHandles_regular.1 (hc.all.regulars.get hmem)).2

/-- It stands for this expression ever after. -/
theorem Steps.defines (h : Steps s s') (hc : s.Closed) (hs : s.Defines n name r isSealed) :
    s'.Defines n name r isSealed := by
  obtain ⟨e, he, hsealed, hmem, rfl⟩ := hs
  obtain ⟨hmem', hget⟩ := h.retains_regulars hc e.target hmem
  exact ⟨e, (h.endures hc).namespaces.regulars n name e he, hsealed, hmem',
    congrArg Regular.regex hget⟩

end Defines

end Spec

/-! ## Declarations -/

namespace Draft

variable {o : Options} {d : Draft} {op : Op} {t : Token} {r : RegexId}

/-- A definition is entered unless it is reported. -/
theorem addRegular_defines {name : String} {loc : Location} {isSealed : Bool}
    (hh : d.home ∈ d.spec.namespaces)
    (h : (d.addRegular name loc r isSealed).2.diagnostics = []) :
    (d.addRegular name loc r isSealed).2.spec.Defines d.home name r isSealed := by
  rw [addRegular] at h ⊢
  split at h
  next => exact absurd h diagnostics_report_ne_nil
  next hn =>
    let e : RegularEntry := { target := d.spec.regulars.next, isSealed, loc }
    have hget := Arena.get_modify_self (f := fun n => { n with
      regulars := n.regulars.insert name e }) hh
    refine ⟨e, ?_, rfl, Arena.next_mem_push, congrArg Regular.regex Arena.get_push_next⟩
    exact (congrArg (Namespace.regular? · name) hget).trans (Dict.find?_insert_self _ _ _)

theorem declareRegular_defines (hd : d.Sound) {name : Name} {x : Regex} {isSealed : Bool}
    (h : (d.declareRegular name x isSealed).2.diagnostics = []) :
    (d.declareRegular name x isSealed).2.spec.Defines d.home name.text d.spec.regexes.next
      isSealed := by
  rw [declareRegular] at h ⊢
  split at h
  next => exact absurd h diagnostics_report_ne_nil
  next => exact addRegular_defines (d := d.update (·.addRegex x)) hd.home h

theorem placeToken_defines (hd : d.Sound) {decl : TokenDecl} {name : String} {x : Regex}
    (hx : decl.regex = some x) (h : (d.placeToken decl name).2.diagnostics = []) :
    (d.placeToken decl name).2.spec.Defines d.home name d.spec.regexes.next false := by
  obtain ⟨hn, hhome⟩ := d.scannerFor_namespaces decl.loc
  rw [placeToken_eq, hx] at h ⊢
  generalize (d.scannerFor decl.loc).2 = placed at hn hhome h ⊢
  rw [← hhome]
  refine addRegular_defines (Arena.mem_modify.2 ?_) h
  exact hn ▸ hhome ▸ hd.home

/-- The token an operation enters is defined under its name, if nothing is
    reported. -/
theorem Sound.defines_token (hd : d.Sound) (ht : op.token? d = some t)
    (hr : t.definition? = some r) (h : (op.apply d).diagnostics = []) :
    (op.apply d).spec.Defines t.home t.name r false := by
  cases op with
  | declareToken decl =>
    have happly : (Op.declareToken decl).apply d = (d.declareToken decl).2 := rfl
    rw [happly, declareToken] at h ⊢
    rw [Op.token?] at ht
    split at ht
    next => cases ht
    next hi =>
      obtain ⟨name, hn, rfl⟩ := Option.map_eq_some_iff.1 ht
      rw [if_neg hi, hn] at h ⊢
      dsimp only at h ⊢
      obtain ⟨x, hx, rfl⟩ := Option.map_eq_some_iff.1 hr
      exact placeToken_defines hd hx h
  | declareLiteral l joinsBefore joinsAfter =>
    obtain rfl := eq_literalToken ht
    cases hr
  | declareSentinel name =>
    obtain ⟨c, rfl⟩ := exists_sentinelToken ht
    cases hr
  | _ => cases ht

/-- If nothing was reported, every token is defined under its name. -/
theorem Reachable.registered (hd : Reachable o d) (h : d.diagnostics = []) {k : TokenId}
    (hk : k ∈ d.spec.tokens) (hr : (d.spec.tokens.get k).definition? = some r) :
    d.spec.Defines (d.spec.tokens.get k).home (d.spec.tokens.get k).name r false := by
  induction hd generalizing k r with
  | start => exact absurd hk (Nat.not_lt_zero _)
  | @step d op hd hop ih =>
    have hb := hd.sound.brings hop
    generalize ht : op.token? d = x at hb
    have hrun : (d.run [op]).diagnostics = [] := h
    have hold {k : TokenId} {r : RegexId} (hk : k ∈ d.spec.tokens)
        (hr : (d.spec.tokens.get k).definition? = some r) :=
      (hd.sound.effect hop).steps.defines hd.sound.closed (ih (diagnostics_eq_nil hrun) hk hr)
    cases hb with
    | nothing htokens =>
      rw [htokens] at hk hr ⊢
      exact hold hk hr
    | @token t os htokens =>
      rw [htokens] at hk hr ⊢
      rcases Arena.mem_push.1 hk with hk | rfl
      · rw [Arena.get_push_of_mem hk] at hr ⊢
        exact hold hk hr
      · rw [Arena.get_push_next] at hr ⊢
        exact hd.sound.defines_token (t := t) ht hr h

/-- If nothing was reported in a walk, every definition declared in it is there in
    the end, and no token is a definition of its expression. -/
theorem Reachable.defined {ops : List Op} {e : Draft} {name : Name} {x : Regex} {isSealed : Bool}
    (hd : Reachable o d) (hops : d.AdmitsAll ops) (h : (d.run ops).diagnostics = [])
    (hop : d.Performs ops e (.declareRegular name x isSealed)) :
    ∃ r, (d.run ops).spec.Defines e.home name.text r isSealed ∧
      ∀ k ∈ (d.run ops).spec.tokens, ((d.run ops).spec.tokens.get k).regex ≠ some r := by
  obtain ⟨he, hadmits, rest, hrest, hrun⟩ := hop.exists_rest hd hops
  rw [hrun] at h ⊢
  have hstep := he.step hadmits
  have hdefines : (Op.apply e (.declareRegular name x isSealed)).spec.Defines e.home name.text
      e.spec.regexes.next isSealed :=
    declareRegular_defines he.sound (diagnostics_eq_nil h)
  have htokens : (Op.apply e (.declareRegular name x isSealed)).spec.tokens = e.spec.tokens :=
    congrArg Scanning.tokens scanning_declareRegular
  refine ⟨e.spec.regexes.next, (hstep.steps_run hrest).defines hstep.sound.closed hdefines,
    fun k hk hr => ?_⟩
  -- Earlier tokens have earlier expressions, and later ones have new ones.
  by_cases hold : k ∈ e.spec.tokens
  · have hget := (hstep.retains_tokens hrest k (htokens ▸ hold)).2
    rw [htokens] at hget
    have hr : (e.spec.tokens.get k).regex = some e.spec.regexes.next :=
      (congrArg Token.regex hget).symm.trans hr
    exact Arena.not_next_mem (he.sound.mem_regexes hold hr)
  · exact hstep.regex_new hrest hk (htokens ▸ hold) hr (hdefines.mem_regexes hstep.sound.closed)

theorem regex_of_definition? (h : t.definition? = some r) : t.regex = some r := by
  rw [Token.definition?] at h
  split at h
  next => cases h
  next => exact h

/-- A regular definition has exactly one entry among the dictionaries of all
    namespaces, under its own name. And once a specification is finished, every
    token with an expression, literals and sentinels aside, is a definition of it
    under its name in its namespace, not sealed; so no two of them share both,
    and none shares them with a definition that was declared as such. -/
theorem regular_entries_exact (hd : Reachable o d) :
    (∀ n, (d.spec.namespaces.get n).regulars.keys.Nodup) ∧
    (∀ g ∈ d.spec.regulars, ∃ n e,
      ((d.spec.regulars.get g).name, e) ∈ (d.spec.namespaces.get n).regulars.entries ∧
      e.target = g ∧
      ∀ n' k' e', (k', e') ∈ (d.spec.namespaces.get n').regulars.entries → e'.target = g →
        n' = n ∧ k' = (d.spec.regulars.get g).name ∧ e' = e) ∧
    ∀ s, d.finish = .ok s → ∀ k ∈ s.tokens, ∀ r, (s.tokens.get k).definition? = some r →
      let t := s.tokens.get k
      s.Defines t.home t.name r false ∧
      (∀ k' ∈ s.tokens, (s.tokens.get k').definition? ≠ none → (s.tokens.get k').home = t.home →
        (s.tokens.get k').name = t.name → k' = k) ∧
      ∀ ops, (start o).AdmitsAll ops → (start o).run ops = d → ∀ e name x isSealed,
        (start o).Performs ops e (.declareRegular name x isSealed) →
          ¬(e.home = t.home ∧ name.text = t.name) := by
  have hmatch := hd.steps.entriesMatch
  refine ⟨hmatch.keys, fun g hg => hmatch.existsUnique hg, fun s hs k hk r hr => ?_⟩
  obtain ⟨rfl, hdiag, -⟩ := finish_eq_ok hs
  have hdefines := hd.registered hdiag hk hr
  refine ⟨hdefines, fun k' hk' hsome hhome hname => ?_, ?_⟩
  · obtain ⟨r', hr'⟩ := Option.ne_none_iff_exists'.1 hsome
    have hdefines' := hd.registered hdiag hk' hr'
    rw [hhome, hname] at hdefines'
    obtain rfl : r' = r := hdefines'.unique hdefines
    exact hd.regex_injective hk' hk (regex_of_definition? hr') (regex_of_definition? hr)
  · rintro ops hops rfl e name x isSealed hop ⟨hhome, hname⟩
    obtain ⟨r', hdefines', hne⟩ := Reachable.start.defined hops hdiag hop
    rw [hhome, hname] at hdefines'
    exact hne k hk (hdefines'.unique hdefines ▸ regex_of_definition? hr)

/-- A sealed definition and a token of its name, in two namespaces. -/
theorem regular_entries_exact_apart :
    let digit : Op := .declareRegular { text := "digit" } (.ofLiteral { raw := "'1'" }) true
    let ops : List Op :=
      [ digit
      , .openNamespace { text := "more" }
      , .declareToken (.named { text := "digit" } (some (.ofLiteral { raw := "'2'" })))
      , .closeNamespace ]
    let d := (start {}).run ops
    let t := d.spec.tokens.get ⟨0⟩
    Reachable {} d ∧ d.finish = .ok d.spec ∧ t.definition? = some ⟨1⟩ ∧
      d.spec.Defines t.home t.name ⟨1⟩ false ∧
      (start {}).Performs ops (start {}) digit ∧
      ¬((start {}).home = t.home ∧ "digit" = t.name) ∧
      ∃ n e, ((d.spec.regulars.get ⟨0⟩).name, e) ∈ (d.spec.namespaces.get n).regulars.entries ∧
        e.target = ⟨0⟩ := by
  intro digit ops d t
  have hops : (start {}).AdmitsAll ops := by decide +kernel
  have hd : Reachable {} d := Reachable.start.run hops
  have hs : d.finish = .ok d.spec := by apply finish_of_valid <;> decide +kernel
  have hr : t.definition? = some ⟨1⟩ := by decide +kernel
  obtain ⟨-, hentry, htokens⟩ := regular_entries_exact hd
  obtain ⟨n, e, he, htarget, -⟩ := hentry ⟨0⟩ (by decide +kernel)
  obtain ⟨hdefines, -, hapart⟩ := htokens _ hs ⟨0⟩ (by decide +kernel) ⟨1⟩ hr
  exact ⟨hd, hs, hr, hdefines, .now, hapart ops hops rfl _ _ _ _ .now, n, e, he, htarget⟩

end Draft

end LangSpec
