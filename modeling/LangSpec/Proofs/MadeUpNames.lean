import LangSpec.Proofs.IdleOperations
import LangSpec.Proofs.Rejections

/-!
# Made-up names

Ignored tokens need no name, and literals have none; both get one that is made up
from the number of occurrences so far. Whatever gets such a name occurs, so the
number is higher the next time, and its digits tell it from all others. Nothing
has to be known about what is declared in between: in a whole walk no name is
made up twice. So if the name made up for an ignored token turns out to be taken
by a regular definition, somebody has written this name.

* `Op.nameless?`: the declarations that names are made up for;
* `MakesUp`: what becomes of them;
* `madeUpName_injective`: a made-up name tells the number of occurrences;
* `Reachable.name_madeUp`: a made-up name is that of the token for good;
* `Reachable.exists_names`: where the name of a regular definition comes from;
* `no_name_made_up_twice`: the law.
-/

namespace LangSpec

namespace Op

/-- The sort of name that is made up for what the operation declares. -/
def nameless? : Op → Option String
  | declareToken token => if token.name.isNone then some "ignore" else none
  | declareLiteral _ _ _ => some "literal"
  | _ => none

/-- The name written for a regular definition in the operation. -/
def written? : Op → Option Name
  | declareToken token => if token.regex.isSome then token.name else none
  | declareRegular name _ _ => some name
  | _ => none

end Op

namespace Draft

variable {o : Options} {d e : Draft} {op op' : Op} {ops : List Op} {sort sort' : String}
  {k : TokenId}

/-- The tokens of a walk that names are made up for, in the order of their
    declarations. -/
def madeUp (d : Draft) : List Op → List TokenId
  | [] => []
  | op :: ops =>
    (if op.nameless?.isSome then (op.declares d).toList else []) ++ (op.apply d).madeUp ops

/-! ## Names -/

theorem eq_or_eq_of_nameless? (h : op.nameless? = some sort) :
    sort = "ignore" ∨ sort = "literal" := by
  cases op with
  | declareToken token =>
    rw [Op.nameless?] at h
    split at h
    next => exact .inl (Option.some.inj h).symm
    next => exact nomatch h
  | declareLiteral => exact .inr (Option.some.inj h).symm
  | _ => exact nomatch h

/-- Names made up of either sort differ if they are made up at different times. -/
theorem madeUpName_injective (hs : op.nameless? = some sort) (hs' : op'.nameless? = some sort')
    (h : d.madeUpName sort = e.madeUpName sort') :
    d.spec.occurrences.size = e.spec.occurrences.size := by
  have hlist := congrArg String.toList h
  have hsame (sort : String) (hlist : (d.madeUpName sort).toList = (e.madeUpName sort).toList) :
      d.spec.occurrences.size = e.spec.occurrences.size := by
    simp only [madeUpName, String.toList_append] at hlist
    exact Text.hexPadded_injective 4 (String.toList_injective (List.append_cancel_left hlist))
  rcases eq_or_eq_of_nameless? hs with rfl | rfl <;>
    rcases eq_or_eq_of_nameless? hs' with rfl | rfl
  · exact hsame _ hlist
  · simp [madeUpName] at hlist
  · simp [madeUpName] at hlist
  · exact hsame _ hlist

/-- A token without a name gets the one made up, if it gets any. -/
theorem eq_madeUpName {t : TokenDecl} {name : String}
    (hs : (Op.declareToken t).nameless? = some sort) (hn : d.nameOf t = some name) :
    name = d.madeUpName sort := by
  rw [Op.nameless?] at hs
  split at hs
  next ht =>
    cases hs
    rw [nameOf, Option.isNone_iff_eq_none.1 ht] at hn
    exact (Option.some.inj (Option.ite_none_right_eq_some.1 hn).2).symm
  next => exact nomatch hs

/-- A token is put into a scanner under a name made up for it, an ignored token or
    that of a literal. -/
inductive MakesUp (d : Draft) (op : Op) : String → Prop
  | token {sort : String} (t : TokenDecl)
      (htoken : op.token? d = some (d.tokenOf t (d.madeUpName sort)))
      (happly : op.apply d = (d.placeToken t (d.madeUpName sort)).2) : MakesUp d op sort
  | literal (l : Literal) (joinsBefore joinsAfter : Bool)
      (htoken : op.token? d = some (d.literalToken l joinsBefore joinsAfter))
      (happly : op.apply d = (d.placeLiteral l joinsBefore joinsAfter).2) :
      MakesUp d op "literal"

/-- So is every token that is declared without a name. -/
theorem makesUp_of_nameless? (hs : op.nameless? = some sort) (hk : op.declares d = some k) :
    d.MakesUp op sort := by
  cases op with
  | declareToken t =>
    have hfst : (d.declareToken t).1 = some k := hk
    have happly : (Op.declareToken t).apply d = (d.declareToken t).2 := rfl
    by_cases hi : (t.ignored && !d.insideScanner) = true
    · rw [declareToken, if_pos hi] at hfst
      cases hfst
    · rw [declareToken, if_neg hi] at hfst happly
      cases hn : d.nameOf t with
      | none =>
        rw [hn] at hfst
        cases hfst
      | some name =>
        obtain rfl := eq_madeUpName hs hn
        rw [hn] at happly
        exact .token t (by rw [Op.token?, if_neg hi, hn, Option.map_some]) happly
  | declareLiteral l joinsBefore joinsAfter =>
    have hfst : (d.declareLiteral l joinsBefore joinsAfter).1 = some k := hk
    have happly : (Op.declareLiteral l joinsBefore joinsAfter).apply d =
        (d.declareLiteral l joinsBefore joinsAfter).2 := rfl
    rw [declareLiteral] at hfst happly
    cases hs
    cases hl : (d.spec.namespaces.get d.home).literal? l.meaning.text with
    | some _ =>
      rw [hl] at hfst
      cases hfst
    | none =>
      rw [hl] at happly
      exact .literal l joinsBefore joinsAfter (by rw [Op.token?, hl]) happly
  | _ => cases hs

theorem MakesUp.exists_token? (h : d.MakesUp op sort) :
    ∃ t, op.token? d = some t ∧ t.name = d.madeUpName sort := by
  cases h with
  | token t htoken => exact ⟨_, htoken, rfl⟩
  | literal l joinsBefore joinsAfter htoken => exact ⟨_, htoken, rfl⟩

/-! ## Occurrences -/

theorem occurrences_scannerFor (d : Draft) (loc : Location) :
    (d.scannerFor loc).2.spec.occurrences = d.spec.occurrences := by
  rw [scannerFor]
  split <;> rfl

theorem size_occurrences_enterToken (d : Draft) (t : Token) :
    (d.enterToken t).spec.occurrences.size = d.spec.occurrences.size + 2 := by
  simp [enterToken, update, Spec.addOccurrences, Spec.addOccurrence, Spec.addToken]

theorem occurrences_addRegular {name : String} {loc : Location} {regex : RegexId}
    {isSealed : Bool} :
    (d.addRegular name loc regex isSealed).2.spec.occurrences = d.spec.occurrences :=
  congrArg Scanning.occurrences spares_addRegular.scanning

theorem size_occurrences_placeToken (d : Draft) (t : TokenDecl) (name : String) :
    (d.placeToken t name).2.spec.occurrences.size = d.spec.occurrences.size + 2 := by
  have hs := congrArg Arena.size (d.occurrences_scannerFor t.loc)
  cases hr : t.regex with
  | none =>
    rw [placeToken_eq, hr]
    exact (size_occurrences_enterToken _ _).trans (congrArg (· + 2) hs)
  | some r =>
    rw [placeToken_of_regex hr, occurrences_addRegular, withToken]
    exact (size_occurrences_enterToken _ _).trans (congrArg (· + 2) hs)

/-- What gets a made-up name occurs twice. -/
theorem MakesUp.size_occurrences (h : d.MakesUp op sort) :
    (op.apply d).spec.occurrences.size = d.spec.occurrences.size + 2 := by
  cases h with
  | token t _ happly =>
    rw [happly]
    exact d.size_occurrences_placeToken t _
  | literal l joinsBefore joinsAfter _ happly =>
    have hs := congrArg Arena.size (d.occurrences_scannerFor l.loc)
    rw [happly, placeLiteral_eq]
    exact (size_occurrences_enterToken _ _).trans (congrArg (· + 2) hs)

/-- Occurrences do not get fewer in a walk. -/
theorem Performs.size_occurrences_le (h : d.Performs ops e op) (hd : Reachable o d)
    (hops : d.AdmitsAll ops) : d.spec.occurrences.size ≤ e.spec.occurrences.size := by
  induction h with
  | now => exact Nat.le_refl _
  | later _ ih =>
    have hgrows := (hd.sound.effect hops.1).steps.grows hd.sound.closed
    exact Nat.le_trans (hgrows .occurrences) (ih (hd.step hops.1) hops.2)

/-! ## Tokens with made-up names -/

/-- A made-up name is that of its token for good. -/
theorem Reachable.name_madeUp (hd : Reachable o d) (hops : d.AdmitsAll ops)
    (h : d.Performs ops e op) (hs : op.nameless? = some sort) (hk : op.declares e = some k) :
    ((d.run ops).spec.tokens.get k).name = e.madeUpName sort := by
  obtain ⟨he, hop, rest, hrest, hrun⟩ := h.exists_rest hd hops
  obtain ⟨t, ht, hname⟩ := (makesUp_of_nameless? hs hk).exists_token?
  have hb := he.sound.brings hop
  rw [ht] at hb
  cases hb with
  | token os htokens =>
    rcases he.tokens_apply hop with ⟨hnone, -⟩ | ⟨_, hsome, -⟩
    · exact nomatch hk.symm.trans hnone
    · cases Option.some.inj (hk.symm.trans hsome)
      obtain ⟨-, hget⟩ := (he.step hop).retains_tokens hrest e.spec.tokens.next
        (htokens ▸ Arena.next_mem_push)
      rw [htokens, Arena.get_push_next] at hget
      rw [hrun]
      exact (congrArg Token.name hget).trans hname

theorem mem_madeUp : k ∈ d.madeUp ops ↔
    ∃ e op sort, d.Performs ops e op ∧ op.nameless? = some sort ∧ op.declares e = some k := by
  induction ops generalizing d with
  | nil => exact ⟨fun h => absurd h List.not_mem_nil, fun ⟨_, _, _, h, _⟩ => nomatch h⟩
  | cons op ops ih =>
    rw [madeUp, List.mem_append, ih]
    constructor
    · rintro (h | ⟨e, op', sort, h, hs, hk⟩)
      · split at h
        next hs =>
          obtain ⟨sort, hs⟩ := Option.isSome_iff_exists.1 hs
          exact ⟨d, op, sort, .now, hs, Option.mem_toList.1 h⟩
        next => exact absurd h List.not_mem_nil
      · exact ⟨e, op', sort, .later h, hs, hk⟩
    · rintro ⟨e, op', sort, h, hs, hk⟩
      cases h with
      | now =>
        rw [hs]
        exact .inl (Option.mem_toList.2 hk)
      | later h => exact .inr ⟨e, op', sort, h, hs, hk⟩

/-- No name is made up twice: there are more occurrences the next time. -/
theorem Reachable.nodup_madeUp (hd : Reachable o d) (hops : d.AdmitsAll ops) :
    ((d.madeUp ops).map fun k => ((d.run ops).spec.tokens.get k).name).Nodup := by
  induction ops generalizing d with
  | nil => exact List.nodup_nil
  | cons op ops ih =>
    have hrest := ih (hd.step hops.1) hops.2
    rw [madeUp]
    split
    next hs =>
      cases hk : op.declares d with
      | none => exact hrest
      | some k =>
        refine List.nodup_cons.2 ⟨fun hmem => ?_, hrest⟩
        obtain ⟨sort, hs⟩ := Option.isSome_iff_exists.1 hs
        obtain ⟨k', hk', hname⟩ := List.mem_map.1 hmem
        obtain ⟨e, op', sort', h, hs', hdeclares⟩ := mem_madeUp.1 hk'
        have hfirst : ((d.run (op :: ops)).spec.tokens.get k).name = d.madeUpName sort :=
          hd.name_madeUp hops .now hs hk
        have hlater : ((d.run (op :: ops)).spec.tokens.get k').name = e.madeUpName sort' :=
          hd.name_madeUp hops (.later h) hs' hdeclares
        have heq := madeUpName_injective hs hs' (hfirst.symm.trans (hname.symm.trans hlater))
        have hsize := (makesUp_of_nameless? hs hk).size_occurrences
        have hle := h.size_occurrences_le (hd.step hops.1) hops.2
        omega
    next => exact hrest

/-! ## Names of regular definitions -/

variable {n : NamespaceId} {name : String} {x : RegularEntry} {t : TokenDecl}

/-- A new entry is one under the name that was to be added. -/
theorem eq_of_regular?_addRegular {name' : String} {loc : Location} {regex : RegexId}
    {isSealed : Bool} (hh : d.home ∈ d.spec.namespaces)
    (hnew : (d.spec.namespaces.get n).regular? name = none)
    (hx : ((d.addRegular name' loc regex isSealed).2.spec.namespaces.get n).regular? name =
      some x) : d.home = n ∧ name' = name := by
  by_cases hfree : (d.spec.namespaces.get d.home).regular? name' = none
  · rw [addRegular_of_free hfree] at hx
    have hx : (dictionaries (d.spec.addRegular d.home name' loc regex isSealed).namespaces n).find?
        name = some x := hx
    rw [Spec.addRegular, dictionaries_insert hh] at hx
    by_cases hn : n = d.home
    · subst hn
      rw [Function.update_self, Dict.find?_insert] at hx
      split at hx
      next hname => exact ⟨rfl, hname⟩
      next => cases hnew.symm.trans hx
    · rw [Function.update_of_ne hn] at hx
      cases hnew.symm.trans hx
  · rw [addRegular_of_taken hfree] at hx
    cases hnew.symm.trans hx

theorem eq_of_regular?_declareRegular {w : Name} {r : Regex} {isSealed : Bool}
    (hh : d.home ∈ d.spec.namespaces) (hnew : (d.spec.namespaces.get n).regular? name = none)
    (hx : ((d.declareRegular w r isSealed).2.spec.namespaces.get n).regular? name = some x) :
    d.home = n ∧ w.text = name := by
  rw [declareRegular] at hx
  split at hx
  next => cases hnew.symm.trans hx
  next => exact eq_of_regular?_addRegular (d := d.update (·.addRegex r)) hh hnew hx

/-- A token without an expression is no definition. -/
theorem eq_of_regular?_placeToken {name' : String} (hh : d.home ∈ d.spec.namespaces)
    (hnew : (d.spec.namespaces.get n).regular? name = none)
    (hx : ((d.placeToken t name').2.spec.namespaces.get n).regular? name = some x) :
    t.regex.isSome = true ∧ d.home = n ∧ name' = name := by
  have hn := (d.scannerFor_namespaces t.loc).1
  cases hr : t.regex with
  | none =>
    rw [placeToken_eq, hr] at hx
    have hdicts := (dictionaries_enterToken (d.scannerFor t.loc).2 (d.tokenOf t name')).trans
      (congrArg dictionaries hn)
    have hsame := congrArg (Dict.find? · name) (congrFun hdicts n)
    exact nomatch hnew.symm.trans (hsame.symm.trans hx)
  | some r =>
    rw [placeToken_of_regex hr] at hx
    have hsame := congrArg (Dict.find? · name) (congrFun (d.dictionaries_withToken t name' r) n)
    have hmem : (d.withToken t name' r).home ∈ (d.withToken t name' r).spec.namespaces := by
      rw [home_withToken]
      exact Arena.mem_modify.2 (hn ▸ hh)
    obtain ⟨hhome, hname⟩ := eq_of_regular?_addRegular hmem (hsame.trans hnew) hx
    exact ⟨rfl, (d.home_withToken t name' r).symm.trans hhome, hname⟩

/-- The operation, called on `d`, is a declaration under `name`, written or made
    up. -/
def Names (d : Draft) (op : Op) (name : String) : Prop :=
  (∃ w, op.written? = some w ∧ w.text = name) ∨
    ∃ k, op.nameless? = some "ignore" ∧ op.declares d = some k ∧ name = d.madeUpName "ignore"

theorem names_declareToken (hr : t.regex.isSome = true) (hn : d.nameOf t = some name)
    (hk : (Op.declareToken t).declares d = some k) : d.Names (.declareToken t) name := by
  cases ht : t.name with
  | some w =>
    rw [nameOf, ht] at hn
    exact .inl ⟨w, by rw [Op.written?, if_pos hr, ht], Option.some.inj hn⟩
  | none =>
    have hs : (Op.declareToken t).nameless? = some "ignore" := by rw [Op.nameless?, ht]; rfl
    exact .inr ⟨k, hs, hk, eq_madeUpName hs hn⟩

/-- An entry that was not there before is one of the current namespace, under the
    name of the declaration. -/
theorem Sound.names_of_regular? (hd : d.Sound) (hop : d.Admits op)
    (hnew : (d.spec.namespaces.get n).regular? name = none)
    (hx : ((op.apply d).spec.namespaces.get n).regular? name = some x) :
    d.home = n ∧ d.Names op name := by
  cases hm : op.mayDefine with
  | false =>
    have hdicts := congrFun (hd.dictionaries_apply hop hm) n
    have hsame := congrArg (Dict.find? · name) hdicts
    exact nomatch hnew.symm.trans (hsame.symm.trans hx)
  | true =>
    cases op with
    | declareRegular w r isSealed =>
      obtain ⟨hhome, hname⟩ := eq_of_regular?_declareRegular hd.home hnew hx
      exact ⟨hhome, .inl ⟨w, rfl, hname⟩⟩
    | declareToken t =>
      have happly : (Op.declareToken t).apply d = (d.declareToken t).2 := rfl
      obtain ⟨p, hreject⟩ | ⟨w, hw, haccept⟩ := d.declareToken_cases t
      · rw [happly, hreject] at hx
        exact nomatch hnew.symm.trans hx
      · rw [happly, haccept] at hx
        obtain ⟨hr, hhome, rfl⟩ := eq_of_regular?_placeToken hd.home hnew hx
        exact ⟨hhome, names_declareToken hr hw (congrArg Prod.fst haccept)⟩
    | _ => cases hm

/-- An entry that is there after a walk and was not there before came with one of
    its operations. -/
theorem Reachable.exists_names (hd : Reachable o d) (hops : d.AdmitsAll ops)
    (hnew : (d.spec.namespaces.get n).regular? name = none)
    (hx : ((d.run ops).spec.namespaces.get n).regular? name = some x) :
    ∃ e op, d.Performs ops e op ∧ e.home = n ∧ e.Names op name ∧
      (e.spec.namespaces.get n).regular? name = none ∧
      ((op.apply e).spec.namespaces.get n).regular? name = some x := by
  induction ops generalizing d with
  | nil => exact nomatch hnew.symm.trans hx
  | cons op ops ih =>
    have hstep := hd.step hops.1
    cases hy : ((op.apply d).spec.namespaces.get n).regular? name with
    | none =>
      obtain ⟨e, op', h, hrest⟩ := ih hstep hops.2 hy hx
      exact ⟨e, op', .later h, hrest⟩
    | some y =>
      have hstays := (first_definition_stays hstep hops.2).2.namespaces.regulars n name y hy
      obtain rfl : y = x := Option.some.inj (hstays.symm.trans hx)
      obtain ⟨hhome, hnames⟩ := hd.sound.names_of_regular? hops.1 hnew hy
      exact ⟨d, op, .now, hhome, hnames, hnew, hy⟩

/-- An ignored token without a name is a duplicate only if the name made up for
    it is taken. -/
theorem regular?_ne_none_of_duplicate (ht : t.name = none) (hi : t.ignored = true)
    (h : Diagnostic.count .duplicate d.diagnostics <
      Diagnostic.count .duplicate (d.declareToken t).2.diagnostics) :
    (d.spec.namespaces.get d.home).regular? (d.madeUpName "ignore") ≠ none := by
  intro hfree
  have hn : d.nameOf t = some (d.madeUpName "ignore") := by
    rw [nameOf, ht]
    exact if_pos hi
  rw [declareToken] at h
  split at h
  next =>
    -- This is reported as misplaced.
    have hcount : Diagnostic.count .duplicate (d.report .ignoreOutsideScanner t.loc).diagnostics =
        Diagnostic.count .duplicate d.diagnostics := List.countP_append
    exact absurd h (hcount ▸ Nat.lt_irrefl _)
  next =>
    have hsilent : ¬d.Redefines t (d.madeUpName "ignore") := fun hr => hr.2.2 hfree
    rw [hn] at h
    dsimp only at h
    rw [diagnostics_placeToken hn hsilent] at h
    exact Nat.lt_irrefl _ h

/-- The names made up in a walk for ignored tokens and for literals are all
    different, whatever else is declared in between, accepted or not. Each is the
    name of its token for good, and counts the occurrences before it. So if an
    ignored token without a name is reported as a duplicate, its namespace has a
    regular definition of the name made up for it, and this is one that was
    entered under this name when somebody had written it. -/
theorem no_name_made_up_twice (hops : (start o).AdmitsAll ops) :
    let d := (start o).run ops
    let names := ((start o).madeUp ops).map fun k => (d.spec.tokens.get k).name
    names.Nodup ∧
    (∀ e op sort k, (start o).Performs ops e op → op.nameless? = some sort →
      op.declares e = some k → k ∈ (start o).madeUp ops ∧ k ∈ d.spec.tokens ∧
        (d.spec.tokens.get k).name = e.madeUpName sort) ∧
    ∀ t : TokenDecl, t.name = none → t.ignored = true →
      Diagnostic.count .duplicate d.diagnostics <
        Diagnostic.count .duplicate (d.declareToken t).2.diagnostics →
      ∃ e op w x, (start o).Performs ops e op ∧ e.home = d.home ∧
        op.written? = some w ∧ w.text = d.madeUpName "ignore" ∧
        (e.spec.namespaces.get d.home).regular? w.text = none ∧
        ((op.apply e).spec.namespaces.get d.home).regular? w.text = some x ∧
        (d.spec.namespaces.get d.home).regular? w.text = some x := by
  intro d names
  have hstart : Reachable o (start o) := .start
  refine ⟨hstart.nodup_madeUp hops, fun e op sort k h hs hk => ?_, fun t ht hi hdup => ?_⟩
  · exact ⟨mem_madeUp.2 ⟨e, op, sort, h, hs, hk⟩, (hstart.declared hops h hk).1,
      hstart.name_madeUp hops h hs hk⟩
  · obtain ⟨x, hx⟩ := Option.ne_none_iff_exists'.1 (regular?_ne_none_of_duplicate ht hi hdup)
    have hnew : ((start o).spec.namespaces.get d.home).regular? (d.madeUpName "ignore") = none :=
      congrArg (Dict.find? · _) (congrFun (Spec.dictionaries_initial o) d.home)
    obtain ⟨e, op, h, hhome, hnames, hnone, hsome⟩ := hstart.exists_names hops hnew hx
    rcases hnames with ⟨w, hw, hname⟩ | ⟨k, hs, hk, hname⟩
    · rw [← hname] at hnone hsome hx
      exact ⟨e, op, w, x, h, hhome, hw, hname, hnone, hsome, hx⟩
    · -- The name was not made up before: there were fewer occurrences.
      have hs' : (Op.declareToken t).nameless? = some "ignore" := by rw [Op.nameless?, ht]; rfl
      have heq := madeUpName_injective hs' hs hname
      have hsize := (makesUp_of_nameless? hs hk).size_occurrences
      obtain ⟨he, hop, rest, hrest, hrun⟩ := h.exists_rest hstart hops
      have hle := (first_definition_stays (he.step hop) hrest).1 .occurrences
      rw [← hrun] at hle
      have hle : (op.apply e).spec.occurrences.size ≤ d.spec.occurrences.size := hle
      omega

/-- Somebody has written the name that is made up next. -/
theorem no_name_made_up_twice_written :
    let blank : TokenDecl := .skipped ⟨2, 0⟩ none (.ofLiteral { raw := "' '" })
    let ops : List Op :=
      [ .openScanner ⟨1, 0⟩
      , .declareLiteral { raw := "'+'" } false false
      , .declareToken blank
      , .declareRegular { text := "_ignore_0004" } (.ofLiteral { raw := "'#'" }) false ]
    (start {}).AdmitsAll ops ∧ (start {}).madeUp ops = [⟨0⟩, ⟨1⟩] ∧
      ["_literal_0000", "_ignore_0002"].Nodup ∧
      Diagnostic.count .duplicate ((start {}).run ops).diagnostics <
        Diagnostic.count .duplicate (((start {}).run ops).declareToken blank).2.diagnostics ∧
      ∃ e op w, (start {}).Performs ops e op ∧ e.home = ((start {}).run ops).home ∧
        op.written? = some w ∧ w.text = "_ignore_0004" := by
  intro blank ops
  have hops : (start {}).AdmitsAll ops := by decide +kernel
  have hnames : (start {}).madeUp ops = [⟨0⟩, ⟨1⟩] := by decide +kernel
  have hlist : (((start {}).madeUp ops).map fun k =>
      (((start {}).run ops).spec.tokens.get k).name) = ["_literal_0000", "_ignore_0002"] := by
    decide +kernel
  have hnext : ((start {}).run ops).madeUpName "ignore" = "_ignore_0004" := by decide +kernel
  have hdup : Diagnostic.count .duplicate ((start {}).run ops).diagnostics <
      Diagnostic.count .duplicate (((start {}).run ops).declareToken blank).2.diagnostics := by
    decide +kernel
  obtain ⟨hnodup, -, htaken⟩ := no_name_made_up_twice hops
  have hnodup : ["_literal_0000", "_ignore_0002"].Nodup := by rwa [hlist] at hnodup
  obtain ⟨e, op, w, -, h, hhome, hw, hname, -⟩ := htaken blank rfl rfl hdup
  exact ⟨hops, hnames, hnodup, hdup, e, op, w, h, hhome, hw, hname.trans hnext⟩

end Draft

end LangSpec
