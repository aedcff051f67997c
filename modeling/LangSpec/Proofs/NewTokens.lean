import LangSpec.Proofs.Endurance
import LangSpec.Proofs.Placement

/-!
# New tokens

The token that an operation enters can be told from the draft before it: what
was declared, in which namespace, scanner and context, and the handle of the
regular expression, which is entered with it. Only the occurrences are left
open, as they come after the token. A scanner made for it is not open after it.

* `Op.token?`: the token an operation enters;
* `closeScanner_placeToken`, `closeScanner_placeLiteral`: the scanner made for a
  token;
* `Sound.brings`: the tokens after an operation;
* `regex_of_token?`: a new token has an expression that was not there before;
* `Reachable.regex_new`: so has every token that comes later;
* `Reachable.regex_injective`: no two tokens have the same one.
-/

namespace LangSpec

namespace Draft

variable (d : Draft)

/-- The token declared by `t` as `name`. -/
def tokenOf (t : TokenDecl) (name : String) : Token :=
  { id := d.spec.tokens.next
    loc := t.loc
    name
    regex := t.regex.map fun _ => d.spec.regexes.next
    scanner := (d.scannerFor t.loc).1
    ignored := t.ignored
    action := t.action
    home := d.home
    object := t.object
    context := d.context?
    joinsBefore := t.joinsBefore
    joinsAfter := t.joinsAfter }

/-- The token of the literal `l`. -/
def literalToken (l : Literal) (joinsBefore joinsAfter : Bool) : Token :=
  { id := d.spec.tokens.next
    loc := l.loc
    name := d.madeUpName "literal"
    literal := some l.raw
    regex := some d.spec.regexes.next
    scanner := (d.scannerFor l.loc).1
    home := d.home
    object := some d.spec.objects.next
    joinsBefore, joinsAfter }

/-- The sentinel `name` of the scanner `c`. -/
def sentinelToken (c : ScannerId) (name : Name) : Token :=
  { id := d.spec.tokens.next
    loc := name.loc
    name := name.text
    sentinel := true
    regex := some d.spec.regexes.next
    scanner := c
    home := d.home
    context := d.context? }

/-- The draft with a token that occurs. -/
def enterToken (t : Token) : Draft :=
  d.update fun s => (s.addToken t).addOccurrences s.tokens.next

end Draft

/-- The token the operation enters, if it enters one, before it occurs. -/
def Op.token? (d : Draft) : Op → Option Token
  | declareToken t =>
    if t.ignored && !d.insideScanner then none else (d.nameOf t).map (d.tokenOf t)
  | declareLiteral l joinsBefore joinsAfter =>
    match (d.spec.namespaces.get d.home).literal? l.meaning.text with
    | some _ => none
    | none => some (d.literalToken l joinsBefore joinsAfter)
  | declareSentinel name => d.scanner?.map (d.sentinelToken · name)
  | _ => none

namespace Draft

/-- The tokens of `s` are those of the draft, with a new one if there is one. -/
inductive Brings (d : Draft) (s : Spec) : Option Token → Prop
  | nothing (h : s.tokens = d.spec.tokens) : Brings d s none
  | token {t : Token} (os : List OccurrenceId)
      (h : s.tokens = d.spec.tokens.push { t with occurrences := os }) : Brings d s (some t)

variable {o : Options} {d : Draft} {op : Op} {t : Token}

theorem tokens_addOccurrence {s : Spec} {a : Arena .tokens Token} (h : s.tokens = a.push t)
    (region : RegionId) (copyOf : Option OccurrenceId) :
    ∃ os, (s.addOccurrence a.next region copyOf).tokens = a.push { t with occurrences := os } := by
  refine ⟨t.occurrences ++ [s.occurrences.next], ?_⟩
  rw [Spec.addOccurrence, h, Arena.modify_push_next]

/-- The token comes to those of `d`, where it was given its handle. -/
theorem tokens_enterToken {e : Draft} (h : e.spec.tokens = d.spec.tokens)
    (ht : t.id = d.spec.tokens.next) :
    ∃ os, (e.enterToken t).spec.tokens = d.spec.tokens.push { t with occurrences := os } := by
  have hpush : (e.spec.addToken t).tokens = e.spec.tokens.push { t with occurrences := [] } := by
    rw [Spec.addToken, h, ← ht]
  obtain ⟨os, hos⟩ := tokens_addOccurrence hpush _ _
  obtain ⟨os, hos⟩ := tokens_addOccurrence hos _ _
  exact ⟨os, h ▸ hos⟩

/-- A token with a regular expression is a regular definition, too. -/
theorem placeToken_eq (d : Draft) (t : TokenDecl) (name : String) :
    (d.placeToken t name).2 =
      let placed := (d.scannerFor t.loc).2
      match t.regex with
      | none => placed.enterToken (d.tokenOf t name)
      | some r =>
        (((placed.update (·.addRegex r)).enterToken (d.tokenOf t name)).addRegular name t.loc
          d.spec.regexes.next false).2 := by
  rw [placeToken, tokenOf, scannerFor]
  cases t.regex <;> cases d.scanner? <;> rfl

theorem placeLiteral_eq (d : Draft) (l : Literal) (joinsBefore joinsAfter : Bool) :
    (d.placeLiteral l joinsBefore joinsAfter).2 =
      let placed := (d.scannerFor l.loc).2
      ((placed.update fun s =>
        (s.addRegex (.ofLiteral l)).addObject .type (d.madeUpName "literal")).enterToken
          (d.literalToken l joinsBefore joinsAfter)).update
        (·.addLiteral d.home l.meaning.text d.spec.occurrences.next) := by
  rw [placeLiteral, literalToken, scannerFor]
  cases d.scanner? <;> rfl

/-! ## A scanner for one declaration -/

theorem scannerFor_of_none (h : d.scanner? = none) (loc : Location) :
    d.scannerFor loc = (d.spec.scanners.next, d.update (·.addScanner loc)) := by
  rw [scannerFor, h]

theorem closeScanner_addRegular (d : Draft) (c : ScannerId) (name : String) (loc : Location)
    (regex : RegexId) (isSealed : Bool) :
    let inside : Draft := { d with openScanners := c :: d.openScanners }
    (inside.addRegular name loc regex isSealed).2.closeScanner =
      (.ok c, (d.addRegular name loc regex isSealed).2) := by
  intro inside
  have hhome : inside.home = d.home := rfl
  rw [addRegular, addRegular, hhome]
  cases (d.spec.namespaces.get d.home).regular? name <;> rfl

/-- A token outside scanners is placed as if a scanner was opened for it and closed
    right after. -/
theorem closeScanner_placeToken (h : d.scanner? = none) (t : TokenDecl) (name : String) :
    ((d.openScanner t.loc).2.placeToken t name).2.closeScanner =
      (.ok (d.openScanner t.loc).1, (d.placeToken t name).2) := by
  have htoken : (d.openScanner t.loc).2.tokenOf t name = d.tokenOf t name := by
    rw [tokenOf, tokenOf, scannerFor_of_none h]
    rfl
  rw [placeToken_eq, placeToken_eq, htoken, scannerFor_of_none h]
  cases t.regex with
  | none => rfl
  | some r =>
    let placed := (d.update (·.addScanner t.loc)).update (·.addRegex r)
    exact (placed.enterToken (d.tokenOf t name)).closeScanner_addRegular d.spec.scanners.next _ _ _ _

/-- A literal outside scanners is placed as if a scanner was opened for it and closed
    right after. -/
theorem closeScanner_placeLiteral (h : d.scanner? = none) (l : Literal)
    (joinsBefore joinsAfter : Bool) :
    ((d.openScanner l.loc).2.placeLiteral l joinsBefore joinsAfter).2.closeScanner =
      (.ok (d.openScanner l.loc).1, (d.placeLiteral l joinsBefore joinsAfter).2) := by
  have htoken : (d.openScanner l.loc).2.literalToken l joinsBefore joinsAfter =
      d.literalToken l joinsBefore joinsAfter := by
    rw [literalToken, literalToken, scannerFor_of_none h]
    rfl
  rw [placeLiteral_eq, placeLiteral_eq, htoken, scannerFor_of_none h]
  rfl

/-! ## New tokens -/

theorem addRegular_tokens (d : Draft) (name : String) (loc : Location) (regex : RegexId)
    (isSealed : Bool) : (d.addRegular name loc regex isSealed).2.spec.tokens = d.spec.tokens :=
  congrArg Scanning.tokens spares_addRegular.scanning

theorem tokens_placeToken (d : Draft) (t : TokenDecl) (name : String) :
    ∃ os, (d.placeToken t name).2.spec.tokens =
      d.spec.tokens.push { d.tokenOf t name with occurrences := os } := by
  have hs := (d.hosts_scannerFor t.loc).tokens
  rw [placeToken_eq]
  cases t.regex with
  | none => exact tokens_enterToken hs rfl
  | some r =>
    dsimp only
    rw [addRegular_tokens]
    exact tokens_enterToken (by exact hs) rfl

theorem brings_declareToken (d : Draft) (t : TokenDecl) :
    d.Brings (d.declareToken t).2.spec ((Op.declareToken t).token? d) := by
  rw [declareToken, Op.token?]
  split
  next => exact .nothing rfl
  next =>
    cases d.nameOf t with
    | none => exact .nothing rfl
    | some name =>
      obtain ⟨os, h⟩ := d.tokens_placeToken t name
      exact .token os h

theorem brings_declareLiteral (d : Draft) (l : Literal) (joinsBefore joinsAfter : Bool) :
    d.Brings (d.declareLiteral l joinsBefore joinsAfter).2.spec
      ((Op.declareLiteral l joinsBefore joinsAfter).token? d) := by
  rw [declareLiteral, Op.token?]
  cases (d.spec.namespaces.get d.home).literal? l.meaning.text with
  | some _ => exact .nothing rfl
  | none =>
    obtain ⟨os, h⟩ := tokens_enterToken (d := d) (t := d.literalToken l joinsBefore joinsAfter)
      (e := (d.scannerFor l.loc).2.update fun s =>
        (s.addRegex (.ofLiteral l)).addObject .type (d.madeUpName "literal"))
      (d.hosts_scannerFor l.loc).tokens rfl
    dsimp only
    rw [placeLiteral_eq]
    exact .token os h

theorem brings_declareSentinel (d : Draft) (name : Name) :
    d.Brings (d.declareSentinel name).2.spec ((Op.declareSentinel name).token? d) := by
  rw [declareSentinel, Op.token?]
  cases d.scanner? with
  | none => exact .nothing rfl
  | some c => exact .token [] rfl

theorem brings_declareAtEnd (d : Draft) (stmts : List Stmt) (frame : ObjectId) (loc : Location) :
    d.Brings (d.declareAtEnd stmts frame loc).spec none := by
  rw [declareAtEnd]
  cases d.scanner? <;> exact .nothing rfl

/-- Whatever the operation, its token comes last, and no other. -/
theorem Sound.brings (hd : d.Sound) (hop : d.Admits op) :
    d.Brings (op.apply d).spec (op.token? d) := by
  cases op with
  | openScanner => exact .nothing rfl
  | declareToken t => exact d.brings_declareToken t
  | declareLiteral l joinsBefore joinsAfter =>
    exact d.brings_declareLiteral l joinsBefore joinsAfter
  | declareSentinel name => exact d.brings_declareSentinel name
  | declareAtEnd stmts frame loc => exact d.brings_declareAtEnd stmts frame loc
  | _ => exact .nothing (congrArg Scanning.tokens (hd.scanning_apply hop rfl))

theorem exists_tokenOf {decl : TokenDecl} (ht : (Op.declareToken decl).token? d = some t) :
    ∃ name, t = d.tokenOf decl name := by
  rw [Op.token?] at ht
  split at ht
  next => cases ht
  next =>
    obtain ⟨name, -, rfl⟩ := Option.map_eq_some_iff.1 ht
    exact ⟨name, rfl⟩

theorem eq_literalToken {l : Literal} {joinsBefore joinsAfter : Bool}
    (ht : (Op.declareLiteral l joinsBefore joinsAfter).token? d = some t) :
    t = d.literalToken l joinsBefore joinsAfter := by
  rw [Op.token?] at ht
  split at ht
  next => cases ht
  next => exact (Option.some.inj ht).symm

theorem exists_sentinelToken {name : Name} (ht : (Op.declareSentinel name).token? d = some t) :
    ∃ c, t = d.sentinelToken c name := by
  obtain ⟨c, -, rfl⟩ := Option.map_eq_some_iff.1 ht
  exact ⟨c, rfl⟩

/-! ## Regular expressions -/

/-- The regular expression of a new token comes with it. -/
theorem regex_of_token? {r : RegexId} (ht : op.token? d = some t) (hr : t.regex = some r) :
    r = d.spec.regexes.next := by
  have of_map {x : Option Regex} (h : (x.map fun _ => d.spec.regexes.next) = some r) :
      r = d.spec.regexes.next := by
    obtain ⟨_, _, h⟩ := Option.map_eq_some_iff.1 h
    exact h.symm
  cases op with
  | declareToken decl =>
    obtain ⟨name, rfl⟩ := exists_tokenOf ht
    exact of_map hr
  | declareLiteral l joinsBefore joinsAfter =>
    obtain rfl := eq_literalToken ht
    exact (Option.some.inj hr).symm
  | declareSentinel name =>
    obtain ⟨c, rfl⟩ := exists_sentinelToken ht
    exact (Option.some.inj hr).symm
  | _ => cases ht

/-- The regular expressions of tokens are there. -/
theorem Sound.mem_regexes (hd : d.Sound) {k : TokenId} {r : RegexId} (hk : k ∈ d.spec.tokens)
    (hr : (d.spec.tokens.get k).regex = some r) : r ∈ d.spec.regexes := by
  have h := (allHandles_token.1 (hd.closed.all.tokens.get hk)).2.1
  exact Spec.covers_handle.1 (allHandles_option.1 h r hr)

/-- A token that comes later has an expression that was not there before. -/
theorem Reachable.regex_new {ops : List Op} (hd : Reachable o d) (hops : d.AdmitsAll ops)
    {k : TokenId} {r : RegexId} (hk : k ∈ (d.run ops).spec.tokens) (hnew : k ∉ d.spec.tokens)
    (hr : ((d.run ops).spec.tokens.get k).regex = some r) : r ∉ d.spec.regexes := by
  induction ops generalizing d with
  | nil => exact absurd hk hnew
  | cons op ops ih =>
    obtain ⟨hop, hops⟩ := hops
    have hb := hd.sound.brings hop
    generalize ht : op.token? d = x at hb
    by_cases hk' : k ∈ (op.apply d).spec.tokens
    · -- It is the token of the first operation, and stays as it is.
      cases hb with
      | nothing h => exact absurd (h ▸ hk') hnew
      | token os h =>
        obtain rfl : k = d.spec.tokens.next := (Arena.mem_push.1 (h ▸ hk')).resolve_left hnew
        have hget := ((hd.step hop).retains_tokens hops _ hk').2
        rw [h, Arena.get_push_next] at hget
        rw [regex_of_token? ht ((congrArg Token.regex hget).symm.trans hr)]
        exact Arena.not_next_mem
    · have hgrows := (hd.sound.effect hop).steps.grows hd.sound.closed
      have hlater : r ∉ (op.apply d).spec.regexes := ih (hd.step hop) hops hk hk' hr
      exact fun h => hlater (hgrows.mem (h := ⟨.regexes, r.index⟩) h)

/-- No two tokens have the same expression. -/
theorem Reachable.regex_injective (hd : Reachable o d) {k k' : TokenId} {r : RegexId}
    (hk : k ∈ d.spec.tokens) (hk' : k' ∈ d.spec.tokens)
    (hr : (d.spec.tokens.get k).regex = some r) (hr' : (d.spec.tokens.get k').regex = some r) :
    k = k' := by
  induction hd generalizing k k' with
  | start => exact absurd hk (Nat.not_lt_zero _)
  | @step d op hd hop ih =>
    have hb := hd.sound.brings hop
    generalize ht : op.token? d = x at hb
    cases hb with
    | nothing h =>
      rw [h] at hk hk' hr hr'
      exact ih hk hk' hr hr'
    | @token t os h =>
      -- The expression of the new token is none of those there were.
      have hold {k : TokenId} (hk : k ∈ d.spec.tokens)
          (hr : ((op.apply d).spec.tokens.get k).regex = some r) :
          (d.spec.tokens.get k).regex = some r := by
        rwa [h, Arena.get_push_of_mem hk] at hr
      have hnext (hr : ((op.apply d).spec.tokens.get d.spec.tokens.next).regex = some r) :
          r ∉ d.spec.regexes := by
        rw [h, Arena.get_push_next] at hr
        exact regex_of_token? ht hr ▸ Arena.not_next_mem
      rcases Arena.mem_push.1 (h ▸ hk) with hk | rfl <;>
        rcases Arena.mem_push.1 (h ▸ hk') with hk' | rfl
      · exact ih hk hk' (hold hk hr) (hold hk' hr')
      · exact absurd (hd.sound.mem_regexes hk (hold hk hr)) (hnext hr')
      · exact absurd (hd.sound.mem_regexes hk' (hold hk' hr')) (hnext hr)
      · rfl

end Draft

end LangSpec
