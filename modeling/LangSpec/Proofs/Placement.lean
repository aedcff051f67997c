import LangSpec.Proofs.Footprint
import LangSpec.Proofs.Scopes
import LangSpec.Proofs.RegionTokens

/-!
# Where tokens are put

The tables of scanners and tokens change in five ways only: a scanner is opened,
a token is put into the innermost open scanner, or into a new one of its own
while none is open, a sentinel is put into the innermost open scanner, or this
scanner is given code to run at the end. What is put there is declared in the
current namespace, and is a literal only if a literal was declared.

* `Op.declares`: the token an operation declares, if it declares one;
* `ScanningEffect`: what an operation does to these tables;
* `Sound.scanningEffect`: every operation does one of these things;
* `ScanningEffect.tokens`: what comes to the tokens;
* `Reachable.retains_tokens`: a token never changes;
* `Reachable.exists_performs`: every token was declared by an operation of the
  walk;
* `Sound.mem_openScanners_apply`: only a new scanner is opened.
-/

namespace LangSpec

/-- The literal the operation declares, as it is written. -/
def Op.literal? : Op → Option String
  | declareLiteral literal _ _ => some literal.raw
  | _ => none

/-- The token the operation declares, if it declares one. -/
def Op.declares (d : Draft) : Op → Option TokenId
  | declareToken token => (d.declareToken token).1
  | declareLiteral literal joinsBefore joinsAfter =>
    (d.declareLiteral literal joinsBefore joinsAfter).1
  | declareSentinel name => (d.declareSentinel name).1
  | _ => none

/-- Where regions and pools are can be told from the tables of the scanners. -/
theorem Spec.ScannersLaidOut.congr {s s' : Spec} (hl : s.ScannersLaidOut)
    (h : s'.scanning = s.scanning) : s'.ScannersLaidOut := by
  have hl : ScannerLayout s.scanning.pools s.scanning.regions s.scanning.scanners := hl
  rw [← h] at hl
  exact hl

namespace Draft

variable {d : Draft} {op : Op} {s' : Spec}

/-- The scanner `c` takes a token declared now: it is the innermost open one, or
    no scanner is open and it is a new one, which `s` has in addition. -/
inductive Hosts (d : Draft) (c : ScannerId) (s : Spec) : Prop
  | inner (h : d.scanner? = some c) (hs : s.scanning = d.spec.scanning)
  | own (loc : Location) (h : d.openScanners = []) (hc : c = d.spec.scanners.next)
      (hs : s.scanning = (d.spec.addScanner loc).scanning)

/-- What an operation does to the tables of scanners and tokens. -/
inductive ScanningEffect (d : Draft) (op : Op) (s' : Spec) : Prop
  | nothing (hk : op.declares d = none) (h : s'.scanning = d.spec.scanning)
  | scanner (loc : Location) (hk : op.declares d = none)
      (h : s'.scanning = (d.spec.addScanner loc).scanning)
  /-- A token that occurs. -/
  | token {s : Spec} {t : Token} (hk : op.declares d = some d.spec.tokens.next)
      (hs : d.Hosts t.scanner s) (hh : t.home = d.home) (hl : t.literal = op.literal?)
      (h : s'.scanning = ((s.addToken t).addOccurrences s.tokens.next).scanning)
  /-- A token that does not occur. -/
  | sentinel {t : Token} (hk : op.declares d = some d.spec.tokens.next)
      (hc : d.scanner? = some t.scanner) (hh : t.home = d.home) (hl : t.literal = op.literal?)
      (h : s'.scanning = (d.spec.addToken t).scanning)
  | atEnd {c : ScannerId} (code : Code) (hk : op.declares d = none) (hc : d.scanner? = some c)
      (h : s'.scanning = (d.spec.setAtEnd (d.spec.scanners.get c).mixed code).scanning)

namespace Hosts

variable {c : ScannerId} {s : Spec}

theorem congr (h : d.Hosts c s) (hs : s'.scanning = s.scanning) : d.Hosts c s' := by
  cases h with
  | inner h h' => exact .inner h (hs.trans h')
  | own loc h hc h' => exact .own loc h hc (hs.trans h')

theorem tokens (h : d.Hosts c s) : s.tokens = d.spec.tokens := by
  cases h with
  | inner _ hs | own _ _ _ hs => exact congrArg Scanning.tokens hs

/-- The scanner is there, and so are those of the draft. -/
theorem mem_scanners (h : d.Hosts c s) (hd : d.Sound) {c' : ScannerId} :
    c' ∈ s.scanners ↔ c' ∈ d.spec.scanners ∨ c' = c := by
  cases h with
  | inner h hs =>
    have hscanners : s.scanners = d.spec.scanners := congrArg Scanning.scanners hs
    rw [hscanners]
    exact ⟨.inl, fun hc => hc.elim id fun e => e ▸ hd.scanner h⟩
  | own loc _ hc hs =>
    have hscanners : s.scanners = (d.spec.addScanner loc).scanners :=
      congrArg Scanning.scanners hs
    rw [hscanners, hc]
    exact Arena.mem_push

theorem scannersLaidOut (h : d.Hosts c s) (hl : d.spec.ScannersLaidOut) : s.ScannersLaidOut := by
  cases h with
  | inner _ hs => exact hl.congr hs
  | own _ _ _ hs => exact hl.addScanner.congr hs

/-- A scanner that is there and not open takes nothing. -/
theorem ne_of_not_open (h : d.Hosts c s) {c' : ScannerId} (hc : c' ∈ d.spec.scanners)
    (ho : c' ∉ d.openScanners) : c ≠ c' := by
  rintro rfl
  cases h with
  | inner h => exact ho (List.mem_of_head? h)
  | own _ _ hnext => exact Arena.not_next_mem (hnext ▸ hc)

end Hosts

/-! ## What operations do -/

theorem hosts_scannerFor (d : Draft) (loc : Location) :
    d.Hosts (d.scannerFor loc).1 (d.scannerFor loc).2.spec := by
  rw [scannerFor]
  split
  next h => exact .inner h rfl
  next h => exact .own loc (List.head?_eq_none_iff.1 h) rfl rfl

theorem home_scannerFor (d : Draft) (loc : Location) : (d.scannerFor loc).2.home = d.home :=
  (d.scannerFor_namespaces loc).2

/-- A token is put into a scanner together with its regular expression, and is a
    regular definition, too; neither has to do with scanners. -/
theorem scanningEffect_placeToken {t : TokenDecl} {name : String}
    (hk : op.declares d = some (d.placeToken t name).1) (hl : op.literal? = none) :
    d.ScanningEffect op (d.placeToken t name).2.spec := by
  have hs := d.hosts_scannerFor t.loc
  have hhome := d.home_scannerFor t.loc
  rw [placeToken] at hk ⊢
  generalize d.scannerFor t.loc = placed at hk hs hhome
  obtain ⟨scanner, d₁⟩ := placed
  cases hr : t.regex with
  | none =>
    rw [hr] at hk
    exact .token (hk.trans (congrArg some (congrArg Arena.next hs.tokens))) hs hhome hl.symm rfl
  | some r =>
    rw [hr] at hk
    have hs : d.Hosts scanner (d₁.update (·.addRegex r)).spec := hs.congr rfl
    exact .token (hk.trans (congrArg some (congrArg Arena.next hs.tokens))) hs hhome hl.symm
      spares_addRegular.scanning

theorem scanningEffect_declareToken (d : Draft) (t : TokenDecl) :
    d.ScanningEffect (.declareToken t) (d.declareToken t).2.spec := by
  have hk : (Op.declareToken t).declares d = (d.declareToken t).1 := rfl
  rw [declareToken] at hk ⊢
  split
  next h => exact .nothing (by rwa [if_pos h] at hk) rfl
  next h =>
    rw [if_neg h] at hk
    split at hk
    next => exact .nothing hk rfl
    next => exact scanningEffect_placeToken hk rfl

theorem scanningEffect_declareLiteral (d : Draft) (l : Literal) (joinsBefore joinsAfter : Bool) :
    d.ScanningEffect (.declareLiteral l joinsBefore joinsAfter)
      (d.declareLiteral l joinsBefore joinsAfter).2.spec := by
  have hk : (Op.declareLiteral l joinsBefore joinsAfter).declares d =
      (d.declareLiteral l joinsBefore joinsAfter).1 := rfl
  rw [declareLiteral] at hk ⊢
  split at hk
  next => exact .nothing hk rfl
  next =>
    have hs := d.hosts_scannerFor l.loc
    have hhome := d.home_scannerFor l.loc
    rw [placeLiteral] at hk ⊢
    generalize d.scannerFor l.loc = placed at hk hs hhome
    obtain ⟨scanner, d₁⟩ := placed
    have hs : d.Hosts scanner
        ((d₁.spec.addRegex (.ofLiteral l)).addObject .type (d.madeUpName "literal")) :=
      hs.congr rfl
    exact .token (hk.trans (congrArg some (congrArg Arena.next hs.tokens))) hs hhome rfl rfl

theorem scanningEffect_declareSentinel (d : Draft) (name : Name) :
    d.ScanningEffect (.declareSentinel name) (d.declareSentinel name).2.spec := by
  have hk : (Op.declareSentinel name).declares d = (d.declareSentinel name).1 := rfl
  rw [declareSentinel] at hk ⊢
  cases hc : d.scanner? with
  | none =>
    rw [hc] at hk
    exact .nothing hk rfl
  | some c =>
    rw [hc] at hk
    exact .sentinel hk hc rfl rfl rfl

theorem scanningEffect_declareAtEnd (d : Draft) (stmts : List Stmt) (frame : ObjectId)
    (loc : Location) :
    d.ScanningEffect (.declareAtEnd stmts frame loc) (d.declareAtEnd stmts frame loc).spec := by
  rw [declareAtEnd]
  cases hc : d.scanner? with
  | none => exact .nothing rfl rfl
  | some c => exact .atEnd (d.code stmts frame) rfl hc rfl

/-- Every operation does one of these things to scanners and tokens. -/
theorem Sound.scanningEffect (hd : d.Sound) (hop : d.Admits op) :
    d.ScanningEffect op (op.apply d).spec := by
  cases op with
  | openScanner loc => exact .scanner loc rfl rfl
  | declareToken t => exact d.scanningEffect_declareToken t
  | declareLiteral l joinsBefore joinsAfter =>
    exact d.scanningEffect_declareLiteral l joinsBefore joinsAfter
  | declareSentinel name => exact d.scanningEffect_declareSentinel name
  | declareAtEnd stmts frame loc => exact d.scanningEffect_declareAtEnd stmts frame loc
  | _ => exact .nothing rfl (hd.scanning_apply hop rfl)

/-- An operation that declares a token adds it to the others; all other operations
    leave the tokens alone. -/
theorem ScanningEffect.tokens (h : d.ScanningEffect op s') (hd : d.Sound)
    (hl : d.spec.ScannersLaidOut) :
    (op.declares d = none ∧ s'.tokens = d.spec.tokens) ∨
      ∃ t : Token, op.declares d = some d.spec.tokens.next ∧ t.home = d.home ∧
        t.literal = op.literal? ∧ s'.tokens = d.spec.tokens.push t := by
  cases h with
  | nothing hk h => exact .inl ⟨hk, congrArg Scanning.tokens h⟩
  | scanner loc hk h => exact .inl ⟨hk, congrArg Scanning.tokens h⟩
  | atEnd code hk hc h => exact .inl ⟨hk, congrArg Scanning.tokens h⟩
  | @sentinel t hk hc hh hlit h =>
    let t' : Token := { t with id := d.spec.tokens.next, occurrences := [] }
    exact .inr ⟨t', hk, hh, hlit, congrArg Scanning.tokens h⟩
  | @token s t hk hs hh hlit h =>
    have htokens : s'.tokens = ((s.addToken t).addOccurrences s.tokens.next).tokens :=
      congrArg Scanning.tokens h
    rw [Spec.addToken_addOccurrences (hs.scannersLaidOut hl) ((hs.mem_scanners hd).2 (.inr rfl)),
      hs.tokens] at htokens
    let t' : Token :=
      { t with
        id := d.spec.tokens.next
        occurrences := [s.occurrences.next, s.occurrences.next.succ] }
    exact .inr ⟨t', hk, hh, hlit, htokens⟩

/-! ## The tokens of a walk -/

section Walk

variable {o : Options} {ops : List Op} {e : Draft} {k : TokenId}

theorem Reachable.tokens_apply (hd : Reachable o d) (hop : d.Admits op) :
    (op.declares d = none ∧ (op.apply d).spec.tokens = d.spec.tokens) ∨
      ∃ t : Token, op.declares d = some d.spec.tokens.next ∧ t.home = d.home ∧
        t.literal = op.literal? ∧ (op.apply d).spec.tokens = d.spec.tokens.push t :=
  (hd.sound.scanningEffect hop).tokens hd.sound hd.tokensReplicated.1

/-- Tokens stay as they are. -/
theorem Reachable.retains_tokens (hd : Reachable o d) (hops : d.AdmitsAll ops) :
    Arena.Retains id d.spec.tokens (d.run ops).spec.tokens := by
  induction ops generalizing d with
  | nil => exact .refl
  | cons op ops ih =>
    obtain ⟨hop, hops⟩ := hops
    have hrest := ih (hd.step hop) hops
    rcases hd.tokens_apply hop with ⟨-, h⟩ | ⟨t, -, -, -, h⟩
    · exact h ▸ hrest
    · exact Arena.Retains.trans (h ▸ .push) hrest

/-- A token an operation of the walk declares is there in the end, declared where
    the operation was called, by the literal of the operation if it has one. -/
theorem Reachable.declared (hd : Reachable o d) (hops : d.AdmitsAll ops)
    (h : d.Performs ops e op) (hk : op.declares e = some k) :
    k ∈ (d.run ops).spec.tokens ∧ ((d.run ops).spec.tokens.get k).home = e.home ∧
      ((d.run ops).spec.tokens.get k).literal = op.literal? := by
  obtain ⟨he, hop, rest, hrest, hrun⟩ := h.exists_rest hd hops
  rcases he.tokens_apply hop with ⟨hnone, -⟩ | ⟨t, hsome, hhome, hlit, h⟩
  · exact nomatch hk.symm.trans hnone
  · cases Option.some.inj (hk.symm.trans hsome)
    obtain ⟨hmem, hget⟩ := (he.step hop).retains_tokens hrest e.spec.tokens.next
      (h ▸ Arena.next_mem_push)
    have hget : ((op.apply e).run rest).spec.tokens.get e.spec.tokens.next = t := by
      rw [h, Arena.get_push_next] at hget
      exact hget
    rw [hrun, hget]
    exact ⟨hmem, hhome, hlit⟩

/-- A token that was not there before was declared by an operation of the
    walk. -/
theorem Reachable.exists_performs (hd : Reachable o d) (hops : d.AdmitsAll ops)
    (hk : k ∈ (d.run ops).spec.tokens) (hnew : k ∉ d.spec.tokens) :
    ∃ e op, d.Performs ops e op ∧ op.declares e = some k := by
  induction ops generalizing d with
  | nil => exact absurd hk hnew
  | cons op ops ih =>
    obtain ⟨hop, hops⟩ := hops
    by_cases hk' : k ∈ (op.apply d).spec.tokens
    · rcases hd.tokens_apply hop with ⟨-, h⟩ | ⟨t, hsome, -, -, h⟩
      · exact absurd (h ▸ hk') hnew
      · rcases Arena.mem_push.1 (h ▸ hk') with hold | rfl
        · exact absurd hold hnew
        · exact ⟨d, op, .now, hsome⟩
    · obtain ⟨e, op', h, hdeclares⟩ := ih (hd.step hop) hops hk hk'
      exact ⟨e, op', .later h, hdeclares⟩

end Walk

/-! ## Open scanners -/

/-- A scanner that is open was open before, or it is a new one. -/
theorem Sound.mem_openScanners_apply (hd : d.Sound) (hop : d.Admits op) {c : ScannerId}
    (hc : c ∈ (op.apply d).openScanners) : c ∈ d.openScanners ∨ c = d.spec.scanners.next := by
  have stay {q : Position} (hq : (op.apply d).position = q) (h : q.openScanners = d.openScanners) :
      c ∈ d.openScanners :=
    h ▸ congrArg Position.openScanners hq ▸ hc
  cases op with
  | openScanner => exact (List.mem_cons.1 hc).symm
  | closeScanner =>
    have h : d.closeScanner.2.openScanners = d.openScanners.tail :=
      congrArg Position.openScanners (position_closeScanner d)
    exact .inl (List.mem_of_mem_tail (h ▸ hc))
  | openNamespace name => exact .inl (stay (position_openNamespace d name) rfl)
  | closeNamespace => exact .inl (stay (position_closeNamespace d) rfl)
  | openContext name => exact .inl (stay (position_openContext d name) rfl)
  | closeContext =>
    refine .inl (stay (position_closeContext d) ?_)
    split <;> rfl
  | openFrame | closeFrame | openScope => exact .inl hc
  | closeScope => exact .inl (stay (position_closeScope d) rfl)
  | _ => exact .inl (stay (hd.position_apply hop rfl) rfl)

end Draft

end LangSpec
