import LangSpec.Proofs.Edit

/-!
# Handles along steps

A specification is *closed* if every handle in it lies inside its table. A step
adds handles that lie inside the tables already, by the guards of the step, and
handles of the entries it adds; and tables only grow. So steps keep
specifications closed.

* the lemmas of `All`: what an operation adds has a property, if its arguments
  and the handles of new entries have it;
* `Step.closed`: steps keep specifications closed.
-/

namespace LangSpec.Spec

variable {P : AnyHandle → Prop} {s s' : Spec}

namespace All

theorem addNamespace {loc : Location} {name : String} {parent : NamespaceId} (hs : s.All P)
    (hp : AllHandles P parent) (hid : AllHandles P s.namespaces.next) :
    (s.addNamespace loc name parent).All P := by
  refine { hs with namespaces := (hs.namespaces.push ?_).modify fun n _ hn => ?_ }
  · simpa using ⟨hid, hp⟩
  · simpa [hid] using hn

theorem addObject {kind : ObjectKind} {name : String} (hs : s.All P)
    (hid : AllHandles P s.objects.next) (hc : AllHandles P s.scopes.next) :
    (s.addObject kind name).All P := by
  refine { hs with objects := hs.objects.push ?_, scopes := hs.scopes.push ?_ }
  · simpa using ⟨hid, hc⟩
  · simpa using ⟨hc, hid⟩

theorem addScope {parent : ScopeId} (hs : s.All P) (hp : parent ∈ s.scopes)
    (hp' : AllHandles P parent) (hid : AllHandles P s.scopes.next) :
    (s.addScope parent).All P := by
  have ho : AllHandles P (s.scopes.get parent).owner :=
    (allHandles_scope.1 (hs.scopes.get hp)).2.1
  refine { hs with
    objects := hs.objects.modify fun o _ ho => ?_
    scopes := (hs.scopes.push ?_).modify fun c _ hc => ?_ }
  · simpa [hid] using ho
  · simpa using ⟨hid, ho, hp'⟩
  · simpa [hid] using hc

theorem addField {name : String} {loc : Location} {kind : FieldKind} {type : Option TypeRef}
    (hs : s.All P) (ht : AllHandles P type) (hid : AllHandles P s.fields.next) :
    (s.addField name loc kind type).All P := by
  refine { hs with fields := hs.fields.push ?_ }
  simpa using ⟨hid, ht⟩

theorem modifyField {f : FieldId} {change : Field → Field} (hs : s.All P)
    (hc : ∀ x, AllHandles P x → AllHandles P (change x)) : (s.modifyField f change).All P :=
  { hs with fields := hs.fields.modify fun x _ hx => hc x hx }

theorem bindField {scope : ScopeId} {f : FieldId} (hs : s.All P) (hf : AllHandles P f) :
    (s.bindField scope f).All P := by
  refine { hs with scopes := hs.scopes.modify fun c _ hc => ?_ }
  rw [allHandles_scope] at hc ⊢
  obtain ⟨hid, howner, hparent, hchildren, hfields, hmembers⟩ := hc
  refine ⟨hid, howner, hparent, hchildren, ?_, hmembers.insert hf⟩
  rw [Scope.insert]
  split
  · exact allHandles_append.2 ⟨hfields, allHandles_cons.2 ⟨hf, allHandles_nil⟩⟩
  · exact hfields

theorem addScanner {loc : Location} (hs : s.All P) (hid : AllHandles P s.scanners.next)
    (hp : ∀ i < 3, P ⟨.pools, s.pools.size + i⟩) (hr : ∀ i < 4, P ⟨.regions, s.regions.size + i⟩) :
    (s.addScanner loc).All P := by
  have hp : ∀ i < 3, AllHandles P (⟨s.pools.size + i⟩ : PoolId) :=
    fun i hi => allHandles_handle.2 (hp i hi)
  have hr : ∀ i < 4, AllHandles P (⟨s.regions.size + i⟩ : RegionId) :=
    fun i hi => allHandles_handle.2 (hr i hi)
  have hp₀ : AllHandles P (⟨s.pools.size⟩ : PoolId) := hp 0 (by decide)
  have hr₀ : AllHandles P (⟨s.regions.size⟩ : RegionId) := hr 0 (by decide)
  refine { hs with
    pools := ((hs.pools.push ?_).push ?_).push ?_
    regions := (((hs.regions.push ?_).push ?_).push ?_).push ?_
    scanners := hs.scanners.push ?_ }
  all_goals simp [hp, hp₀, hr, hr₀, hid]

theorem addToken {t : Token} (hs : s.All P) (hP : ∀ h ∈ s, P h) (ht : t.FitsIn s)
    (hid : AllHandles P s.tokens.next) : (s.addToken t).All P := by
  refine { hs with
    namespaces := hs.namespaces.modify fun n _ hn => ?_
    scanners := hs.scanners.modify fun c _ hc => ?_
    tokens := hs.tokens.push (allHandles_token.2 ⟨hid, ?_⟩) }
  · simpa [hid] using hn
  · simpa [hid] using hc
  · exact ⟨ht.regex.imp hP, ht.action.imp hP, allHandles_handle.2 (hP _ ht.home),
      allHandles_handle.2 (hP _ ht.scanner), ht.object.imp hP, ht.context.imp hP,
      allHandles_nil⟩

theorem addOccurrence {token : TokenId} {region : RegionId} {copyOf : Option OccurrenceId}
    (hs : s.All P) (ht : token ∈ s.tokens) (ht' : AllHandles P token) (hr : AllHandles P region)
    (hc : AllHandles P copyOf) (hid : AllHandles P s.occurrences.next) :
    (s.addOccurrence token region copyOf).All P := by
  have h := allHandles_token.1 (hs.tokens.get ht)
  refine { hs with
    pools := hs.pools.modify fun p _ hp => ?_
    tokens := hs.tokens.modify fun t _ ht => ?_
    occurrences := hs.occurrences.push ?_ }
  · simpa [hid] using hp
  · simpa [hid] using ht
  · simpa using ⟨hid, ht', h.2.1, h.2.2.2.1, hr, hc⟩

theorem addOccurrences {token : TokenId} (hs : s.All P) (ht : token ∈ s.tokens)
    (hc : (s.tokens.get token).scanner ∈ s.scanners) (ht' : AllHandles P token)
    (hid : ∀ i < 2, P ⟨.occurrences, s.occurrences.size + i⟩) : (s.addOccurrences token).All P := by
  have hregions := allHandles_scanner.1 (hs.scanners.get hc)
  have hsecond : AllHandles P (if (s.tokens.get token).ignored
      then (s.scanners.get (s.tokens.get token).scanner).ignoreOnly
      else (s.scanners.get (s.tokens.get token).scanner).tokenOnly) := by
    split
    · exact hregions.2.2.2.2.2.2.1
    · exact hregions.2.2.2.2.2.1
  have hprimary : AllHandles P s.occurrences.next := allHandles_handle.2 (hid 0 (by decide))
  refine (hs.addOccurrence ht ht' hregions.2.2.2.2.1 allHandles_none hprimary).addOccurrence
    (Arena.mem_modify.2 ht) ht' hsecond (allHandles_some.2 hprimary) (allHandles_handle.2 ?_)
  simpa [Arena.next, Spec.addOccurrence] using hid 1 (by decide)

/-- A new token that occurs. -/
theorem addOccurring {t : Token} (hs : s.All P) (hP : ∀ h ∈ s, P h) (ht : t.FitsIn s)
    (hid : AllHandles P s.tokens.next)
    (hocc : ∀ i < 2, P ⟨.occurrences, s.occurrences.size + i⟩) :
    ((s.addToken t).addOccurrences s.tokens.next).All P := by
  refine (hs.addToken hP ht hid).addOccurrences Arena.next_mem_push ?_ hid hocc
  rw [Spec.addToken, Arena.get_push_next]
  exact Arena.mem_modify.2 ht.scanner

theorem addLiteral {home : NamespaceId} {text : String} {primary : OccurrenceId} (hs : s.All P)
    (hp : AllHandles P primary) : (s.addLiteral home text primary).All P := by
  refine { hs with namespaces := hs.namespaces.modify fun n _ hn => ?_ }
  rw [allHandles_namespace] at hn ⊢
  obtain ⟨hid, hpar, hch, htok, hnt, hal, hcx, hlit, hreg⟩ := hn
  exact ⟨hid, hpar, hch, htok, hnt, hal, hcx, hlit.insert hp, hreg⟩

theorem addRegex {r : Regex} (hs : s.All P) (hr : AllHandles P r) : (s.addRegex r).All P :=
  { hs with regexes := hs.regexes.push hr }

theorem addMark (hs : s.All P) (hid : AllHandles P s.marks.next) : s.addMark.All P :=
  { hs with marks := hs.marks.push (allHandles_mark.2 hid) }

theorem addRegular {home : NamespaceId} {name : String} {loc : Location} {regex : RegexId}
    {isSealed : Bool} (hs : s.All P) (hr : AllHandles P regex)
    (hid : AllHandles P s.regulars.next) : (s.addRegular home name loc regex isSealed).All P := by
  refine { hs with
    regulars := hs.regulars.push (allHandles_regular.2 ⟨hid, hr⟩)
    namespaces := hs.namespaces.modify fun n _ hn => ?_ }
  rw [allHandles_namespace] at hn ⊢
  obtain ⟨hnid, hpar, hch, htok, hnt, hal, hcx, hlit, hreg⟩ := hn
  exact ⟨hnid, hpar, hch, htok, hnt, hal, hcx, hlit, hreg.insert hid⟩

theorem setAtEnd {region : RegionId} {code : Code} (hs : s.All P) (hc : AllHandles P code) :
    (s.setAtEnd region code).All P := by
  refine { hs with regions := hs.regions.modify fun r _ hr => ?_ }
  rw [allHandles_region] at hr ⊢
  exact ⟨hr.1, hr.2.1, hr.2.2.1, allHandles_some.2 hc⟩

theorem addPattern {loc : Location} {home : NamespaceId} {items : List PatternItem} (hs : s.All P)
    (hh : AllHandles P home) (hi : AllHandles P items) (hid : AllHandles P s.patterns.next) :
    (s.addPattern loc home items).All P :=
  { hs with patterns := hs.patterns.push (allHandles_pattern.2 ⟨hid, hh, hi⟩) }

theorem addConstructor {loc : Location} {home : NamespaceId} {items : List SupplyItem}
    (hs : s.All P) (hh : AllHandles P home) (hi : AllHandles P items)
    (hid : AllHandles P s.constructors.next) : (s.addConstructor loc home items).All P :=
  { hs with constructors := hs.constructors.push (allHandles_constructor.2 ⟨hid, hh, hi⟩) }

theorem addFeed {loc : Location} {home : NamespaceId} {items : List SupplyItem} (hs : s.All P)
    (hh : AllHandles P home) (hi : AllHandles P items) (hid : AllHandles P s.feeds.next) :
    (s.addFeed loc home items).All P :=
  { hs with feeds := hs.feeds.push (allHandles_feed.2 ⟨hid, hh, hi⟩) }

theorem addRoutine {r : Routine} (hs : s.All P)
    (hr : AllHandles P { r with id := s.routines.next }) : (s.addRoutine r).All P :=
  { hs with routines := hs.routines.push hr }

theorem addContext {name : String} {loc : Location} {home : NamespaceId} {object : ObjectId}
    (hs : s.All P) (hh : AllHandles P home) (ho : AllHandles P object)
    (hid : AllHandles P s.contexts.next) : (s.addContext name loc home object).All P := by
  refine { hs with
    namespaces := hs.namespaces.modify fun n _ hn => ?_
    contexts := hs.contexts.push (allHandles_context.2 ⟨hid, hh, ho⟩) }
  simpa [hid] using hn

theorem addAlias {name : String} {loc : Location} {home : NamespaceId} {type : TypeRef}
    (hs : s.All P) (hh : AllHandles P home) (ht : AllHandles P type)
    (hid : AllHandles P s.aliases.next) : (s.addAlias name loc home type).All P := by
  refine { hs with
    namespaces := hs.namespaces.modify fun n _ hn => ?_
    aliases := hs.aliases.push (allHandles_alias.2 ⟨hid, hh, ht⟩) }
  simpa [hid] using hn

theorem modifyProduction {p : ProductionId} {change : Production → Production} (hs : s.All P)
    (hc : ∀ x, AllHandles P x → AllHandles P (change x)) : (s.modifyProduction p change).All P :=
  { hs with productions := hs.productions.modify fun x _ hx => hc x hx }

theorem addProduction {p : Production} (hs : s.All P) (he : AllHandles P p.elements)
    (ha : AllHandles P p.action) (hp : AllHandles P p.predicateOf)
    (hid : AllHandles P s.productions.next) : (s.addProduction p).All P := by
  have he : AllHandles P
      (p.elements.map fun e => { e with production := some s.productions.next }) := by
    rw [allHandles_list] at he ⊢
    intro e' he'
    obtain ⟨e, hm, rfl⟩ := List.mem_map.1 he'
    have := allHandles_element.1 (he e hm)
    exact allHandles_element.2 ⟨this.1, this.2.1, allHandles_some.2 hid⟩
  refine { hs with productions := hs.productions.push ?_ }
  exact allHandles_production.2 ⟨hid, he, ha, hp, allHandles_none⟩

theorem linkAlternatives {n : NonterminalId} (hs : s.All P) (hn : AllHandles P n)
    (ps : List ProductionId) : (s.linkAlternatives ps n).All P := by
  induction ps generalizing s with
  | nil => exact hs
  | cons p ps ih =>
    refine ih (hs.modifyProduction fun x hx => ?_)
    rw [allHandles_production] at hx ⊢
    exact ⟨hx.1, hx.2.1, hx.2.2.1, hx.2.2.2.1, allHandles_some.2 hn⟩

theorem setCapture {r : ElementRef} {f : FieldId} (hs : s.All P) (hf : AllHandles P f) :
    (s.setCapture r f).All P := by
  refine hs.modifyProduction fun x hx => ?_
  rw [allHandles_production] at hx ⊢
  refine ⟨hx.1, hx.2.1.modifyAt fun e he => ?_, hx.2.2⟩
  rw [allHandles_element] at he ⊢
  exact ⟨he.1, allHandles_some.2 hf, he.2.2⟩

theorem addSource {r : ElementRef} {f : FieldId} (hs : s.All P) (hr : AllHandles P r) :
    (s.addSource r f).All P := by
  refine hs.modifyField fun x hx => ?_
  simpa [hr] using hx

theorem bindCapture {scope : ScopeId} {r : ElementRef} {f : FieldId} (hs : s.All P)
    (hc : scope ∈ s.scopes) (hr : AllHandles P r) (hf : AllHandles P f)
    (ht : AllHandles P (s.elementAt r).type) : (s.bindCapture scope r f).All P := by
  rw [Spec.bindCapture]
  split
  next g hg =>
    -- The field is one of those that the scope knows.
    have hg : AllHandles P g := by
      have hm := (allHandles_scope.1 (hs.scopes.get hc)).2.2.2.2.2
      exact allHandles_dict.1 hm _ (Dict.mem_entries_of_find? hg)
    exact (hs.setCapture hg).addSource hr
  next hn =>
    have htyped :
        (s.modifyField f fun x => { x with type := some (s.elementAt r).type }).All P := by
      refine hs.modifyField fun x hx => ?_
      rw [allHandles_field] at hx ⊢
      exact ⟨hx.1, allHandles_some.2 ht, hx.2.2⟩
    exact ((htyped.bindField hf).setCapture hf).addSource hr

end All

/-! ## Edits -/

theorem Grows.trans {s₁ s₂ s₃ : Spec} (h₁ : s₁.Grows s₂) (h₂ : s₂.Grows s₃) : s₁.Grows s₃ :=
  fun t => Nat.le_trans (h₁ t) (h₂ t)

theorem Edit.grows (h : s.Edit s') : s.Grows s' := by
  intro t
  cases h with
  | addNamespace => cases t <;> simp [size, Spec.addNamespace]
  | addObject => cases t <;> simp [size, Spec.addObject]
  | addScope => cases t <;> simp [size, Spec.addScope]
  | addField => cases t <;> simp [size, Spec.addField]
  | annotate => cases t <;> simp [size, modifyField]
  | bindField => cases t <;> simp [size, Spec.bindField]
  | addScanner => cases t <;> simp [size, Spec.addScanner, Nat.add_assoc]
  | addToken => cases t <;> simp [size, Spec.addToken, addOccurrences, addOccurrence, Nat.add_assoc]
  | addLiteral =>
    cases t <;>
      simp [size, Spec.addToken, addOccurrences, addOccurrence, Spec.addLiteral, Nat.add_assoc]
  | addSentinel => cases t <;> simp [size, Spec.addToken]
  | addRegex => cases t <;> simp [size, Spec.addRegex]
  | addMark => cases t <;> simp [size, Spec.addMark]
  | addRegular => cases t <;> simp [size, Spec.addRegular]
  | setAtEnd => cases t <;> simp [size, Spec.setAtEnd]
  | renumber => cases t <;> simp [size, modifyProduction]
  | addPattern => cases t <;> simp [size, Spec.addPattern]
  | addConstructor => cases t <;> simp [size, Spec.addConstructor]
  | addFeed => cases t <;> simp [size, Spec.addFeed]
  | addRoutine => cases t <;> simp [size, Spec.addRoutine]
  | addContext => cases t <;> simp [size, Spec.addContext]
  | addAlias => cases t <;> simp [size, Spec.addAlias]
  | rank => cases t <;> simp [size]

/-- A handle inside its table. -/
theorem covers_handle {t : Table} {h : Handle t} : s.Covers h ↔ (⟨t, h.index⟩ : AnyHandle) ∈ s :=
  allHandles_handle

theorem Edit.closed (h : s.Edit s') (hs : s.Closed) : s'.Closed := by
  -- The handles that are there lie inside the grown tables, too; what is left
  -- are those of the edit and of its new entries.
  have hg : s.Grows s' := h.grows
  have hs : s.All (· ∈ s') := allHandles_iff_all.1 (hs.grow hg)
  have old {t : Table} {x : Handle t} (hx : (⟨t, x.index⟩ : AnyHandle) ∈ s) : s'.Covers x :=
    covers_handle.2 (hg.mem hx)
  refine allHandles_iff_all.2 ?_
  cases h with
  | addNamespace loc hp hn =>
    refine hs.addNamespace (old hp) (covers_handle.2 ?_)
    simp [mem_iff, size, Spec.addNamespace, Arena.next]
  | addObject kind name =>
    refine hs.addObject (covers_handle.2 ?_) (covers_handle.2 ?_) <;>
      simp [mem_iff, size, Spec.addObject, Arena.next]
  | addScope hp =>
    refine hs.addScope hp (old hp) (covers_handle.2 ?_)
    simp [mem_iff, size, Spec.addScope, Arena.next]
  | addField name loc kind ht =>
    refine hs.addField (Covers.grow ht hg) (covers_handle.2 ?_)
    simp [mem_iff, size, Spec.addField, Arena.next]
  | annotate a hf ha =>
    refine hs.modifyField fun x hx => ?_
    have ha := Covers.grow ha hg
    rw [allHandles_field] at hx
    cases a with
    | param | exported => exact allHandles_field.2 hx
    | typed type => exact allHandles_field.2 ⟨hx.1, allHandles_some.2 ha, hx.2.2⟩
    | within c => exact allHandles_field.2 ⟨hx.1, hx.2.1, allHandles_some.2 ha, hx.2.2.2⟩
  | bindField hc hf hn => exact hs.bindField (old hf)
  | addScanner loc =>
    refine hs.addScanner (covers_handle.2 ?_) ?_ ?_
    · simp [mem_iff, size, Spec.addScanner, Arena.next]
    all_goals
      intro i hi
      simp [mem_iff, size, Spec.addScanner]
      omega
  | addToken ht hz hl =>
    refine hs.addOccurring (fun _ => hg.mem) ht (covers_handle.2 ?_) fun i hi => ?_
    all_goals simp [mem_iff, size, Spec.addToken, addOccurrences, addOccurrence, Arena.next]
    omega
  | addLiteral ht hz hl hn =>
    refine (hs.addOccurring (fun _ => hg.mem) ht (covers_handle.2 ?_) fun i hi => ?_).addLiteral
      (covers_handle.2 ?_)
    all_goals
      simp [mem_iff, size, Spec.addToken, addOccurrences, addOccurrence, Spec.addLiteral,
        Arena.next]
    all_goals omega
  | addSentinel ht hz hi hl =>
    refine hs.addToken (fun _ => hg.mem) ht (covers_handle.2 ?_)
    simp [mem_iff, size, Spec.addToken, Arena.next]
  | addRegex hr => exact hs.addRegex (Covers.grow hr hg)
  | addMark =>
    refine hs.addMark (covers_handle.2 ?_)
    simp [mem_iff, size, Spec.addMark, Arena.next]
  | addRegular loc isSealed hh hr hn =>
    refine hs.addRegular (old hr) (covers_handle.2 ?_)
    simp [mem_iff, size, Spec.addRegular, Arena.next]
  | setAtEnd hr hc => exact hs.setAtEnd (Covers.grow hc hg)
  | renumber n hp => exact hs.modifyProduction fun _ hx => hx
  | addPattern loc hh hi =>
    refine hs.addPattern (old hh) (Covers.grow hi hg) (covers_handle.2 ?_)
    simp [mem_iff, size, Spec.addPattern, Arena.next]
  | addConstructor loc hh hi =>
    refine hs.addConstructor (old hh) (Covers.grow hi hg) (covers_handle.2 ?_)
    simp [mem_iff, size, Spec.addConstructor, Arena.next]
  | addFeed loc hh hi =>
    refine hs.addFeed (old hh) (Covers.grow hi hg) (covers_handle.2 ?_)
    simp [mem_iff, size, Spec.addFeed, Arena.next]
  | addRoutine hr =>
    refine hs.addRoutine (allHandles_routine.2 ⟨covers_handle.2 ?_, Covers.grow hr.result hg,
      Covers.grow hr.params hg, Covers.grow hr.code hg, Covers.grow hr.context hg⟩)
    simp [mem_iff, size, Spec.addRoutine, Arena.next]
  | addContext name loc object hh ho =>
    refine hs.addContext (old hh) (old ho) (covers_handle.2 ?_)
    simp [mem_iff, size, Spec.addContext, Arena.next]
  | addAlias name loc hh ht =>
    refine hs.addAlias (old hh) (Covers.grow ht hg) (covers_handle.2 ?_)
    simp [mem_iff, size, Spec.addAlias, Arena.next]
  | rank hp =>
    exact { hs with precedences := allHandles_append.2 ⟨hs.precedences, Covers.grow hp hg⟩ }

/-! ## New productions and nonterminals -/

theorem grows_addProduction (p : Production) : s.Grows (s.addProduction p) := by
  intro t
  cases t <;> simp [size, addProduction]

theorem Closed.addProduction {p : Production} (hs : s.Closed) (hp : p.FitsIn s) :
    (s.addProduction p).Closed := by
  have hg : s.Grows (s.addProduction p) := grows_addProduction p
  refine allHandles_iff_all.2 ((allHandles_iff_all.1 (hs.grow hg)).addProduction
    (Covers.grow hp.elements hg) (Covers.grow hp.action hg) (Covers.grow hp.predicateOf hg)
    (covers_handle.2 ?_))
  simp [mem_iff, size, Spec.addProduction, Arena.next]

theorem grows_enlist (n : Nonterminal) : s.Grows (s.enlist n) := by
  intro t
  cases t <;> simp [size, enlist]

/-- There is an element at `r`. -/
def HasElement (s : Spec) (r : ElementRef) : Prop :=
  r.production ∈ s.productions ∧ r.pos < (s.productions.get r.production).elements.length

theorem HasElement.binds {n : NonterminalId} {r : ElementRef} (hr : s.HasElement r)
    (h : Binds n s s') : s'.HasElement r := by
  refine ⟨(Binds.mem_productions h).2 hr.1, ?_⟩
  rw [Binds.length_elements h]
  exact hr.2

theorem All.elementAt {r : ElementRef} (hs : s.All P) (hr : s.HasElement r) :
    AllHandles P (s.elementAt r) := by
  have hp := (allHandles_production.1 (hs.productions.get hr.1)).2.1
  rw [Spec.elementAt, List.getElem?_eq_getElem hr.2]
  exact allHandles_list.1 hp _ (List.getElem_mem hr.2)

theorem All.bindEach {scope : ScopeId} {cs : List (ElementRef × FieldId)} (hs : s.All P)
    (hc : scope ∈ s.scopes)
    (hcs : ∀ c ∈ cs, s.HasElement c.1 ∧ c.2 ∈ s.fields ∧ AllHandles P c.1 ∧ AllHandles P c.2) :
    (s.bindEach scope cs).All P := by
  induction cs generalizing s with
  | nil => exact hs
  | cons c cs ih =>
    obtain ⟨hr, hf, hr', hf'⟩ := hcs c List.mem_cons_self
    have hb : Binds default s (s.bindCapture scope c.1 c.2) := binds_bindCapture _ scope c.1 hf
    refine ih (hs.bindCapture hc hr' hf' (allHandles_element.1 (hs.elementAt hr)).1) ?_ ?_
    · exact (Binds.mem_scopes hb).2 hc
    · intro c' hc'
      obtain ⟨hr, hf, h⟩ := hcs c' (List.mem_cons_of_mem _ hc')
      exact ⟨hr.binds hb, (Binds.mem_fields hb).2 hf, h⟩

theorem All.enlist {n : Nonterminal} {s₁ : Spec} (h₁ : s₁.All P) (hP : ∀ h ∈ s, P h)
    (hn : n.FitsIn s) (hid : AllHandles P s₁.nonterminals.next) : (s₁.enlist n).All P := by
  refine { h₁ with
    namespaces := h₁.namespaces.modify fun m _ hm => ?_
    nonterminals := h₁.nonterminals.push (allHandles_nonterminal.2 ⟨hid, ?_⟩) }
  · simpa [hid] using hm
  · refine ⟨allHandles_handle.2 (hP _ hn.home), hn.context.imp hP,
      allHandles_handle.2 (hP _ hn.object), allHandles_list.2 fun p hp => ?_⟩
    exact allHandles_handle.2 (hP _ (hn.alternatives p hp))

/-- What alternatives capture are elements of them, each captured in a field. -/
theorem Closed.captures (hs : s.Closed) {n : Nonterminal} (hn : n.FitsIn s)
    {c : ElementRef × FieldId} (hc : c ∈ n.alternatives.flatMap s.capturesOf) :
    c.1.production ∈ n.alternatives ∧ s.HasElement c.1 ∧ c.2 ∈ s.fields := by
  obtain ⟨p, hp, hc⟩ := List.mem_flatMap.1 hc
  have hf : c.2 ∈ s.fields := hs.mem_fields_of_capturesOf (hn.alternatives p hp) hc
  obtain ⟨e, he, hc⟩ := List.mem_filterMap.1 hc
  obtain ⟨f, -, rfl⟩ := Option.map_eq_some_iff.1 hc
  exact ⟨hp, ⟨hn.alternatives p hp, hn.inRange p hp e he⟩, hf⟩

theorem Closed.rootScope_mem (hs : s.Closed) {o : ObjectId} (ho : o ∈ s.objects) :
    (s.objects.get o).rootScope ∈ s.scopes :=
  covers_handle.1 (allHandles_object.1 (hs.all.objects.get ho)).2.1

theorem All.bindAlternatives {n : Nonterminal} (hs : s.Closed) (hn : n.FitsIn s)
    (hP : ∀ h ∈ s, P h) (hid : AllHandles P s.nonterminals.next) :
    (s.bindAlternatives n).All P := by
  have hb := binds_linkAlternatives (s := s) s.nonterminals.next n.alternatives
  have hlinked : (s.linkAlternatives n.alternatives s.nonterminals.next).All P :=
    (allHandles_iff_all.1 (hs.imp hP)).linkAlternatives hid _
  rw [bindAlternatives_eq]
  refine hlinked.bindEach ?_ fun c hc => ?_
  · exact (Binds.mem_scopes hb).2 (hs.rootScope_mem hn.object)
  · obtain ⟨-, hr, hf⟩ := hs.captures hn hc
    refine ⟨hr.binds hb, (Binds.mem_fields hb).2 hf, ?_, ?_⟩
    · exact allHandles_elementRef.2 (allHandles_handle.2 (hP _ hr.1))
    · exact allHandles_handle.2 (hP _ hf)

theorem grows_addNonterminal {n : Nonterminal} (hs : s.Closed) (hn : n.FitsIn s) :
    s.Grows (s.addNonterminal n) := by
  intro t
  rw [addNonterminal_eq hs hn, ← Binds.eq (binds_bindAlternatives hs hn) Bind.size]
  exact grows_enlist n t

theorem Closed.addNonterminal {n : Nonterminal} (hs : s.Closed) (hn : n.FitsIn s) :
    (s.addNonterminal n).Closed := by
  have hg : s.Grows (s.addNonterminal n) := grows_addNonterminal hs hn
  -- All handles stay good, and the new one is good once the entry is there.
  have hP : ∀ h ∈ s, h ∈ s.addNonterminal n := fun _ => hg.mem
  have hnt := Binds.eq (binds_bindAlternatives hs hn) Bind.nonterminals
  have hid : (s.addNonterminal n).Covers s.nonterminals.next := by
    rw [covers_handle, addNonterminal_eq hs hn, ← hnt]
    simp [mem_iff, size, enlist, Arena.next]
  refine allHandles_iff_all.2 ?_
  rw [addNonterminal_eq hs hn] at hP hid ⊢
  exact (All.bindAlternatives hs hn hP hid).enlist hP hn (hnt ▸ hid)

theorem Step.closed (h : s.Step s') (hs : s.Closed) : s'.Closed := by
  cases h with
  | edit h => exact h.closed hs
  | production hp => exact hs.addProduction hp
  | nonterminal hn => exact hs.addNonterminal hn

end LangSpec.Spec
