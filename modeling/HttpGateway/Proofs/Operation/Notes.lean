import HttpGateway.Proofs.Provider.Discovery

/-!
Notes around the types of parameters. They have no part in what discovery makes of providers, nor in
which operation fits which arguments. Values are converted alike as well, but for a text that is to
become a sequence: with a note around the type it is not cut at its commas and is no value at all.
-/

namespace HttpGateway

section Related

variable {α β γ : Type} {R : α → β → Prop} {as : List α} {bs : List β}

theorem map_eq_of_forall₂ {f : α → γ} {g : β → γ} (h : List.Forall₂ R as bs)
    (hfg : ∀ a b, R a b → f a = g b) : as.map f = bs.map g := by
  induction h with
  | nil => rfl
  | cons hab _ ih => rw [List.map_cons, List.map_cons, hfg _ _ hab, ih]

theorem findSome?_eq_of_forall₂ {f : α → Option γ} {g : β → Option γ} (h : List.Forall₂ R as bs)
    (hfg : ∀ a b, R a b → f a = g b) : as.findSome? f = bs.findSome? g := by
  induction h with
  | nil => rfl
  | cons hab _ ih => rw [List.findSome?_cons, List.findSome?_cons, hfg _ _ hab, ih]

theorem any_eq_of_forall₂ {p : α → Bool} {q : β → Bool} (h : List.Forall₂ R as bs)
    (hpq : ∀ a b, R a b → p a = q b) : as.any p = bs.any q := by
  induction h with
  | nil => rfl
  | cons hab _ ih => rw [List.any_cons, List.any_cons, hpq _ _ hab, ih]

theorem forall_mem_iff_of_forall₂ {P : α → Prop} {Q : β → Prop} (h : List.Forall₂ R as bs)
    (hPQ : ∀ a b, R a b → (P a ↔ Q b)) : (∀ a ∈ as, P a) ↔ ∀ b ∈ bs, Q b := by
  induction h with
  | nil => simp
  | cons hab _ ih => rw [List.forall_mem_cons, List.forall_mem_cons, hPQ _ _ hab, ih]

theorem forall₂_getD_nil {x : Option (List α)} {y : Option (List β)}
    (h : Option.Rel (List.Forall₂ R) x y) : List.Forall₂ R (x.getD []) (y.getD []) := by
  cases h with
  | none => exact .nil
  | some h => exact h

end Related

namespace ParamType

inductive Noted (t : ParamType) : ParamType → Prop
  | same : Noted t t
  | noted : Noted t (.noted t)

theorem read?_text_of_isSequence {t : ParamType} (h : t.isSequence = true) (s : String) :
    t.read? (.text s) = none := by
  cases t with
  | listOf => rfl
  | tupleOf => rfl
  | tupleAll => rfl
  | setOf => rfl
  | frozenSetOf => rfl
  | _ => cases h

theorem convert?_text_of_not_isSequence {t : ParamType} (h : t.isSequence = false) (s : String) :
    t.convert? (.text s) = t.read? (.text s) := by
  cases t <;> first | rfl | cases h

theorem convert?_noted_text (t : ParamType) (s : String) :
    (noted t).convert? (.text s) = if t.isSequence then none else t.convert? (.text s) := by
  have hnoted : (noted t).convert? (.text s) = t.read? (.text s) := rfl
  rw [hnoted]
  cases h : t.isSequence with
  | true => rw [if_pos rfl, read?_text_of_isSequence h]
  | false => rw [if_neg Bool.false_ne_true, convert?_text_of_not_isSequence h]

end ParamType

inductive Hint.Noted (h : Hint) : Hint → Prop
  | same : Noted h h
  | written {t t'} : h = .written t → t.Noted t' → Noted h (.written t')

inductive Formal.Noted (f : Formal) : Formal → Prop
  | intro {hint} : f.hint.Noted hint → Noted f { f with hint := hint }

inductive Parameter.Noted (p : Parameter) : Parameter → Prop
  | intro {type} : p.type.Noted type → Noted p { p with type := type }

inductive Operation.Noted (op : Operation) : Operation → Prop
  | intro {ps} : List.Forall₂ Parameter.Noted op.parameters ps →
      Noted op { op with parameters := ps }

inductive Method.Noted (m : Method) : Method → Prop
  | intro {fs} : List.Forall₂ Formal.Noted m.formals fs → Noted m { m with formals := fs }

inductive Member.Noted : Member → Member → Prop
  | method {m m'} : m.Noted m' → Noted (.method m) (.method m')
  | detached (m : Method) : Noted (.detached m) (.detached m)
  | constant : Noted .constant .constant

inductive Layer.Noted (l : Layer) : Layer → Prop
  | intro {members} : l.members.Related Member.Noted members → Noted l { l with members := members }

inductive Provider.Noted (p : Provider) : Provider → Prop
  | intro {own above} : p.kind.own.Noted own → List.Forall₂ Layer.Noted p.kind.above above →
      Noted p { p with kind := ⟨own, above⟩ }

inductive Finding.Noted : Finding → Finding → Prop
  | stranger (className : String) : Noted (.stranger className) (.stranger className)
  | misnamed (name : Value) : Noted (.misnamed name) (.misnamed name)
  | skipped (name provider reason : String) :
      Noted (.skipped name provider reason) (.skipped name provider reason)
  | offered {op op'} : op.Noted op' → Noted (.offered op) (.offered op')

inductive Catalog.Noted (c : Catalog) : Catalog → Prop
  | intro {ops} : c.operations.Related (List.Forall₂ Operation.Noted) ops →
      Noted c { c with operations := ops }

inductive Catalog.Resolved.Noted (r : Catalog.Resolved) : Catalog.Resolved → Prop
  | intro {op} : r.operation.Noted op → Noted r { r with operation := op }

theorem Operation.Noted.parameterNames_eq {op op' : Operation} (h : op.Noted op') :
    op.parameterNames = op'.parameterNames := by
  obtain ⟨hps⟩ := h
  refine map_eq_of_forall₂ (List.rel_filter (fun p p' hp => ?_) hps) fun p p' hp => ?_
  · cases hp
    exact Iff.rfl
  · cases hp
    rfl

theorem Operation.Noted.matchesKeys_eq {op op' : Operation} (h : op.Noted op')
    (keys : List String) : op.matchesKeys keys = op'.matchesKeys keys := by
  rw [matchesKeys, matchesKeys, h.parameterNames_eq]

namespace Formal.Noted

variable {f f' : Formal}

theorem parameter (h : f.Noted f') : f.parameter.Noted f'.parameter := by
  obtain ⟨name, hint, injected, passing⟩ := f
  obtain ⟨hhint⟩ := h
  cases hhint with
  | same => exact .intro .same
  | @written t t' ht hnoted =>
    cases ht
    cases injected with
    | false => exact .intro hnoted
    | true =>
      -- an injected parameter is stripped of its notes
      cases hnoted with
      | same => exact .intro .same
      | noted => exact .intro .same

theorem isUndefined_eq (h : f.Noted f') : f.isUndefined = f'.isUndefined := by
  obtain ⟨name, hint, injected, passing⟩ := f
  obtain ⟨hhint⟩ := h
  cases hhint with
  | same => rfl
  | written ht _ =>
    cases ht
    rfl

theorem passing_eq (h : f.Noted f') : f.passing = f'.passing := by
  cases h
  rfl

theorem refusal?_eq (h : f.Noted f') : f.refusal? = f'.refusal? := by
  cases h
  rfl

end Formal.Noted

namespace Method.Noted

variable {m m' : Method}

theorem signature (h : m.Noted m') : List.Forall₂ Formal.Noted m.signature m'.signature := by
  obtain ⟨hfs⟩ := h
  have hreceiver : receiver.Noted receiver := .intro .same
  refine (OrderedMap.related_ofList ?_).values
  refine List.rel_map (fun f f' hf => ⟨?_, hf⟩) (.cons hreceiver hfs)
  cases hf
  rfl

theorem supported_iff (h : m.Noted m') : m.Supported ↔ m'.Supported := by
  refine and_congr ?_ ?_
  · refine forall_mem_iff_of_forall₂ h.signature fun f f' hf => ?_
    rw [hf.isUndefined_eq]
  · refine forall_mem_iff_of_forall₂ (List.forall₂_drop 1 h.signature) fun f f' hf => ?_
    rw [hf.passing_eq]

theorem objection_eq (h : m.Noted m') : m.objection = m'.objection := by
  rw [objection, objection, any_eq_of_forall₂ h.signature fun _ _ hf => hf.isUndefined_eq,
    findSome?_eq_of_forall₂ (List.forall₂_drop 1 h.signature) fun _ _ hf => hf.refusal?_eq]

theorem finding (h : m.Noted m') {p p' : Provider} (hcode : p.code = p'.code)
    (houtlet : p.outlet = p'.outlet) (found : String) (marker : Marker) :
    (marker.finding p found m).Noted (marker.finding p' found m') := by
  have hparameters : List.Forall₂ Parameter.Noted ((m.signature.drop 1).map Formal.parameter)
      ((m'.signature.drop 1).map Formal.parameter) :=
    List.rel_map (fun _ _ hf => hf.parameter) (List.forall₂_drop 1 h.signature)
  have hname : m.name found = m'.name found := by
    cases h
    rfl
  have hbuild : m.build = m'.build := by
    cases h
    rfl
  rw [Marker.finding, Marker.finding, hname, hcode, houtlet, hbuild, h.objection_eq]
  cases marker.title? (m'.name found) with
  | none => exact .misnamed _
  | some name =>
    by_cases hs : m.Supported
    · have hs' : m'.Supported := h.supported_iff.1 hs
      simp only [if_pos hs, if_pos hs']
      exact .offered (.intro hparameters)
    · have hs' : ¬ m'.Supported := fun hs' => hs (h.supported_iff.2 hs')
      simp only [if_neg hs, if_neg hs']
      exact .skipped _ _ _

end Method.Noted

namespace ProviderClass

theorem visibleMethods_noted {ms ms' : List (String × Member)}
    (h : List.Forall₂ (OrderedMap.RelatedEntries Member.Noted) ms ms') (seen : List String) :
    List.Forall₂ (OrderedMap.RelatedEntries Method.Noted) (visibleMethods seen ms)
      (visibleMethods seen ms') := by
  induction h generalizing seen with
  | nil => exact .nil
  | @cons e e' ms ms' he _ ih =>
    obtain ⟨found, x⟩ := e
    obtain ⟨found', x'⟩ := e'
    obtain ⟨hfound, hx⟩ := he
    cases hfound
    cases hx with
    | method hm =>
      rw [visibleMethods, visibleMethods]
      split
      · exact ih seen
      · exact .cons ⟨rfl, hm⟩ (ih (found :: seen))
    | detached => exact ih seen
    | constant => exact ih seen

end ProviderClass

namespace Provider.Noted

variable {p p' : Provider}

theorem layers (h : p.Noted p') : List.Forall₂ Layer.Noted p.kind.layers p'.kind.layers := by
  obtain ⟨hown, habove⟩ := h
  exact .cons hown habove

theorem code_eq (h : p.Noted p') : p.code = p'.code := by
  have hcodes : p.kind.layers.findSome? Layer.code = p'.kind.layers.findSome? Layer.code := by
    refine findSome?_eq_of_forall₂ h.layers fun l l' hl => ?_
    cases hl
    rfl
  rw [code, code, ProviderClass.code, ProviderClass.code, hcodes]

theorem family_eq (h : p.Noted p') : p.family = p'.family := by
  have hfamilies :
      p.kind.layers.findSome? Layer.family = p'.kind.layers.findSome? Layer.family := by
    refine findSome?_eq_of_forall₂ h.layers fun l l' hl => ?_
    cases hl
    rfl
  rw [family, family, ProviderClass.family, ProviderClass.family, hfamilies]

theorem isProvider_eq (h : p.Noted p') : p.kind.isProvider = p'.kind.isProvider := by
  refine any_eq_of_forall₂ h.layers fun l l' hl => ?_
  cases hl
  rfl

theorem findings (h : p.Noted p') (family : String) :
    List.Forall₂ Finding.Noted (p.findings family) (p'.findings family) := by
  have hmembers : List.Forall₂ (OrderedMap.RelatedEntries Member.Noted) p.kind.members
      p'.kind.members := by
    refine List.rel_flatMap h.layers fun l l' hl => ?_
    obtain ⟨hmembers⟩ := hl
    exact hmembers
  have hunhidden : ∀ q : Provider, ProviderClass.unhidden [] q.kind.layers =
      ProviderClass.visibleMethods [] q.kind.members := fun q =>
    (ProviderClass.visibleMethods_eq_unhidden q.kind.layers [] [] (by simp)).symm
  have hname : p.kind.name = p'.kind.name := by
    obtain ⟨hown, -⟩ := h
    cases hown
    rfl
  have houtlet : p.outlet = p'.outlet := by
    cases h
    rfl
  rw [Provider.findings, Provider.findings, h.isProvider_eq, h.family_eq, hname, hunhidden,
    hunhidden]
  split
  · exact .cons (.stranger _) .nil
  · split
    · refine List.rel_flatMap (ProviderClass.visibleMethods_noted hmembers []) fun e e' he => ?_
      obtain ⟨found, m⟩ := e
      obtain ⟨found', m'⟩ := e'
      obtain ⟨hfound, hm⟩ := he
      cases hfound
      have hmarkers : m.markers = m'.markers := by
        cases hm
        rfl
      rw [hmarkers, List.forall₂_map_left_iff, List.forall₂_map_right_iff]
      exact List.forall₂_same.2 fun marker _ => hm.finding h.code_eq houtlet found marker
    · exact .nil

end Provider.Noted

namespace Catalog

inductive OutcomesNoted :
    Except Failure Catalog × Journal → Except Failure Catalog × Journal → Prop
  | failed (e : Failure) (j : Journal) : OutcomesNoted (.error e, j) (.error e, j)
  | built {c c' : Catalog} (j : Journal) : c.Noted c' → OutcomesNoted (.ok c, j) (.ok c', j)

theorem OutcomesNoted.bind {k k' : Compile Catalog} {f f' : Catalog → Compile Catalog} {i : Journal}
    (hk : OutcomesNoted (k.outcomeFrom i) (k'.outcomeFrom i))
    (hf : ∀ c c' j, c.Noted c' → OutcomesNoted ((f c).outcomeFrom j) ((f' c').outcomeFrom j)) :
    OutcomesNoted ((k >>= f).outcomeFrom i) ((k' >>= f').outcomeFrom i) := by
  rw [Compile.outcomeFrom_bind, Compile.outcomeFrom_bind]
  generalize k.outcomeFrom i = o at hk ⊢
  generalize k'.outcomeFrom i = o' at hk ⊢
  cases hk with
  | failed e j => exact .failed e j
  | built j hc => exact hf _ _ j hc

variable {c c' : Catalog}

theorem sameParameters_noted {a a' b b' : Operation} (ha : a.Noted a') (hb : b.Noted b') :
    sameParameters a b = sameParameters a' b' := by
  rw [sameParameters, sameParameters, ha.parameterNames_eq, hb.parameterNames_eq]

theorem Noted.group (h : c.Noted c') (name : String) :
    List.Forall₂ Operation.Noted ((c.operations.get? name).getD [])
      ((c'.operations.get? name).getD []) := by
  obtain ⟨hops⟩ := h
  exact forall₂_getD_nil (hops.get? name)

theorem Noted.add (h : c.Noted c') {op op' : Operation} (hop : op.Noted op') (j : Journal) :
    OutcomesNoted (c.add op, j) (c'.add op', j) := by
  have hname : op.name = op'.name := by
    cases hop
    rfl
  have hgroup := h.group op.name
  rw [Catalog.add, Catalog.add, ← hname, hop.parameterNames_eq,
    any_eq_of_forall₂ hgroup fun _ _ ha => sameParameters_noted ha hop]
  split
  · exact .failed _ j
  · obtain ⟨hops⟩ := h
    exact .built j (.intro (hops.insert op.name (List.rel_append hgroup (.cons hop .nil))))

theorem Noted.record (h : c.Noted c') {f f' : Finding} (hf : f.Noted f') (j : Journal) :
    OutcomesNoted ((c.record f).outcomeFrom j) ((c'.record f').outcomeFrom j) := by
  cases hf with
  | stranger => exact .failed _ j
  | misnamed => exact .failed _ j
  | skipped => exact .built _ h
  | offered hop =>
    rw [Catalog.record, Catalog.record, Compile.outcomeFrom_lift, Compile.outcomeFrom_lift]
    exact h.add hop j

theorem Noted.foldlM_record {fs fs' : List Finding} (hfs : List.Forall₂ Finding.Noted fs fs')
    (h : c.Noted c') (j : Journal) :
    OutcomesNoted ((fs.foldlM Catalog.record c).outcomeFrom j)
      ((fs'.foldlM Catalog.record c').outcomeFrom j) := by
  induction hfs generalizing c c' j with
  | nil => exact .built j h
  | @cons f f' fs fs' hf _ ih =>
    rw [List.foldlM_cons, List.foldlM_cons]
    exact (h.record hf j).bind fun d d' i hd => ih hd i

theorem outcomesNoted_discover {providers providers' : List Provider}
    (h : List.Forall₂ Provider.Noted providers providers') (family : String) (j : Journal) :
    OutcomesNoted ((discover family providers).outcomeFrom j)
      ((discover family providers').outcomeFrom j) := by
  have hfindings : List.Forall₂ Finding.Noted (findings family providers)
      (findings family providers') := List.rel_flatMap h fun _ _ hp => hp.findings family
  have hempty : (empty family).Noted (empty family) := .intro .nil
  have hrun : OutcomesNoted ((providers.foldlM addProvider (empty family)).outcomeFrom j)
      ((providers'.foldlM addProvider (empty family)).outcomeFrom j) := by
    rw [foldlM_addProvider, foldlM_addProvider]
    exact hempty.foldlM_record hfindings j
  refine hrun.bind fun c c' i hc => ?_
  -- the journal tells the names of the catalog, but no types
  have hnames : c.sortedNames = c'.sortedNames := by
    obtain ⟨hops⟩ := hc
    rw [sortedNames, sortedNames, names, names, hops.keys]
  rw [hnames]
  exact .built _ hc

inductive FindsNoted :
    Except IndexError (Option Resolved) → Except IndexError (Option Resolved) → Prop
  | failed (e : IndexError) : FindsNoted (.error e) (.error e)
  | missing : FindsNoted (.ok none) (.ok none)
  | found {r r' : Resolved} : r.Noted r' → FindsNoted (.ok (some r)) (.ok (some r'))

theorem findsNoted_firstFit {ops ops' : List Operation}
    (h : List.Forall₂ Operation.Noted ops ops') (raw : RawArgs) (i : Nat) :
    FindsNoted (firstFit raw i ops) (firstFit raw i ops') := by
  induction h generalizing i with
  | nil => exact .missing
  | @cons op op' ops ops' hop _ ih =>
    rw [firstFit, firstFit, hop.parameterNames_eq]
    rcases raw.align op'.parameterNames with e | _ | args
    · exact .failed e
    · exact ih (i + 1)
    · simp only [hop.matchesKeys_eq]
      split
      · exact .found (.intro hop)
      · exact ih (i + 1)

/-- Notes have no part in discovery and in lookup, and a type with a note around it reads the same
values from the same texts; but if it is a sequence, it reads none from any text. -/
theorem notes_alike_but_for_sequences {providers providers' : List Provider}
    (h : List.Forall₂ Provider.Noted providers providers') (family : String) (i : Journal) :
    ((∃ e j, (discover family providers).outcomeFrom i = (.error e, j) ∧
        (discover family providers').outcomeFrom i = (.error e, j)) ∨
      ∃ c c' j, (discover family providers).outcomeFrom i = (.ok c, j) ∧
        (discover family providers').outcomeFrom i = (.ok c', j) ∧
        ∀ name raw, FindsNoted (c.find name raw) (c'.find name raw)) ∧
    ∀ (t : ParamType) s,
      (ParamType.noted t).convert? (.text s) =
        if t.isSequence then none else t.convert? (.text s) := by
  refine ⟨?_, ParamType.convert?_noted_text⟩
  have hdiscover := outcomesNoted_discover h family i
  generalize (discover family providers).outcomeFrom i = o at hdiscover ⊢
  generalize (discover family providers').outcomeFrom i = o' at hdiscover ⊢
  cases hdiscover with
  | failed e j => exact .inl ⟨e, j, rfl, rfl⟩
  | @built c c' j hc =>
    refine .inr ⟨c, c', j, rfl, rfl, fun name raw => ?_⟩
    exact findsNoted_firstFit (hc.group (OperationName.normal name)) raw 0

end Catalog

namespace Sample

def cutting (t : ParamType) : Provider :=
  ⟨⟨⟨2, "Cutting", some "cutting", some "filter", OrderedMap.ofList [("cut", .method
      ⟨[⟨"parts", .written t, false, .ordinary⟩], [⟨.null, {}⟩], false,
        fun _ _ => return .value .null, none⟩)]⟩,
    ProviderClass.root.layers⟩, .empty⟩

theorem noted_cutting (t : ParamType) : (cutting t).Noted (cutting (.noted t)) := by
  refine .intro (.intro (.cons ⟨rfl, .method (.intro (.cons (.intro ?_) .nil))⟩ .nil)) ?_
  · exact .written rfl .noted
  · have hroot : Member.Noted (.method .unmarked) (.method .unmarked) := .method (.intro .nil)
    exact .cons (.intro (.cons ⟨rfl, hroot⟩ (.cons ⟨rfl, hroot⟩ .nil))) .nil

theorem notes_alike_but_for_sequences_int : ∃ c c' j r r',
    (Catalog.discover "filter" [cutting .int]).outcomeFrom [] = (.ok c, j) ∧
    (Catalog.discover "filter" [cutting (.noted .int)]).outcomeFrom [] = (.ok c', j) ∧
    c.find "cut" (.positional ["2"]) = .ok (some r) ∧
    c'.find "cut" (.positional ["2"]) = .ok (some r') ∧ r.Noted r' ∧
    ∀ s, (ParamType.noted .int).convert? (.text s) = ParamType.int.convert? (.text s) := by
  obtain ⟨halike, hreads⟩ := Catalog.notes_alike_but_for_sequences
    (.cons (noted_cutting .int) .nil) "filter" []
  have hfound : ∃ c j r, (Catalog.discover "filter" [cutting .int]).outcomeFrom [] = (.ok c, j) ∧
      c.find "cut" (.positional ["2"]) = .ok (some r) := ⟨_, _, _, rfl, rfl⟩
  obtain ⟨c, j, r, hc, hr⟩ := hfound
  rw [hc] at halike
  rcases halike with ⟨e, i, he, -⟩ | ⟨d, c', i, hd, hc', hfinds⟩
  · cases he
  · cases hd
    have hfind := hfinds "cut" (.positional ["2"])
    rw [hr] at hfind
    generalize hr' : c'.find "cut" (.positional ["2"]) = result at hfind
    cases hfind with
    | found hnoted => exact ⟨c, c', j, r, _, hc, hc', hr, hr', hnoted, hreads .int⟩

theorem note_bars_sequence :
    (ParamType.listOf .text).convert? (.text "a,b") = some (.list [.text "a", .text "b"]) ∧
      (ParamType.noted (.listOf .text)).convert? (.text "a,b") = none :=
  ⟨rfl, rfl⟩

end Sample

end HttpGateway
