import HttpGateway.Proofs.Operation.Lookup
import Mathlib.Data.List.Nodup

namespace HttpGateway

namespace Operation

variable {op : Operation} {absent : String → Value} {args : OrderedMap Value} {p : Parameter}

inductive Given (absent : String → Value) (args : OrderedMap Value) (p : Parameter) :
    String × Value → Prop
  | converted {v w} : args.get? p.name = some v → p.type.convert? v = some w →
      Given absent args p (p.name, w)
  | absent : args.get? p.name = none → Given absent args p (p.name, absent p.name)

inductive Misfit (op : Operation) (args : OrderedMap Value) : Failure → Prop
  | first {before p after v} : op.parameters = before ++ p :: after →
      (∀ q ∈ before, ∀ w, args.get? q.name = some w → q.type.convert? w ≠ none) →
      args.get? p.name = some v → p.type.convert? v = none →
      Misfit op args (.conversion p.name v op.name)

/-- How a call ends behind a journal: an argument is refused and nothing is built, or what is built
is built out of one argument for each parameter. -/
inductive Invoked (op : Operation) (absent : String → Value) (args : OrderedMap Value)
    (j : Journal) : Except Failure Product × Journal → Prop
  | refused {e} : op.Misfit args e → Invoked op absent args j (.error e, j)
  | built {arguments} : List.Forall₂ (Given absent args) op.parameters arguments →
      Invoked op absent args j ((op.build arguments).outcomeFrom j)

theorem argument_eq_ok_iff {a : String × Value} :
    op.argument absent args p = .ok a ↔ Given absent args p a := by
  constructor
  · intro h
    rw [argument] at h
    cases hv : args.get? p.name with
    | none =>
      rw [hv] at h
      cases h
      exact .absent hv
    | some v =>
      cases hw : p.type.convert? v with
      | none =>
        simp only [hv, hw] at h
        cases h
      | some w =>
        simp only [hv, hw] at h
        cases h
        exact .converted hv hw
  · rintro (⟨hv, hw⟩ | hv)
    · simp only [argument, hv, hw]
    · simp only [argument, hv]

theorem argument_eq_error_iff {e : Failure} :
    op.argument absent args p = .error e ↔ ∃ v, args.get? p.name = some v ∧
      p.type.convert? v = none ∧ e = .conversion p.name v op.name := by
  constructor
  · intro h
    rw [argument] at h
    cases hv : args.get? p.name with
    | none =>
      rw [hv] at h
      cases h
    | some v =>
      cases hw : p.type.convert? v with
      | none =>
        simp only [hv, hw] at h
        cases h
        exact ⟨v, rfl, hw, rfl⟩
      | some w =>
        simp only [hv, hw] at h
        cases h
  · rintro ⟨v, hv, hw, rfl⟩
    simp only [argument, hv, hw]

theorem resolve_eq_ok_iff {arguments : Arguments} :
    op.resolve absent args = .ok arguments ↔
      List.Forall₂ (Given absent args) op.parameters arguments := by
  rw [resolve, Outcome.mapM_eq_ok_iff]
  simp only [argument_eq_ok_iff]

theorem resolve_eq_error_iff {e : Failure} :
    op.resolve absent args = .error e ↔ op.Misfit args e := by
  rw [resolve, Outcome.mapM_eq_error_iff]
  constructor
  · rintro ⟨before, p, after, hps, hbefore, hp⟩
    obtain ⟨v, hv, hw, rfl⟩ := argument_eq_error_iff.1 hp
    refine .first hps (fun q hq w hqw hnone => ?_) hv hw
    obtain ⟨a, ha⟩ := hbefore q hq
    rw [argument_eq_error_iff.2 ⟨w, hqw, hnone, rfl⟩] at ha
    cases ha
  · rintro ⟨hps, hbefore, hv, hw⟩
    refine ⟨_, _, _, hps, fun q hq => ?_, argument_eq_error_iff.2 ⟨_, hv, hw, rfl⟩⟩
    cases ha : op.argument absent args q with
    | ok a => exact ⟨a, rfl⟩
    | error e =>
      obtain ⟨w, hqw, hnone, -⟩ := argument_eq_error_iff.1 ha
      exact absurd hnone (hbefore q hq w hqw)

theorem outcomeFrom_invoke_eq_iff {j : Journal} {o : Except Failure Product × Journal} :
    (op.invoke absent args).outcomeFrom j = o ↔ op.Invoked absent args j o := by
  constructor
  · rintro rfl
    rw [invoke]
    cases h : op.resolve absent args with
    | error e => exact .refused (resolve_eq_error_iff.1 h)
    | ok arguments => exact .built (resolve_eq_ok_iff.1 h)
  · rintro (h | h)
    · rw [invoke, resolve_eq_error_iff.2 h]
      rfl
    · rw [invoke, resolve_eq_ok_iff.2 h]
      rfl

def Convertible (op : Operation) (args : OrderedMap Value) : Prop :=
  ∀ p ∈ op.parameters, ∀ v, args.get? p.name = some v → p.type.convert? v ≠ none

theorem Misfit.not_convertible {f : Failure} (h : op.Misfit args f) : ¬ op.Convertible args := by
  obtain ⟨hps, -, hv, hw⟩ := h
  intro hargs
  exact hargs _ (hps ▸ List.mem_append_right _ List.mem_cons_self) _ hv hw

theorem convertible_of_resolve {arguments : Arguments}
    (h : op.resolve absent args = .ok arguments) : op.Convertible args := by
  intro p hp v hv hw
  obtain ⟨a, ha⟩ := Outcome.exists_of_mapM_eq_ok h p hp
  rw [argument_eq_error_iff.2 ⟨v, hv, hw, rfl⟩] at ha
  cases ha

theorem resolve_congr {args' : OrderedMap Value}
    (h : ∀ p ∈ op.parameters, args'.get? p.name = args.get? p.name) :
    op.resolve absent args' = op.resolve absent args := by
  refine Outcome.mapM_congr fun p hp => ?_
  rw [argument, argument, h p hp]

/-- A call gives every parameter its argument and builds with them once, whatever it is that builds;
or it refuses the first value that cannot be converted, and nothing is built. Values under other
names have no part in it. -/
theorem invoke_all_or_nothing (op : Operation) (absent : String → Value)
    (args : OrderedMap Value) :
    (op.Convertible args → ∃ arguments,
      List.Forall₂ (Given absent args) op.parameters arguments ∧
        ∀ build j, ({ op with build }.invoke absent args).outcomeFrom j =
          (build arguments).outcomeFrom j) ∧
    (¬ op.Convertible args → ∃ f, op.Misfit args f ∧
      ∀ build j, ({ op with build }.invoke absent args).outcomeFrom j = (.error f, j)) ∧
    ∀ args' : OrderedMap Value, (∀ p ∈ op.parameters, args'.get? p.name = args.get? p.name) →
      op.invoke absent args' = op.invoke absent args := by
  refine ⟨fun hargs => ?_, fun hargs => ?_, fun args' h => ?_⟩
  · cases hr : op.resolve absent args with
    | error f => exact absurd hargs (resolve_eq_error_iff.1 hr).not_convertible
    | ok arguments =>
      have hgiven := resolve_eq_ok_iff.1 hr
      exact ⟨arguments, hgiven, fun build j => outcomeFrom_invoke_eq_iff.2 (.built hgiven)⟩
  · cases hr : op.resolve absent args with
    | ok arguments => exact absurd (convertible_of_resolve hr) hargs
    | error f =>
      refine ⟨f, resolve_eq_error_iff.1 hr, fun build j => ?_⟩
      -- what an operation builds has no part in resolving its arguments
      have hbuild : { op with build }.resolve absent args = .error f := hr
      exact outcomeFrom_invoke_eq_iff.2 (.refused (resolve_eq_error_iff.1 hbuild))
  · rw [invoke, invoke, resolve_congr h]

def Filled (absent : String → Value) (args : OrderedMap String) (p : Parameter)
    (a : String × Value) : Prop :=
  a.1 = p.name ∧
    if p.injected then a.2 = absent p.name
    else ∃ v, args.get? p.name = some v ∧ p.type.convert? (.text v) = some a.2

theorem name_mem_parameterNames_iff (hnames : (op.parameters.map Parameter.name).Nodup)
    (hp : p ∈ op.parameters) : p.name ∈ op.parameterNames ↔ p.injected = false := by
  rw [parameterNames, List.mem_map]
  constructor
  · rintro ⟨q, hq, hname⟩
    obtain ⟨hq, hinjected⟩ := List.mem_filter.1 hq
    -- names are distinct, so the supplied parameter of this name is the parameter itself
    rw [List.inj_on_of_nodup_map hnames hp hq hname.symm]
    simpa using hinjected
  · intro hinjected
    refine ⟨p, List.mem_filter.2 ⟨hp, ?_⟩, rfl⟩
    simpa using hinjected

theorem Given.filled {texts : OrderedMap String} {a : String × Value}
    (hnames : (op.parameters.map Parameter.name).Nodup) (hp : p ∈ op.parameters)
    (hkeys : ∀ k, k ∈ texts.keys ↔ k ∈ op.parameterNames)
    (h : Given absent (texts.map .text) p a) : Filled absent texts p a := by
  have hsupplied := (hkeys p.name).trans (name_mem_parameterNames_iff hnames hp)
  cases h with
  | @converted v w hv hw =>
    rw [OrderedMap.get?_map, Option.map_eq_some_iff] at hv
    obtain ⟨t, ht, rfl⟩ := hv
    have hinjected : p.injected = false :=
      hsupplied.1 (OrderedMap.get?_isSome_iff.1 (Option.isSome_iff_exists.2 ⟨t, ht⟩))
    refine ⟨rfl, ?_⟩
    rw [hinjected]
    exact ⟨t, ht, hw⟩
  | absent hv =>
    rw [OrderedMap.get?_map, Option.map_eq_none_iff, OrderedMap.get?_eq_none_iff] at hv
    have hinjected : p.injected = true := by
      rw [← Bool.not_eq_false]
      exact fun h => hv (hsupplied.2 h)
    refine ⟨rfl, ?_⟩
    rw [hinjected]
    exact rfl

end Operation

namespace Catalog

/-- A call with the arguments that a discovered catalog resolves refuses one of the configured
values or builds out of all of them, each given to one parameter that is not injected. -/
theorem invoke_found {family : String} {providers : List Provider} {c : Catalog} {i j : Journal}
    (hc : (discover family providers).outcomeFrom i = (.ok c, j)) {name : String} {raw : RawArgs}
    {found : Resolved} (hf : c.find name raw = .ok (some found)) (absent : String → Value)
    (k : Journal) :
    found.operation ∈ c.candidates name ∧
      (found.operation.parameters.map Parameter.name).Nodup ∧
      found.args.keys.Perm found.operation.parameterNames ∧
      found.args.values.Perm raw.configured ∧
      ((∃ p ∈ found.operation.parameters, p.injected = false ∧
          ∃ v, found.args.get? p.name = some v ∧ p.type.convert? (.text v) = none ∧
            (found.operation.invoke absent (found.args.map .text)).outcomeFrom k =
              (.error (.conversion p.name (.text v) found.operation.name), k)) ∨
        ∃ arguments, List.Forall₂ (Operation.Filled absent found.args)
            found.operation.parameters arguments ∧
          (found.operation.invoke absent (found.args.map .text)).outcomeFrom k =
            (found.operation.build arguments).outcomeFrom k) := by
  obtain ⟨hop, hkeys, hvalues⟩ := supplies_of_find hc hf
  have hnames := nodup_names_of_discover hc hop
  refine ⟨hop, hnames, hkeys, hvalues, ?_⟩
  generalize ho : (found.operation.invoke absent (found.args.map .text)).outcomeFrom k = o
  cases Operation.outcomeFrom_invoke_eq_iff.1 ho with
  | refused h =>
    obtain ⟨hps, -, hv, hw⟩ := h
    rw [OrderedMap.get?_map, Option.map_eq_some_iff] at hv
    obtain ⟨t, ht, rfl⟩ := hv
    have hp : _ ∈ found.operation.parameters := hps ▸ List.mem_append_right _ List.mem_cons_self
    have hkey := OrderedMap.get?_isSome_iff.1 (Option.isSome_iff_exists.2 ⟨t, ht⟩)
    have hinjected :=
      (Operation.name_mem_parameterNames_iff hnames hp).1 (hkeys.mem_iff.1 hkey)
    exact .inl ⟨_, hp, hinjected, t, ht, hw, rfl⟩
  | @built arguments h =>
    have hmem : List.Forall₂ (fun p a => p ∈ found.operation.parameters ∧
        Operation.Given absent (found.args.map .text) p a) found.operation.parameters arguments :=
      (List.forall₂_and_left _ _).2 ⟨fun p hp => hp, h⟩
    refine .inr ⟨arguments, hmem.imp fun p a ha => ?_, rfl⟩
    exact ha.2.filled hnames ha.1 fun k => hkeys.mem_iff

end Catalog

namespace Sample

def greeting : Operation :=
  ⟨"greet", "greeter", [⟨"name", .text, false⟩, ⟨"times", .int, false⟩], {}, fun arguments => do
    Compile.note (.called "greet" arguments)
    return .value .null⟩

def spare : OrderedMap Value := OrderedMap.ofList [("color", .text "red"), ("times", .text "2")]

def wordy : OrderedMap Value := OrderedMap.ofList [("name", .text "Ada"), ("times", .text "often")]

theorem invoke_all_or_nothing_greeting :
    greeting.Convertible spare ∧ ¬ greeting.Convertible wordy ∧
      (∃ arguments, List.Forall₂ (Operation.Given (fun _ => .null) spare) greeting.parameters
        arguments ∧ (greeting.build arguments).outcomeFrom [] = (.ok (.value .null),
          [.called "greet" [("name", .null), ("times", .int 2)]])) ∧
      greeting.Misfit wordy (.conversion "times" (.text "often") "greet") ∧
      (greeting.invoke (fun _ => .null) wordy).outcomeFrom [] =
        (.error (.conversion "times" (.text "often") "greet"), []) := by
  have hspare : greeting.Convertible spare := by
    refine List.forall_mem_cons.2 ⟨fun v hv => ?_, List.forall_mem_singleton.2 fun v hv => ?_⟩
    · cases hv
    · cases hv
      exact Option.some_ne_none (Value.int 2)
  have hwordy : ¬ greeting.Convertible wordy := fun h =>
    h ⟨"times", .int, false⟩ (List.mem_cons_of_mem _ List.mem_cons_self) (.text "often") rfl rfl
  obtain ⟨hbuilt, -, -⟩ := Operation.invoke_all_or_nothing greeting (fun _ => .null) spare
  obtain ⟨-, hrefused, -⟩ := Operation.invoke_all_or_nothing greeting (fun _ => .null) wordy
  obtain ⟨arguments, hgiven, hbuild⟩ := hbuilt hspare
  obtain ⟨f, hmisfit, hrefuse⟩ := hrefused hwordy
  have hrun : (greeting.invoke (fun _ => .null) wordy).outcomeFrom [] =
      (.error (.conversion "times" (.text "often") "greet"), []) := rfl
  cases (hrefuse greeting.build []).symm.trans hrun
  exact ⟨hspare, hwordy, ⟨arguments, hgiven, (hbuild greeting.build []).symm⟩, hmisfit, hrun⟩

def greeter : Provider :=
  ⟨⟨⟨1, "Greeter", some "greeter", some "filter", OrderedMap.ofList [("greet", .method
      ⟨[parameter "name", ⟨"token", .unwritten, true, .ordinary⟩,
          ⟨"times", .written .int, false, .ordinary⟩],
        [⟨.null, {}⟩], false,
        fun _ args => do
          Compile.note (.called "greet" args)
          return .value .null, none⟩)]⟩,
    ProviderClass.root.layers⟩, .empty⟩

def twice : RawArgs := .keyed (OrderedMap.ofList [("times", "2"), ("name", "Ada")])

theorem invoke_found_greet : ∃ c j found arguments,
    (Catalog.discover "filter" [greeter]).outcomeFrom [] = (.ok c, j) ∧
    c.find "Greet" twice = .ok (some found) ∧
    List.Forall₂ (Operation.Filled (fun _ => .null) found.args) found.operation.parameters
      arguments ∧
    (found.operation.build arguments).outcomeFrom [] = (.ok (.value .null),
      [.called "greet" [("name", .text "Ada"), ("token", .null), ("times", .int 2)]]) := by
  have h : ∃ c j found, (Catalog.discover "filter" [greeter]).outcomeFrom [] = (.ok c, j) ∧
      c.find "Greet" twice = .ok (some found) ∧
      (found.operation.invoke (fun _ => .null) (found.args.map .text)).outcomeFrom [] =
        (.ok (.value .null),
          [.called "greet" [("name", .text "Ada"), ("token", .null), ("times", .int 2)]]) :=
    ⟨_, _, _, rfl, rfl, rfl⟩
  obtain ⟨c, j, found, hc, hf, hrun⟩ := h
  obtain ⟨-, -, -, -, h⟩ := Catalog.invoke_found hc hf (fun _ => .null) []
  rw [hrun] at h
  rcases h with ⟨p, -, -, v, -, -, h⟩ | ⟨arguments, hfilled, h⟩
  · cases h
  · exact ⟨c, j, found, arguments, hc, hf, hfilled, h.symm⟩

end Sample

end HttpGateway
