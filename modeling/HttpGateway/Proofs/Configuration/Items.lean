import HttpGateway.Configuration.Binding
import HttpGateway.Proofs.Operation.Invocation

namespace HttpGateway

open HttpGateway.Text

namespace Value

def Nested : Value → Prop
  | list _ => True
  | tuple _ => True
  | map _ => True
  | _ => False

/-- Arguments in a list, or in a map that has no key twice, with their items in turn. -/
inductive Items : Value → List Value → Prop
  | listed (items) : Items (.list items) items
  | tupled (items) : Items (.tuple items) items
  | keyed {es} : (es.map Prod.fst).Nodup → Items (.map es) (es.map Prod.snd)

theorem argumentText_of_nested {v : Value} (h : v.Nested) : v.argumentText = v.literal := by
  cases v with
  | list => rfl
  | tuple => rfl
  | map => rfl
  | _ => cases h

theorem Items.configured {args : Value} {items : List Value} (h : args.Items items) :
    (RawArgs.ofValue args).configured = items.map argumentText := by
  cases h with
  | listed => rfl
  | tupled => rfl
  | @keyed es hkeys =>
    rw [RawArgs.ofValue, RawArgs.configured, OrderedMap.values, OrderedMap.entries_ofList,
      List.map_map, List.map_map]
    · rfl
    · rwa [List.map_map]

end Value

namespace Binding

variable {α β : Type}

theorem refuse_ne_ok {c : Problem.Cause} {a : α} : refuse c ≠ .ok a := by
  intro h
  cases h

theorem atStep_eq_ok_iff {s : Step} {b : Binding α} {a : α} : atStep s b = .ok a ↔ b = .ok a := by
  cases b <;> simp [atStep, Except.mapError]

theorem app_eq_ok_iff {f : Binding (α → β)} {b : Binding α} {c : β} :
    app f b = .ok c ↔ ∃ g a, f = .ok g ∧ b = .ok a ∧ g a = c := by
  cases f <;> cases b <;> simp [app]

end Binding

namespace Value

open Binding

variable {α : Type} {es : List (String × Value)} {name : String} {bind : Value → Binding α}

theorem required_eq_ok_iff {a : α} :
    required es name bind = .ok a ↔ ∃ v, es.lookup name = some v ∧ bind v = .ok a := by
  rw [required, atStep_eq_ok_iff]
  cases es.lookup name with
  | none => simp [refuse_ne_ok]
  | some v => simp

theorem optional_of_lookup {v : Value} (h : es.lookup name = some v) (missing : α) :
    optional es name missing bind = atStep (.field name) (bind v) := by
  rw [optional, h]

theorem bindText_eq_ok_iff {v : Value} {s : String} : v.bindText = .ok s ↔ v = .text s := by
  cases v <;> simp [bindText, refuse_ne_ok]

end Value

namespace OperationSpec

open Binding

theorem bindName_eq_ok_iff {name bound : String} :
    bindName name = .ok bound ↔ strip name ≠ "" ∧ strip name = bound := by
  rw [bindName]
  split
  · rename_i hname
    simp [hname, refuse_ne_ok]
  · rename_i hname
    simp [hname]

theorem bind_map_eq_ok_iff {model : String} {es : List (String × Value)} {args : Value}
    (hargs : es.lookup "args" = some args) {s : OperationSpec} :
    bind model (.map es) = .ok s ↔ ∃ name, es.lookup "name" = some (.text name) ∧
      strip name ≠ "" ∧ s = ⟨strip name, .ofValue args⟩ := by
  rw [bind, app_eq_ok_iff, Value.optional_of_lookup hargs]
  simp only [Outcome.map_eq_ok_iff, Value.required_eq_ok_iff, Outcome.bind_eq_ok_iff,
    Value.bindText_eq_ok_iff, bindName_eq_ok_iff, atStep_eq_ok_iff]
  constructor
  · rintro ⟨_, _, ⟨_, ⟨_, hname, name, rfl, hne, rfl⟩, rfl⟩, h, rfl⟩
    cases h
    exact ⟨name, hname, hne, rfl⟩
  · rintro ⟨name, hname, hne, rfl⟩
    exact ⟨_, _, ⟨_, ⟨_, hname, name, rfl, hne, rfl⟩, rfl⟩, rfl, rfl⟩

end OperationSpec

namespace Operation

def TakesTexts (op : Operation) : Prop :=
  ∀ p ∈ op.parameters, p.injected = false → ∀ t, p.type.convert? (.text t) = some (.text t)

variable {op : Operation} {absent : String → Value} {args : OrderedMap String}
  {arguments : Arguments} {t : String}

theorem exists_parameter_of_mem_values (hkeys : args.keys.Perm op.parameterNames)
    (ht : t ∈ args.values) :
    ∃ p ∈ op.parameters, p.injected = false ∧ args.get? p.name = some t := by
  obtain ⟨⟨k, t⟩, he, rfl⟩ := List.mem_map.1 ht
  have hk : k ∈ op.parameterNames := hkeys.mem_iff.1 (List.mem_map_of_mem he)
  obtain ⟨p, hp, rfl⟩ := List.mem_map.1 hk
  obtain ⟨hp, hinjected⟩ := List.mem_filter.1 hp
  exact ⟨p, hp, by simpa using hinjected, (OrderedMap.mem_iff_lookup args.distinct).1 he⟩

theorem TakesTexts.mem_arguments (hop : op.TakesTexts)
    (hkeys : args.keys.Perm op.parameterNames)
    (h : List.Forall₂ (Filled absent args) op.parameters arguments) (ht : t ∈ args.values) :
    ∃ name, (name, .text t) ∈ arguments := by
  obtain ⟨p, hp, hinjected, hget⟩ := exists_parameter_of_mem_values hkeys ht
  obtain ⟨⟨name, v⟩, ha, -, hv⟩ := exists_of_forall₂ h hp
  rw [hinjected] at hv
  obtain ⟨t', ht', hconvert⟩ := hv
  cases hget.symm.trans ht'
  cases (hop p hp hinjected t).symm.trans hconvert
  exact ⟨name, ha⟩

end Operation

theorem Catalog.invoke_texts {family : String} {providers : List Provider} {c : Catalog}
    {i j : Journal} (hc : (discover family providers).outcomeFrom i = (.ok c, j)) {name : String}
    {raw : RawArgs} {found : Resolved} (hf : c.find name raw = .ok (some found))
    (hop : found.operation.TakesTexts) (absent : String → Value) (k : Journal) :
    ∃ arguments, (found.operation.invoke absent (found.args.map .text)).outcomeFrom k =
        (found.operation.build arguments).outcomeFrom k ∧
      ∀ t ∈ raw.configured, ∃ name, (name, .text t) ∈ arguments := by
  obtain ⟨-, -, hkeys, hvalues, h⟩ := invoke_found hc hf absent k
  rcases h with ⟨p, hp, hinjected, t, -, hnone, -⟩ | ⟨arguments, hfilled, hrun⟩
  · rw [hop p hp hinjected t] at hnone
    cases hnone
  · exact ⟨arguments, hrun, fun t ht =>
      hop.mem_arguments hkeys hfilled (hvalues.mem_iff.2 ht)⟩

/-- Data with arguments in a list or in a map is bound as soon as it has a name, whatever the items
are. An item made of others becomes the text that it is shown as. What is found for the arguments has
the texts of all items, and an operation that takes texts is called with them. -/
theorem OperationSpec.bind_shows_items {es : List (String × Value)} {args : Value}
    {items : List Value} (hargs : es.lookup "args" = some args) (hitems : args.Items items)
    (model : String) :
    (∀ s, bind model (.map es) = .ok s ↔ ∃ name, es.lookup "name" = some (.text name) ∧
      strip name ≠ "" ∧ s = ⟨strip name, .ofValue args⟩) ∧
    (RawArgs.ofValue args).configured = items.map Value.argumentText ∧
    (∀ item ∈ items, item.Nested → item.argumentText = item.literal) ∧
    ∀ {family : String} {providers : List Provider} {c : Catalog} {i j : Journal},
      (Catalog.discover family providers).outcomeFrom i = (.ok c, j) →
      ∀ {name : String} {found : Catalog.Resolved},
        c.find name (.ofValue args) = .ok (some found) →
        found.args.values.Perm (items.map Value.argumentText) ∧
        (found.operation.TakesTexts → ∀ (absent : String → Value) (k : Journal),
          ∃ arguments, (found.operation.invoke absent (found.args.map .text)).outcomeFrom k =
              (found.operation.build arguments).outcomeFrom k ∧
            ∀ item ∈ items, ∃ name, (name, .text item.argumentText) ∈ arguments) := by
  have htexts := hitems.configured
  refine ⟨fun s => bind_map_eq_ok_iff hargs, htexts,
    fun item _ => Value.argumentText_of_nested, fun hc _ found hf => ⟨?_, ?_⟩⟩
  · rw [← htexts]
    exact (Catalog.supplies_of_find hc hf).2.2
  · intro hop absent k
    obtain ⟨arguments, hrun, hshown⟩ := Catalog.invoke_texts hc hf hop absent k
    refine ⟨arguments, hrun, fun item hitem => hshown _ ?_⟩
    rw [htexts]
    exact List.mem_map_of_mem hitem

namespace Sample

def labelling : Provider :=
  ⟨⟨⟨1, "Labelling", some "labelling", some "filter", OrderedMap.ofList [("label", .method
      ⟨[parameter "label"], [⟨.null, {}⟩], false,
        fun _ args => do
          Compile.note (.called "label" args)
          return .value .null, none⟩)]⟩,
    ProviderClass.root.layers⟩, .empty⟩

def methods : Value := .list [.text "GET", .text "POST"]

def labelData (args : Value) : List (String × Value) := [("name", .text "Label"), ("args", args)]

theorem bind_shows_items_methods : ∃ s c j found arguments,
    OperationSpec.bind "FilterProperties" (.map (labelData (.list [methods]))) = .ok s ∧
    (Catalog.discover "filter" [labelling]).outcomeFrom [] = (.ok c, j) ∧
    c.find s.name s.args = .ok (some found) ∧
    (found.operation.build arguments).outcomeFrom [] = (.ok (.value .null),
      [.called "label" [("label", .text methods.literal)]]) ∧
    ∃ name, (name, .text methods.literal) ∈ arguments := by
  have h : ∃ c j found, (Catalog.discover "filter" [labelling]).outcomeFrom [] = (.ok c, j) ∧
      c.find "Label" (.ofValue (.list [methods])) = .ok (some found) ∧
      found.operation.parameters = [⟨"label", .text, false⟩] ∧
      (found.operation.invoke (fun _ => .null) (found.args.map .text)).outcomeFrom [] =
        (.ok (.value .null), [.called "label" [("label", .text methods.literal)]]) :=
    ⟨_, _, _, rfl, rfl, rfl, rfl⟩
  obtain ⟨c, j, found, hc, hf, hparameters, hrun⟩ := h
  have htexts : found.operation.TakesTexts := by
    rw [Operation.TakesTexts, hparameters, List.forall_mem_singleton]
    exact fun _ _ => rfl
  have hargs : (labelData (.list [methods])).lookup "args" = some (.list [methods]) := rfl
  obtain ⟨hbind, -, hliteral, hfound⟩ :=
    OperationSpec.bind_shows_items hargs (.listed [methods]) "FilterProperties"
  obtain ⟨-, hcalled⟩ := hfound hc hf
  obtain ⟨arguments, hcall, hshown⟩ := hcalled htexts (fun _ => .null) []
  have hmethods := List.mem_singleton.2 (rfl : methods = methods)
  refine ⟨⟨"Label", .ofValue (.list [methods])⟩, c, j, found, arguments, ?_, hc, hf,
    hcall.symm.trans hrun, ?_⟩
  · exact (hbind _).2 ⟨"Label", rfl, by decide, rfl⟩
  · rw [← hliteral methods hmethods trivial]
    exact hshown methods hmethods

theorem bind_keeps_methods :
    methods.Nested ∧ (Value.map [("methods", methods)]).Items [methods] ∧
    OperationSpec.bind "PredicateProperties"
      (.map [("name", .text "Method"), ("args", .map [("methods", methods)])]) =
        .ok ⟨"Method", .keyed (OrderedMap.ofList [("methods", "['GET', 'POST']")])⟩ :=
  ⟨trivial, .keyed (List.nodup_singleton _), rfl⟩

end Sample

end HttpGateway
