import HttpGateway.Proofs.OrderedMap
import HttpGateway.Provider.Discovery

namespace HttpGateway

/-- What discovery comes upon: something that is no provider, a mark whose name is no text, an
operation that is left out, or one that is offered. -/
inductive Finding where
  | stranger (className : String)
  | misnamed (name : Value)
  | skipped (name provider reason : String)
  | offered (op : Operation)

theorem Formal.refusal?_eq_none_iff {f : Formal} :
    f.refusal? = none ↔ f.passing = .ordinary ∨ f.passing = .keywordOnly := by
  rw [refusal?, Option.map_eq_none_iff]
  cases f.passing <;> simp [Passing.unsupported?]

namespace Method

theorem nodup_names_signature (m : Method) : (m.signature.map Formal.name).Nodup := by
  have hkeys : m.signature.map Formal.name =
      (OrderedMap.ofList ((receiver :: m.formals).map fun f => (f.name, f))).keys := by
    rw [signature, OrderedMap.values, List.map_map]
    refine List.map_congr_left fun e he => ?_
    obtain ⟨f, -, rfl⟩ := List.mem_map.1 (OrderedMap.mem_of_mem_ofList he)
    rfl
  rw [hkeys]
  exact OrderedMap.distinct _

def Supported (m : Method) : Prop :=
  (∀ f ∈ m.signature, f.isUndefined = false) ∧
    ∀ f ∈ m.signature.drop 1, f.passing = .ordinary ∨ f.passing = .keywordOnly

instance (m : Method) : Decidable m.Supported := inferInstanceAs (Decidable (_ ∧ _))

def objection (m : Method) : String :=
  if m.signature.any Formal.isUndefined then "name 'Undefined' is not defined"
  else ((m.signature.drop 1).findSome? Formal.refusal?).getD ""

theorem parameters_eq (m : Method) :
    m.parameters = if m.Supported then .ok ((m.signature.drop 1).map Formal.parameter)
      else .error m.objection := by
  rw [parameters, objection]
  by_cases hu : ∀ f ∈ m.signature, f.isUndefined = false
  · have hany : m.signature.any Formal.isUndefined = false := by
      rw [List.any_eq_false]
      intro f hf
      rw [hu f hf]
      exact Bool.false_ne_true
    cases hr : (m.signature.drop 1).findSome? Formal.refusal? with
    | none =>
      have hs : m.Supported := by
        refine ⟨hu, fun f hf => ?_⟩
        exact Formal.refusal?_eq_none_iff.1 (List.findSome?_eq_none_iff.1 hr f hf)
      simp [hany, hs]
    | some reason =>
      obtain ⟨f, hf, hreason⟩ := List.exists_of_findSome?_eq_some hr
      have hs : ¬ m.Supported := by
        intro h
        rw [Formal.refusal?_eq_none_iff.2 (h.2 f hf)] at hreason
        cases hreason
      simp [hany, hs]
  · have hany : m.signature.any Formal.isUndefined = true := by
      rw [List.any_eq_true]
      simpa using hu
    have hs : ¬ m.Supported := fun h => hu h.1
    simp [hany, hs]

end Method

namespace Marker

def title? (marker : Marker) (method : String) : Option String :=
  if marker.name.holds then
    match marker.name with
    | .text name => some (OperationName.normal name)
    | _ => none
  else some (OperationName.normal (OperationName.camel method))

theorem operationName_eq (marker : Marker) (method : String) :
    marker.operationName method = match marker.title? method with
      | some name => .ok name
      | none => .error (.notAName marker.name) := by
  unfold operationName title?
  cases h : marker.name.holds with
  | false => rfl
  | true => cases hn : marker.name <;> rfl

def finding (marker : Marker) (p : Provider) (found : String) (m : Method) : Finding :=
  match marker.title? (m.name found) with
  | none => .misnamed marker.name
  | some name =>
    if m.Supported then
      .offered ⟨name, p.code, (m.signature.drop 1).map Formal.parameter, marker.metadata,
        m.build p.outlet⟩
    else .skipped name p.code m.objection

theorem eq_of_finding {marker : Marker} {p : Provider} {found : String} {m : Method}
    {op : Operation} (h : marker.finding p found m = .offered op) :
    ∃ name, marker.title? (m.name found) = some name ∧
      op = p.operation name m marker ((m.signature.drop 1).map Formal.parameter) := by
  rw [finding] at h
  cases ht : marker.title? (m.name found) with
  | none =>
    rw [ht] at h
    cases h
  | some name =>
    by_cases hs : m.Supported
    · simp only [ht, if_pos hs] at h
      cases h
      exact ⟨name, rfl, rfl⟩
    · simp only [ht, if_neg hs] at h
      cases h

end Marker

def methodsIn (es : List (String × Member)) : List (String × Method) :=
  es.filterMap fun
    | (found, .method m) => some (found, m)
    | _ => none

theorem mem_keys_of_mem_methodsIn {es : List (String × Member)} {e : String × Method}
    (h : e ∈ methodsIn es) : e.1 ∈ es.map Prod.fst := by
  obtain ⟨⟨found, member⟩, hm, he⟩ := List.mem_filterMap.1 h
  cases member with
  | method m =>
    cases he
    exact List.mem_map.2 ⟨_, hm, rfl⟩
  | detached => cases he
  | constant => cases he

def Layer.methods (l : Layer) : List (String × Method) := methodsIn l.members.entries

namespace ProviderClass

/-- The methods of layers without those that one of the layers before hides: one hides all methods
under the attributes of its own. -/
def unhidden : (before : List Layer) → List Layer → List (String × Method)
  | _, [] => []
  | before, l :: ls =>
    l.methods.filter (fun e => ∀ b ∈ before, e.1 ∉ b.methods.map Prod.fst) ++
      unhidden (before ++ [l]) ls

theorem visibleMethods_append (es rest : List (String × Member)) (seen : List String)
    (hes : (es.map Prod.fst).Nodup) :
    ∃ seen', (∀ k, k ∈ seen' ↔ k ∈ seen ∨ k ∈ (methodsIn es).map Prod.fst) ∧
      visibleMethods seen (es ++ rest) =
        (methodsIn es).filter (fun e => e.1 ∉ seen) ++ visibleMethods seen' rest := by
  induction es generalizing seen with
  | nil => exact ⟨seen, by simp [methodsIn], rfl⟩
  | cons e es ih =>
    obtain ⟨found, member⟩ := e
    rw [List.map_cons, List.nodup_cons] at hes
    cases member with
    | detached m => exact ih seen hes.2
    | constant => exact ih seen hes.2
    | method m =>
      have hm : methodsIn ((found, .method m) :: es) = (found, m) :: methodsIn es := rfl
      by_cases hf : found ∈ seen
      · obtain ⟨seen', hs, hv⟩ := ih seen hes.2
        refine ⟨seen', fun k => ?_, ?_⟩
        · rw [hs, hm, List.map_cons, List.mem_cons]
          constructor
          · exact fun h => h.imp_right .inr
          · rintro (h | rfl | h)
            · exact .inl h
            · exact .inl hf
            · exact .inr h
        · rw [hm, List.filter_cons_of_neg (by simpa using hf), List.cons_append, visibleMethods,
            if_pos (List.contains_iff_mem.2 hf), hv]
      · obtain ⟨seen', hs, hv⟩ := ih (found :: seen) hes.2
        refine ⟨seen', fun k => ?_, ?_⟩
        · rw [hs, hm, List.map_cons, List.mem_cons, List.mem_cons, or_comm (a := k = found)]
          exact or_assoc
        · have hfilter : (methodsIn es).filter (fun e => e.1 ∉ found :: seen) =
              (methodsIn es).filter (fun e => e.1 ∉ seen) := by
            refine List.filter_congr fun e he => ?_
            have hne : e.1 ≠ found := by
              rintro rfl
              exact hes.1 (mem_keys_of_mem_methodsIn he)
            simp [hne]
          rw [hm, List.filter_cons_of_pos (by simpa using hf), List.cons_append, List.cons_append,
            visibleMethods, if_neg (by simpa using hf), hv, hfilter]

theorem visibleMethods_eq_unhidden (ls before : List Layer) (seen : List String)
    (h : ∀ k, k ∈ seen ↔ ∃ b ∈ before, k ∈ b.methods.map Prod.fst) :
    visibleMethods seen (ls.flatMap (·.members.entries)) = unhidden before ls := by
  induction ls generalizing before seen with
  | nil => rw [List.flatMap_nil, visibleMethods, unhidden]
  | cons l ls ih =>
    obtain ⟨seen', hs, hv⟩ := visibleMethods_append l.members.entries
      (ls.flatMap (·.members.entries)) seen l.members.distinct
    have hseen' : ∀ k, k ∈ seen' ↔ ∃ b ∈ before ++ [l], k ∈ b.methods.map Prod.fst := by
      intro k
      rw [hs, h]
      simp [Layer.methods, or_and_right, exists_or]
    rw [List.flatMap_cons, hv, unhidden, ih (before ++ [l]) seen' hseen']
    congr 1
    refine List.filter_congr fun e _ => ?_
    rw [decide_eq_decide, h]
    constructor
    · intro hn b hb hk
      exact hn ⟨b, hb, hk⟩
    · rintro hn ⟨b, hb, hk⟩
      exact hn b hb hk

end ProviderClass

def Provider.findings (p : Provider) (family : String) : List Finding :=
  if !p.kind.isProvider then [.stranger p.kind.name]
  else if p.family = family then
    (ProviderClass.unhidden [] p.kind.layers).flatMap fun e =>
      e.2.markers.map fun marker => marker.finding p e.1 e.2
  else []

theorem ProviderClass.mem_layer_of_mem_unhidden {ls before : List Layer} {e : String × Method}
    (h : e ∈ unhidden before ls) : ∃ l ∈ ls, (e.1, .method e.2) ∈ l.members.entries := by
  induction ls generalizing before with
  | nil => cases h
  | cons l ls ih =>
    rw [unhidden, List.mem_append] at h
    rcases h with h | h
    · have hm : e ∈ l.methods := (List.mem_filter.1 h).1
      obtain ⟨⟨found, member⟩, hmem, he⟩ := List.mem_filterMap.1 hm
      cases member with
      | method m =>
        cases he
        exact ⟨l, List.mem_cons_self, hmem⟩
      | detached => cases he
      | constant => cases he
    · obtain ⟨l', hl', he⟩ := ih h
      exact ⟨l', List.mem_cons_of_mem l hl', he⟩

theorem Provider.exists_method_of_offered {p : Provider} {family : String} {op : Operation}
    (h : .offered op ∈ p.findings family) :
    p.family = family ∧ ∃ l ∈ p.kind.layers, ∃ found m, (found, .method m) ∈ l.members.entries ∧
      ∃ marker ∈ m.markers, ∃ name, marker.title? (m.name found) = some name ∧
        op = p.operation name m marker ((m.signature.drop 1).map Formal.parameter) := by
  rw [findings] at h
  split at h
  · cases List.mem_singleton.1 h
  · split at h
    · rename_i hfamily
      obtain ⟨e, he, hoffered⟩ := List.mem_flatMap.1 h
      obtain ⟨marker, hmarker, hm⟩ := List.mem_map.1 hoffered
      obtain ⟨l, hl, hmember⟩ := ProviderClass.mem_layer_of_mem_unhidden he
      exact ⟨hfamily, l, hl, e.1, e.2, hmember, marker, hmarker, Marker.eq_of_finding hm⟩
    · cases h

theorem Provider.nodup_names {p : Provider} {family : String} {op : Operation}
    (h : .offered op ∈ p.findings family) : (op.parameters.map Parameter.name).Nodup := by
  obtain ⟨-, -, -, -, m, -, marker, -, name, -, rfl⟩ := Provider.exists_method_of_offered h
  have hnames : (p.operation name m marker ((m.signature.drop 1).map Formal.parameter)).parameters =
      (m.signature.drop 1).map Formal.parameter := rfl
  rw [hnames, List.map_map]
  exact m.nodup_names_signature.sublist ((List.drop_sublist 1 _).map _)

theorem Provider.nodup_parameterNames {p : Provider} {family : String} {op : Operation}
    (h : .offered op ∈ p.findings family) : op.parameterNames.Nodup :=
  (Provider.nodup_names h).sublist (List.filter_sublist.map _)

end HttpGateway
