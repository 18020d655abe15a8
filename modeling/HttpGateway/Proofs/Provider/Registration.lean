import HttpGateway.Provider.Registry
import HttpGateway.Proofs.OrderedMap

/-!
Registration of classes of providers, call after call. The calls that are accepted make a log of what
they bind; the registry has the codes of the log in the order in which they first came, and under
each of them the class that it was bound to last. Classes are the same if their numbers are.
-/

namespace HttpGateway

structure ProviderClass.Registrable (c : ProviderClass) : Prop where
  provider : c.isProvider
  coded : c.code ≠ ""
  known : c.family ∈ Failure.families

structure Registration where
  kind : ProviderClass
  name : Option String

def Registration.code (r : Registration) : String :=
  match r.name with
  | some name => if name = "" then r.kind.code else name
  | none => r.kind.code

namespace Registry

def called (g : Registry) (r : Registration) : Registry :=
  (g.register r.kind r.name).toOption.getD g

def history (rs : List Registration) : Registry := rs.foldl called {}

structure Accepts (g : Registry) (r : Registration) : Prop where
  registrable : r.kind.Registrable
  same : r.name = none → ∀ d, g.get? r.code = some d → d.serial = r.kind.serial

variable {g : Registry} {r : Registration} {rs : List Registration}

theorem register_of_accepts (h : g.Accepts r) :
    g.register r.kind r.name = .ok (g.insert r.code r.kind) := by
  obtain ⟨⟨hprovider, hcoded, hknown⟩, hsame⟩ := h
  obtain ⟨c, name⟩ := r
  cases name with
  | some name => simp [register, Registration.code, hprovider, hcoded, hknown]
  | none =>
    have htaken : (g.get? c.code).any (·.serial != c.serial) = false := by
      rw [Option.any_eq_false]
      intro d hd
      simpa using hsame rfl d hd
    simp [register, Registration.code, hprovider, hcoded, hknown, htaken]

theorem accepts_of_register {g' : Registry} (h : g.register r.kind r.name = .ok g') :
    g.Accepts r := by
  rw [register.eq_def] at h
  split at h
  · cases h
  · rename_i hprovider
    split at h
    · cases h
    · rename_i hcoded
      split at h
      · cases h
      · rename_i hfamily
        refine ⟨⟨by simpa using hprovider, hcoded, by simpa using hfamily⟩, fun hname d hd => ?_⟩
        rw [Registration.code, hname] at hd
        rw [hname] at h
        by_contra hserial
        simp [hd, hserial] at h

theorem exists_register_iff : (∃ g', g.register r.kind r.name = .ok g') ↔ g.Accepts r := by
  constructor
  · rintro ⟨g', h⟩
    exact accepts_of_register h
  · exact fun h => ⟨_, register_of_accepts h⟩

theorem accepts_unnamed_iff {c : ProviderClass} :
    g.Accepts ⟨c, none⟩ ↔
      c.Registrable ∧ ∀ d, g.get? c.code = some d → d.serial = c.serial := by
  constructor
  · exact fun h => ⟨h.registrable, h.same rfl⟩
  · exact fun h => ⟨h.1, fun _ => h.2⟩

theorem accepts_named_iff {c : ProviderClass} {name : String} :
    g.Accepts ⟨c, some name⟩ ↔ c.Registrable := by
  constructor
  · exact fun h => h.registrable
  · exact fun h => ⟨h, nofun⟩

theorem called_of_accepts (h : g.Accepts r) : g.called r = g.insert r.code r.kind := by
  rw [called, register_of_accepts h]
  rfl

theorem called_of_error {f : Failure} (h : g.register r.kind r.name = .error f) :
    g.called r = g := by
  rw [called, h]
  rfl

theorem called_of_not_accepts (h : ¬ g.Accepts r) : g.called r = g := by
  cases hr : g.register r.kind r.name with
  | ok g' => exact absurd (accepts_of_register hr) h
  | error f => exact called_of_error hr

theorem history_concat (rs : List Registration) (r : Registration) :
    history (rs ++ [r]) = (history rs).called r := by
  rw [history, List.foldl_append]
  rfl

def LastBound (log : List (String × ProviderClass)) (code : String) (c : ProviderClass) : Prop :=
  ∃ before after, log = before ++ (code, c) :: after ∧ code ∉ after.map Prod.fst

structure Accepted (log : List (String × ProviderClass)) (r : Registration) : Prop where
  registrable : r.kind.Registrable
  same : r.name = none → ∀ d, LastBound log r.code d → d.serial = r.kind.serial

inductive Logged : List Registration → List (String × ProviderClass) → Prop
  | nil : Logged [] []
  | bound {rs log r} : Logged rs log → Accepted log r →
      Logged (rs ++ [r]) (log ++ [(r.code, r.kind)])
  | refused {rs log r} : Logged rs log → ¬ Accepted log r → Logged (rs ++ [r]) log

variable {log : List (String × ProviderClass)} {code : String} {c : ProviderClass}

theorem get?_ofList_eq_some_iff :
    (OrderedMap.ofList log).get? code = some c ↔ LastBound log code c := by
  rw [OrderedMap.get?_ofList, List.lookup_eq_some_iff]
  constructor
  · rintro ⟨after, before, hlog, hafter⟩
    refine ⟨before.reverse, after.reverse, ?_, ?_⟩
    · simpa using congrArg List.reverse hlog
    · rintro hcode
      obtain ⟨e, he, rfl⟩ := List.mem_map.1 hcode
      simpa using hafter e (List.mem_reverse.1 he)
  · rintro ⟨before, after, rfl, hafter⟩
    refine ⟨after.reverse, before.reverse, by simp, fun e he => ?_⟩
    have hne : code ≠ e.1 := by
      rintro rfl
      exact hafter (List.mem_map_of_mem (List.mem_reverse.1 he))
    simpa using hne

theorem accepts_ofList_iff : Accepts (OrderedMap.ofList log) r ↔ Accepted log r := by
  constructor
  · rintro ⟨hvalid, hsame⟩
    exact ⟨hvalid, fun hname d hd => hsame hname d (get?_ofList_eq_some_iff.2 hd)⟩
  · rintro ⟨hvalid, hsame⟩
    exact ⟨hvalid, fun hname d hd => hsame hname d (get?_ofList_eq_some_iff.1 hd)⟩

theorem exists_logged (rs : List Registration) :
    ∃ log, Logged rs log ∧ history rs = OrderedMap.ofList log := by
  induction rs using List.reverseRecOn with
  | nil => exact ⟨[], .nil, rfl⟩
  | append_singleton rs r ih =>
    obtain ⟨log, hlogged, hhistory⟩ := ih
    rw [history_concat, hhistory]
    by_cases hr : Accepted log r
    · refine ⟨_, .bound hlogged hr, ?_⟩
      rw [called_of_accepts (accepts_ofList_iff.2 hr), OrderedMap.ofList, OrderedMap.ofList,
        List.foldl_append]
      rfl
    · exact ⟨log, .refused hlogged hr, called_of_not_accepts (mt accepts_ofList_iff.1 hr)⟩

theorem Logged.registrable (h : Logged rs log) : ∀ e ∈ log, e.2.Registrable := by
  induction h with
  | nil => simp
  | bound _ hr ih =>
    apply List.forall_mem_append.2 ⟨ih, List.forall_mem_singleton.2 hr.registrable⟩
  | refused _ _ ih => exact ih

theorem registrable_of_mem_history {e : String × ProviderClass} (h : e ∈ (history rs).entries) :
    e.2.Registrable := by
  obtain ⟨log, hlogged, hhistory⟩ := exists_logged rs
  rw [hhistory] at h
  exact hlogged.registrable e (OrderedMap.mem_of_mem_ofList h)

theorem keys_prefix_called (g : Registry) (r : Registration) : g.keys <+: (g.called r).keys := by
  by_cases h : g.Accepts r
  · rw [called_of_accepts h, OrderedMap.keys_insert]
    split
    · exact List.prefix_refl _
    · exact List.prefix_append _ _
  · simp only [called_of_not_accepts h, List.prefix_refl]

inductive Provides (log : List (String × ProviderClass)) (overrides : OrderedMap Provider)
    (code : String) : Provider → Prop
  | given {p : Provider} : overrides.get? code = some p → Provides log overrides code p
  | made {d : ProviderClass} : overrides.get? code = none → LastBound log code d →
      Provides log overrides code ⟨d, .empty⟩

theorem provides_providers (log : List (String × ProviderClass))
    (overrides : OrderedMap Provider) :
    List.Forall₂ (Provides log overrides) (OrderedMap.ofList log).keys
      (providers (OrderedMap.ofList log) overrides) := by
  rw [OrderedMap.keys, providers, List.forall₂_map_left_iff, List.forall₂_map_right_iff,
    List.forall₂_same]
  rintro ⟨code, c⟩ he
  have hbound := (OrderedMap.mem_iff_lookup (OrderedMap.ofList log).distinct).1 he
  cases hgiven : overrides.get? code with
  | some p => exact .given hgiven
  | none => exact .made hgiven (get?_ofList_eq_some_iff.1 hbound)

theorem get?_called_unnamed {d : ProviderClass} (h : g.get? code = some d) :
    ∃ e, (g.called ⟨c, none⟩).get? code = some e ∧ e.serial = d.serial := by
  by_cases hc : g.Accepts ⟨c, none⟩
  · rw [called_of_accepts hc, OrderedMap.get?_insert]
    split
    · rename_i hcode
      rw [hcode] at h
      exact ⟨c, rfl, (hc.same rfl d h).symm⟩
    · exact ⟨d, h, rfl⟩
  · rw [called_of_not_accepts hc]
    exact ⟨d, h, rfl⟩

theorem get?_called_named {name : String} (hname : name ≠ "") (hcode : code ≠ name) :
    (g.called ⟨c, some name⟩).get? code = g.get? code := by
  by_cases hc : g.Accepts ⟨c, some name⟩
  · rw [called_of_accepts hc, OrderedMap.get?_insert, Registration.code]
    simp [hname, hcode]
  · rw [called_of_not_accepts hc]

/-- What a registry holds behind calls, what one more call does to it, and which providers it
makes. -/
theorem history_by_calls (rs : List Registration) :
    (∀ e ∈ (history rs).entries, e.2.Registrable) ∧
    (∀ r f, (history rs).register r.kind r.name = .error f →
      history (rs ++ [r]) = history rs) ∧
    (∀ c, ((∃ g, (history rs).register c none = .ok g) ↔
        c.Registrable ∧ ∀ d, (history rs).get? c.code = some d → d.serial = c.serial) ∧
      ∀ code d, (history rs).get? code = some d →
        ∃ e, (history (rs ++ [⟨c, none⟩])).get? code = some e ∧ e.serial = d.serial) ∧
    (∀ c name, name ≠ "" → ((∃ g, (history rs).register c (some name) = .ok g) ↔ c.Registrable) ∧
      (c.Registrable → (history (rs ++ [⟨c, some name⟩])).get? name = some c) ∧
      ∀ code, code ≠ name →
        (history (rs ++ [⟨c, some name⟩])).get? code = (history rs).get? code) ∧
    (∀ r, (history rs).keys <+: (history (rs ++ [r])).keys) ∧
    ∃ log, Logged rs log ∧ (history rs).keys = (log.map Prod.fst).eraseDups ∧
      ∀ overrides, List.Forall₂ (Provides log overrides) (history rs).keys
        ((history rs).providers overrides) := by
  simp only [history_concat]
  refine ⟨fun e => registrable_of_mem_history, fun r f => called_of_error,
    fun c => ⟨?_, fun code d => get?_called_unnamed⟩,
    fun c name hname => ⟨?_, fun hc => ?_, fun code => get?_called_named hname⟩,
    keys_prefix_called _, ?_⟩
  · exact (exists_register_iff (r := ⟨c, none⟩)).trans accepts_unnamed_iff
  · exact (exists_register_iff (r := ⟨c, some name⟩)).trans accepts_named_iff
  · rw [called_of_accepts (accepts_named_iff.2 hc), OrderedMap.get?_insert, Registration.code]
    simp [hname]
  · obtain ⟨log, hlogged, hhistory⟩ := exists_logged rs
    refine ⟨log, hlogged, ?_, fun overrides => ?_⟩
    · rw [hhistory, OrderedMap.keys_ofList]
    · rw [hhistory]
      exact provides_providers log overrides

end Registry

end HttpGateway
