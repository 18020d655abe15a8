import HttpGateway.Proofs.Operation.Lookup
import HttpGateway.Proofs.Text.Lower

/-!
The views of a catalog. Whether a name is in it, what is under the name and the candidates for it are
looked up in normal form, the form that the names of operations have. They agree, since a name in
normal form is in the normal form of its own: what the first character becomes in lower case begins
with a character that is in lower case.
-/

namespace HttpGateway

namespace Text

namespace CaseRun

def apart (r q : CaseRun) : Bool :=
  Nat.blt q.last r.image || Nat.blt (r.image + (r.last - r.first)) q.first ||
    ((r.stride == 2 || r.first == r.last) && q.stride == 2 && (r.image + q.first) % 2 == 1)

theorem not_covers_send {r q : CaseRun} {n : Nat} (h : r.apart q) (hn : r.covers n) :
    ¬ q.covers (r.send n) := by
  simp only [apart, Bool.or_eq_true, Bool.and_eq_true, Nat.blt_eq, beq_iff_eq] at h
  rw [covers_iff] at hn ⊢
  rw [send]
  rcases h with (h | h) | ⟨⟨hr | hr, hq⟩, h⟩
  · omega
  · omega
  · rw [hr] at hn
    rw [hq]
    omega
  · rw [hq]
    omega

end CaseRun

theorem lowerRuns_apart : lowerRuns.all fun r => lowerRuns.all r.apart := by
  decide +kernel

theorem lowerChar_of_val {c : Char} {n : Nat} (hc : c.toNat = n) (hn : n ≠ 304)
    (hself : counterpart lowerRuns n = n) : lowerChar c = [c] := by
  have hval : c.val ≠ 304 := by
    intro hval
    apply hn
    rw [← hc, Char.toNat, hval]
    rfl
  rw [lowerChar, if_neg hval, hc, hself, ← hc, Char.ofNat_toNat]

theorem exists_lowerChar_eq_cons (c : Char) :
    ∃ d ds, lowerChar c = d :: ds ∧ lowerChar d = [d] := by
  by_cases hc : c.val = 304
  · refine ⟨'i', [Char.ofNat 775], ?_, ?_⟩
    · rw [lowerChar, if_pos hc]
    · decide +kernel
  · have hlower : lowerChar c = [Char.ofNat (counterpart lowerRuns c.toNat)] := by
      rw [lowerChar, if_neg hc]
    refine ⟨_, [], hlower, ?_⟩
    by_cases hcovered : ∀ q ∈ lowerRuns, ¬ q.covers c.toNat
    · have hself := counterpart_of_not_covers hcovered
      rw [hself, Char.ofNat_toNat]
      rwa [hself, Char.ofNat_toNat] at hlower
    · obtain ⟨r, hr, hn, hsend⟩ := counterpart_of_covers hcovered
      have hapart := List.all_eq_true.1 (List.all_eq_true.1 lowerRuns_apart r hr)
      obtain ⟨hvalid, hne⟩ :=
        CaseRun.send_of_sendsLetters (List.all_eq_true.1 lowerRuns_sendsLetters r hr) hn
      rw [hsend]
      apply lowerChar_of_val (toNat_ofNat hvalid) hne
      apply counterpart_of_not_covers
      intro q hq
      exact CaseRun.not_covers_send (hapart q hq) hn

end Text

@[simp]
theorem OperationName.normal_normal (name : String) : normal (normal name) = normal name := by
  rw [normal.eq_def name]
  cases name.toList with
  | nil => decide
  | cons c cs =>
    obtain ⟨d, ds, hc, hd⟩ := Text.exists_lowerChar_eq_cons c
    simp only [hc, List.cons_append]
    rw [normal, String.toList_ofList]
    simp only [hd, List.singleton_append]

namespace OrderedMap

variable {α : Type} {m : OrderedMap α} {k : String}

theorem contains_iff : m.contains k ↔ k ∈ m.keys := by
  simp [contains, keys]

end OrderedMap

namespace Catalog

variable {c : Catalog} {ops : List Operation} {name : String}

theorem Groups.candidates_ne_nil_iff (h : c.Groups ops) :
    c.candidates name ≠ [] ↔ OperationName.normal name ∈ c.names := by
  rw [h.candidates, h.mem_names, List.mem_map, ne_eq, List.filter_eq_nil_iff]
  simp

theorem Groups.get?_eq_some_iff (h : c.Groups ops) {found : List Operation} :
    c.get? name = some found ↔
      OperationName.normal name ∈ c.names ∧ found = c.candidates name := by
  rw [Catalog.candidates]
  constructor
  · intro hfound
    have hsome := Option.isSome_iff_exists.2 ⟨found, hfound⟩
    exact ⟨OrderedMap.get?_isSome_iff.1 hsome, by rw [hfound, Option.getD_some]⟩
  · rintro ⟨hname, rfl⟩
    rw [get?, h.group _ hname, Option.getD_some]

theorem normal_name_of_discover {family : String} {providers : List Provider} {op : Operation}
    (hop : op ∈ Finding.offers (findings family providers)) :
    OperationName.normal op.name = op.name := by
  obtain ⟨p, -, hp⟩ := List.mem_flatMap.1 (Finding.mem_offers.1 hop)
  obtain ⟨-, -, -, found, m, -, marker, -, title, htitle, rfl⟩ :=
    Provider.exists_method_of_offered hp
  change OperationName.normal title = title
  rw [Marker.title?] at htitle
  split at htitle
  · split at htitle
    · cases htitle
      exact OperationName.normal_normal _
    · cases htitle
  · cases htitle
    exact OperationName.normal_normal _

/-- The normal form of a name decides in all views alike: what is under it are the operations of that
name in the order in which discovery came upon them, and the names of the catalog are the normal
forms under which there are any. -/
theorem views_agree {family : String} {providers : List Provider} {c : Catalog} {i j : Journal}
    (hc : (discover family providers).outcomeFrom i = (.ok c, j)) :
    (∀ name, OperationName.normal (OperationName.normal name) = OperationName.normal name) ∧
    (∀ name, (c.contains name ↔ (c.get? name).isSome) ∧
      (c.contains name ↔ c.candidates name ≠ []) ∧
      ∀ ops, c.get? name = some ops → c.candidates name = ops) ∧
    c.names.Nodup ∧ c.size = c.names.length ∧
    (∀ name, name ∈ c.names ↔
      ∃ op ∈ Finding.offers (findings family providers), OperationName.normal op.name = name) ∧
    (∀ name ∈ c.names, OperationName.normal name = name ∧ c.get? name =
      some ((Finding.offers (findings family providers)).filter (·.name = name))) ∧
    ∀ op ∈ Finding.offers (findings family providers),
      ∃! name, name ∈ c.names ∧ op ∈ c.candidates name := by
  have hgroups := (discovered_of_discover hc).of_ok.2
  have hnormal : ∀ name ∈ c.names, OperationName.normal name = name := by
    intro name hname
    obtain ⟨op, hop, rfl⟩ := List.mem_map.1 (hgroups.mem_names.1 hname)
    exact normal_name_of_discover hop
  refine ⟨OperationName.normal_normal, fun name => ⟨?_, ?_, fun ops hops => ?_⟩,
    c.operations.distinct, ?_, fun name => ?_, fun name hname => ⟨hnormal name hname, ?_⟩,
    fun op hop => ?_⟩
  · rw [contains, OrderedMap.contains_iff, get?, OrderedMap.get?_isSome_iff]
  · rw [contains, OrderedMap.contains_iff, hgroups.candidates_ne_nil_iff]
    rfl
  · exact (hgroups.get?_eq_some_iff.1 hops).2.symm
  · rw [size, OrderedMap.size, names, OrderedMap.keys, List.length_map]
  · rw [hgroups.mem_names, List.mem_map]
    constructor
    · rintro ⟨op, hop, rfl⟩
      exact ⟨op, hop, normal_name_of_discover hop⟩
    · rintro ⟨op, hop, rfl⟩
      exact ⟨op, hop, (normal_name_of_discover hop).symm⟩
  · rw [get?, hnormal name hname, hgroups.group name hname]
  · have hself : op ∈ c.candidates op.name := by
      rw [hgroups.candidates, normal_name_of_discover hop]
      exact List.mem_filter.2 ⟨hop, decide_eq_true rfl⟩
    refine ⟨op.name, ⟨hgroups.mem_names.2 (List.mem_map_of_mem hop), hself⟩, ?_⟩
    rintro name ⟨hname, hcandidate⟩
    rw [hgroups.candidates, hnormal name hname] at hcandidate
    exact (of_decide_eq_true (List.mem_filter.1 hcandidate).2).symm

end Catalog

namespace Sample

def dotted : Provider :=
  ⟨⟨⟨1, "Dotted", some "dotted", some "filter", OrderedMap.ofList [("mark_all", .method
      ⟨[parameter "value"], [⟨.text "\u0130zmir", {}⟩, ⟨.null, {}⟩], false,
        fun _ _ => return .value .null, none⟩)]⟩,
    ProviderClass.root.layers⟩, .empty⟩

theorem views_agree_dotted : ∃ c j,
    (Catalog.discover "filter" [dotted]).outcomeFrom [] = (.ok c, j) ∧
    c.names = ["i\u0307zmir", "markAll"] ∧ c.contains "\u0130zmir" ∧
    c.candidates "\u0130zmir" ≠ [] ∧ (c.get? "MarkAll").isSome ∧
    OperationName.normal "i\u0307zmir" = "i\u0307zmir" := by
  have h : ∃ c j, (Catalog.discover "filter" [dotted]).outcomeFrom [] = (.ok c, j) ∧
      c.names = ["i\u0307zmir", "markAll"] ∧ c.contains "\u0130zmir" ∧ c.contains "MarkAll" :=
    ⟨_, _, rfl, rfl, rfl, rfl⟩
  obtain ⟨c, j, hc, hnames, hdotted, hmark⟩ := h
  obtain ⟨-, hviews, -, -, -, hnormal, -⟩ := Catalog.views_agree hc
  refine ⟨c, j, hc, hnames, hdotted, ?_, ?_, ?_⟩
  · exact (hviews "\u0130zmir").2.1.1 hdotted
  · exact (hviews "MarkAll").1.1 hmark
  · apply (hnormal "i\u0307zmir" _).1
    rw [hnames]
    exact List.mem_cons_self

end Sample

end HttpGateway
