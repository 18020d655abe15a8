import HttpGateway.Proofs.Configuration.ShortForm
import HttpGateway.Proofs.Configuration.Supplying
import HttpGateway.Proofs.Number.Plain
import HttpGateway.Proofs.Text.Trimming

namespace HttpGateway

open HttpGateway.Text

structure Spaced where
  before : List Char
  number : Int
  after : List Char
  before_blank : ∀ c ∈ before, isBlank c
  after_blank : ∀ c ∈ after, isBlank c

namespace Spaced

def written (x : Spaced) : List Char := x.before ++ (Whole.text x.number).toList ++ x.after

def row (xs : List Spaced) : String := String.ofList (joinBy ',' (xs.map written))

def escapedRow (xs : List Spaced) : String :=
  "\\,".intercalate (xs.map fun x => String.ofList x.written)

theorem trimBy_written (x : Spaced) :
    trimBy isBlank x.written = (Whole.text x.number).toList := by
  rw [written, trimBy_between x.before_blank x.after_blank, Whole.trimBy_text]

theorem notMem_written {c : Char} (hblank : isBlank c = false) (hdigit : ¬ c.isDigit)
    (hminus : c ≠ '-') (x : Spaced) : c ∉ x.written := by
  intro hmem
  rw [written, List.mem_append, List.mem_append] at hmem
  rcases hmem with (hmem | hmem) | hmem
  · exact Bool.false_ne_true (hblank.symm.trans (x.before_blank c hmem))
  · exact Whole.notMem_text hdigit hminus x.number hmem
  · exact Bool.false_ne_true (hblank.symm.trans (x.after_blank c hmem))

theorem comma_notMem_written (x : Spaced) : ',' ∉ x.written :=
  x.notMem_written (by decide) (by decide) (by decide)

theorem escapedCommas_row (xs : List Spaced) : escapedCommas (row xs) = escapedRow xs := by
  have hcommas : ∀ p ∈ xs.map written, ',' ∉ p :=
    List.forall_mem_map.2 fun x _ => x.comma_notMem_written
  rw [← String.toList_inj, toList_escapedCommas, row, String.toList_ofList,
    escapeCommas_joinBy hcommas, escapedRow, String.toList_intercalate, List.map_map]
  simp [Function.comp_def]

theorem notMem_row {c : Char} (hblank : isBlank c = false) (hdigit : ¬ c.isDigit) (hminus : c ≠ '-')
    (hcomma : c ≠ ',') (xs : List Spaced) : c ∉ (row xs).toList := by
  rw [row, String.toList_ofList]
  intro hmem
  rcases mem_joinBy hmem with hc | ⟨p, hp, hc⟩
  · exact hcomma hc
  · obtain ⟨x, -, rfl⟩ := List.mem_map.1 hp
    exact x.notMem_written hblank hdigit hminus hc

end Spaced

namespace ParamType

inductive Keeps : ParamType → Value → Prop
  | int {n : Int} : n.natAbs < 10 ^ 4000 → Keeps .int (.int n)
  | bool (b : Bool) : Keeps .bool (.bool b)

theorem read?_int_text {n : Int} (h : n.natAbs < 10 ^ 4000) :
    read? .int (.text (Whole.text n)) = some (.int n) := by
  rw [read?, Value.toWhole?, Whole.read?_text (by decide) h, Option.map_some]

theorem Keeps.convert? {type : ParamType} {v : Value} (h : type.Keeps v) :
    type.convert? (.text v.argumentText) = some v := by
  cases h with
  | int hn => exact read?_int_text hn
  | bool b =>
    cases b with
    | false => rfl
    | true => rfl

theorem mapM_read?_int {ns : List Int} (h : ∀ n ∈ ns, n.natAbs < 10 ^ 4000) :
    (ns.map fun n => Value.text (Whole.text n)).mapM (read? .int) = some (ns.map .int) := by
  induction ns with
  | nil => rfl
  | cons n ns ih =>
    obtain ⟨hn, hns⟩ := List.forall_mem_cons.1 h
    rw [List.map_cons, List.mapM_cons, read?_int_text hn, ih hns]
    rfl

end ParamType

namespace Spaced

variable {xs : List Spaced}

theorem textPieces_strip_row (hne : xs ≠ []) : ParamType.textPieces (strip (row xs)) =
    .list ((xs.map number).map fun n => .text (Whole.text n)) := by
  have hslash : '\\' ∉ trimBy isBlank (row xs).toList := fun hmem =>
    notMem_row (by decide) (by decide) (by decide) (by decide) xs (mem_of_mem_trimBy hmem)
  have hpieces : commaPieces (trimBy isBlank (row xs).toList) =
      xs.map fun x => (Whole.text x.number).toList := by
    have hcut : splitAt ',' (joinBy ',' (xs.map written)) = xs.map written := by
      apply splitAt_joinBy (fun hnil => hne (List.map_eq_nil_iff.1 hnil))
      exact List.forall_mem_map.2 fun x _ => x.comma_notMem_written
    rw [commaPieces, hasEscapedComma_of_notMem hslash, if_neg Bool.false_ne_true,
      map_trimBy_splitAt_trimBy (by decide), row, String.toList_ofList, hcut, List.map_map]
    exact List.map_congr_left fun x _ => x.trimBy_written
  have hfull : ∀ p ∈ xs.map fun x => (Whole.text x.number).toList, p ≠ [] := by
    intro p hp hnil
    obtain ⟨x, -, hx⟩ := List.mem_map.1 hp
    exact Whole.text_ne_empty x.number (String.toList_eq_nil_iff.1 (hx.trans hnil))
  -- no number is an empty piece, so none is dropped
  rw [ParamType.textPieces, strip, String.toList_ofList, hpieces, List.filter_eq_self.2, List.map_map]
  · simp [Function.comp_def]
  · simpa using hfull

theorem convert?_strip_row (hne : xs ≠ []) (h : ∀ n ∈ xs.map number, n.natAbs < 10 ^ 4000) :
    (ParamType.listOf .int).convert? (.text (strip (row xs))) =
      some (.list ((xs.map number).map .int)) := by
  have hread : ParamType.read? (.listOf .int)
      (.list ((xs.map number).map fun n => .text (Whole.text n))) =
        some (.list ((xs.map number).map .int)) := by
    rw [ParamType.read?, Value.elements?, Option.bind_eq_bind, Option.bind_some,
      ParamType.mapM_read?_int h]
    rfl
  rwa [← textPieces_strip_row hne] at hread

theorem strip_row_ne_empty (hne : xs ≠ []) : strip (row xs) ≠ "" := by
  obtain ⟨x, rest, rfl⟩ := List.exists_cons_of_ne_nil hne
  rw [Ne, strip_eq_empty_iff, row, String.toList_ofList]
  intro hall
  -- the digits of the first number are not blank
  have htext : trimBy isBlank x.written = [] := by
    apply trimBy_eq_nil_iff.2
    exact fun c hc => hall c ((infix_joinBy List.mem_cons_self).mem hc)
  rw [trimBy_written] at htext
  exact Whole.text_ne_empty x.number (String.toList_eq_nil_iff.1 htext)

end Spaced

/-- A short form with a row of numbers among its arguments, in front of some texts and behind others.
No argument but the last one ends in a backslash, and none has the character that stands for a comma
while the short form is cut. -/
structure RowForm where
  name : String
  before : List String
  row : List Spaced
  after : List String
  named : strip name ≠ ""
  plain : '=' ∉ name.toList
  filled : row ≠ []
  small : ∀ n ∈ row.map Spaced.number, n.natAbs < 10 ^ 4000
  unmarked : ∀ x ∈ before ++ after, commaMark ∉ x.toList
  separate : ∀ x ∈ (before ++ Spaced.row row :: after).dropLast, x.toList.getLast? ≠ some '\\'

namespace RowForm

def args (f : RowForm) : List String := f.before ++ Spaced.row f.row :: f.after

def text (f : RowForm) : String :=
  f.name ++ "=" ++ ",".intercalate
    (f.before.map escapedCommas ++ Spaced.escapedRow f.row :: f.after.map escapedCommas)

theorem text_eq (f : RowForm) : f.text = f.name ++ "=" ++ commaList f.args := by
  rw [text, commaList, args, List.map_append, List.map_cons, Spaced.escapedCommas_row]

theorem commaMark_notMem_args (f : RowForm) : ∀ x ∈ f.args, commaMark ∉ x.toList := by
  intro x hx
  rcases List.mem_append.1 hx with hx | hx
  · exact f.unmarked x (List.mem_append_left _ hx)
  · rcases List.mem_cons.1 hx with rfl | hx
    · exact Spaced.notMem_row (by decide) (by decide) (by decide) (by decide) f.row
    · exact f.unmarked x (List.mem_append_right _ hx)

theorem strip_commaList_ne_empty (f : RowForm) : strip (commaList f.args) ≠ "" := by
  rw [Ne, strip_eq_empty_iff, toList_commaList]
  intro hall
  apply Spaced.strip_row_ne_empty f.filled
  apply strip_eq_empty_iff.2
  intro c hc
  apply hall c
  exact (infix_joinBy (by simp [args])).mem (subset_escapeCommas _ hc)

theorem bind_text (f : RowForm) (model : String) :
    OperationSpec.bind model (.text f.text) =
      .ok ⟨strip f.name, .positional (f.args.map strip)⟩ := by
  rw [OperationSpec.bind, text_eq, OperationSpec.ofText_cut f.plain,
    OperationSpec.bindName_eq_ok_iff.2 ⟨f.named, rfl⟩,
    OperationSpec.readArgs_eq_map_strip f.commaMark_notMem_args f.separate
      f.strip_commaList_ne_empty]
  rfl

theorem mem_zip {f : RowForm} {names : List String} {k : String}
    (h : names[f.before.length]? = some k) :
    (k, strip (Spaced.row f.row)) ∈ names.zip (f.args.map strip) := by
  apply List.mem_of_getElem? (i := f.before.length)
  rw [List.getElem?_zip_eq_some]
  exact ⟨h, by simp [args]⟩

end RowForm

/-- Numbers and conditions that are configured for parameters of their types reach them unchanged, by
their place as well as by name, and so does a row of numbers in a short form. -/
theorem OperationSpec.numbers_arrive {family : String} {providers : List Provider} {c : Catalog}
    {i j : Journal} (hc : (Catalog.discover family providers).outcomeFrom i = (.ok c, j))
    (model : String) :
    (∀ {es : List (String × Value)} {name : String} {args : Value},
      es.lookup "name" = some (.text name) → es.lookup "args" = some args → strip name ≠ "" →
      (∃ op ∈ c.candidates (strip name), op.Fits (.ofValue args)) →
      ∃ s found, bind model (.map es) = .ok s ∧ c.find s.name s.args = .ok (some found) ∧
        ∀ p ∈ found.operation.parameters, ∀ v,
          args.Supplies found.operation.parameterNames p.name v → p.type.Keeps v →
          found.Receives p v) ∧
    ∀ f : RowForm,
      (∃ op ∈ c.candidates (strip f.name), op.parameterNames.length = f.args.length) →
      ∃ s found, bind model (.text f.text) = .ok s ∧ c.find s.name s.args = .ok (some found) ∧
        ∀ p ∈ found.operation.parameters,
          found.operation.parameterNames[f.before.length]? = some p.name →
          p.type = .listOf .int → found.Receives p (.list ((f.row.map Spaced.number).map .int)) := by
  constructor
  · rintro es name args hname hargs hne ⟨op, hop, hfits⟩
    obtain ⟨found, hf⟩ := Catalog.exists_find_of_fits hc hop hfits
    refine ⟨⟨strip name, .ofValue args⟩, found, ?_, hf, fun p hp v hv hkeeps => ?_⟩
    · exact (bind_map_eq_ok_iff hargs).2 ⟨name, hname, hne, rfl⟩
    · exact Catalog.receives_of_convert hc hf hp (hv.get? hc hf) hkeeps.convert?
  · rintro f ⟨op, hop, hlength⟩
    have hraw := RawArgs.Positional.listed (f.args.map strip)
    have hfits : op.Fits (.positional (f.args.map strip)) :=
      .positional hraw (by rw [hlength, List.length_map])
    obtain ⟨found, hf⟩ := Catalog.exists_find_of_fits hc hop hfits
    refine ⟨_, found, f.bind_text model, hf, fun p hp hplace htype => ?_⟩
    have hget : found.args.get? p.name = some (strip (Spaced.row f.row)) := by
      apply (OrderedMap.mem_iff_lookup found.args.distinct).1
      rw [((Catalog.find_eq_some_iff hc).1 hf).entries_of_positional hraw]
      exact RowForm.mem_zip hplace
    apply Catalog.receives_of_convert hc hf hp hget
    rw [htype]
    exact Spaced.convert?_strip_row f.filled f.small

namespace Sample

def tallying : Provider :=
  ⟨⟨⟨1, "Tallying", some "tallying", some "filter", OrderedMap.ofList [("tally", .method
      ⟨[⟨"limit", .written .int, false, .ordinary⟩, ⟨"strict", .written .bool, false, .ordinary⟩,
          ⟨"ids", .written (.listOf .int), false, .ordinary⟩],
        [⟨.null, {}⟩], false,
        fun _ args => do
          Compile.note (.called "tally" args)
          return .value .null, none⟩)]⟩,
    ProviderClass.root.layers⟩, .empty⟩

def tallyItems : Value := .list [.int (-42), .bool false, .text "5"]

theorem isBlank_of_mem_space : ∀ c ∈ [' '], isBlank c := List.forall_mem_singleton.2 (by decide)

def tallyRow : List Spaced :=
  [⟨[], 1, [], List.forall_mem_nil _, List.forall_mem_nil _⟩,
    ⟨[' '], -2, [' '], isBlank_of_mem_space, isBlank_of_mem_space⟩,
    ⟨[' '], 30, [], isBlank_of_mem_space, List.forall_mem_nil _⟩]

theorem natAbs_lt_pow {n : Int} {d e : Nat} (h : n.natAbs < 10 ^ d) (hde : d ≤ e) :
    n.natAbs < 10 ^ e :=
  Nat.lt_of_lt_of_le h (Nat.pow_le_pow_right (by decide) hde)

theorem small_tallyRow : ∀ n ∈ tallyRow.map Spaced.number, n.natAbs < 10 ^ 4000 := by
  have hall : ∀ n ∈ tallyRow.map Spaced.number, n.natAbs < 10 ^ 2 := by decide
  exact fun n hn => natAbs_lt_pow (hall n hn) (by decide)

def tallyForm : RowForm :=
  ⟨" Tally ", ["7", "true"], tallyRow, [], by decide, by decide, by decide, small_tallyRow,
    by decide, by decide⟩

def tallyParameters : List Parameter :=
  [⟨"limit", .int, false⟩, ⟨"strict", .bool, false⟩, ⟨"ids", .listOf .int, false⟩]

def tallyData : List (String × Value) := [("name", .text "Tally"), ("args", tallyItems)]

def tallyCall : List (String × Value) :=
  [("limit", .int 7), ("strict", .bool true), ("ids", .list [.int 1, .int (-2), .int 30])]

theorem find_tally : ∃ c j listed formed,
    (Catalog.discover "filter" [tallying]).outcomeFrom [] = (.ok c, j) ∧
    c.candidates "Tally" = [listed.operation] ∧ listed.operation.parameters = tallyParameters ∧
    c.find "Tally" (.ofValue tallyItems) = .ok (some listed) ∧
    c.find "Tally" (.positional ["7", "true", "1, -2 , 30"]) = .ok (some formed) ∧
    formed.operation = listed.operation ∧
    (formed.operation.invoke (fun _ => .null) (formed.args.map .text)).outcomeFrom [] =
      (.ok (.value .null), [.called "tally" tallyCall]) :=
  ⟨_, _, _, _, rfl, rfl, rfl, rfl, rfl, rfl, rfl⟩

theorem numbers_arrive_tally : ∃ c j s t listed formed,
    (Catalog.discover "filter" [tallying]).outcomeFrom [] = (.ok c, j) ∧
    OperationSpec.bind "FilterProperties" (.map tallyData) = .ok s ∧
    c.find s.name s.args = .ok (some listed) ∧
    listed.Receives ⟨"limit", .int, false⟩ (.int (-42)) ∧
    listed.Receives ⟨"strict", .bool, false⟩ (.bool false) ∧
    OperationSpec.bind "FilterProperties" (.text " Tally =7,true,1\\, -2 \\, 30") = .ok t ∧
    c.find t.name t.args = .ok (some formed) ∧
    formed.Receives ⟨"ids", .listOf .int, false⟩ (.list [.int 1, .int (-2), .int 30]) ∧
    (formed.operation.invoke (fun _ => .null) (formed.args.map .text)).outcomeFrom [] =
      (.ok (.value .null), [.called "tally" tallyCall]) := by
  obtain ⟨c, j, listed, formed, hc, hcandidates, hparameters, hlisted, hformed, hsame, hrun⟩ :=
    find_tally
  have hnames : listed.operation.parameterNames = ["limit", "strict", "ids"] := by
    rw [Operation.parameterNames, hparameters]
    rfl
  have hop : listed.operation ∈ c.candidates "Tally" := by
    rw [hcandidates]
    exact List.mem_singleton_self _
  have hname : tallyData.lookup "name" = some (.text "Tally") := rfl
  have hargs : tallyData.lookup "args" = some tallyItems := rfl
  have hfits : listed.operation.Fits (.ofValue tallyItems) :=
    .positional (.listed _) (by rw [hnames]; rfl)
  obtain ⟨hitems, hforms⟩ := OperationSpec.numbers_arrive hc "FilterProperties"
  obtain ⟨s, found, hs, hf, hitem⟩ := hitems hname hargs (by decide) ⟨_, hop, hfits⟩
  obtain ⟨t, found', ht, hf', hrow⟩ := hforms tallyForm ⟨_, hop, by rw [hnames]; rfl⟩
  have htext : tallyForm.text = " Tally =7,true,1\\, -2 \\, 30" := by decide
  rw [htext] at ht
  have hs' : OperationSpec.bind "FilterProperties" (.map tallyData) =
      .ok ⟨"Tally", .ofValue tallyItems⟩ := rfl
  have ht' : OperationSpec.bind "FilterProperties" (.text " Tally =7,true,1\\, -2 \\, 30") =
      .ok ⟨"Tally", .positional ["7", "true", "1, -2 , 30"]⟩ := rfl
  cases hs.symm.trans hs'
  cases ht.symm.trans ht'
  cases hf.symm.trans hlisted
  cases hf'.symm.trans hformed
  rw [hparameters, hnames] at hitem
  rw [hsame, hparameters, hnames] at hrow
  have hlimit : (-42 : Int).natAbs < 10 ^ 4000 := natAbs_lt_pow (d := 2) (by decide) (by decide)
  refine ⟨c, j, _, _, listed, formed, hc, hs, hlisted, ?_, ?_, ht, hformed, ?_, hrun⟩
  · exact hitem _ List.mem_cons_self _ (.listed List.mem_cons_self) (.int hlimit)
  · exact hitem _ (.tail _ List.mem_cons_self) _ (.listed (.tail _ List.mem_cons_self)) (.bool false)
  · exact hrow _ (.tail _ (.tail _ List.mem_cons_self)) rfl rfl

end Sample

end HttpGateway
