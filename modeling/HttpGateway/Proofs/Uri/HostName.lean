import HttpGateway.Proofs.Outcome
import HttpGateway.Proofs.Text.Pieces
import HttpGateway.Proofs.Uri.NameChars
import HttpGateway.Proofs.Uri.Punycode

namespace HttpGateway.Uri

open HttpGateway.Text

section Labels

variable {label shown written : List Char}

def Proper (label : List Char) : Prop := labelFault? (label.map Char.toNat) = none

theorem isLabelCode_of_codeFault? {label before codes : List Nat}
    (h : codeFault? label before codes = none) : ∀ n ∈ codes, IsLabelCode n := by
  induction codes generalizing before with
  | nil => exact fun n hn => absurd hn List.not_mem_nil
  | cons n codes ih =>
    rw [codeFault?] at h
    split at h
    · rename_i hjoiner
      split at h
      · exact List.forall_mem_cons.2 ⟨.inr hjoiner, ih h⟩
      · cases h
    · split at h
      · cases h
      · rename_i hname
        split at h
        · cases h
        · exact List.forall_mem_cons.2 ⟨.inl (by simpa using hname), ih h⟩

theorem ite_some_eq_none_iff {α : Type} {p : Prop} [Decidable p] {a : α} {o : Option α} :
    (if p then some a else o) = none ↔ ¬ p ∧ o = none := by
  by_cases p <;> simp_all

theorem facts_of_labelFault? {codes : List Nat} (h : labelFault? codes = none) :
    codes ≠ [] ∧ (codes.drop 2).take 2 ≠ [45, 45] ∧ ∀ n ∈ codes, IsLabelCode n := by
  simp only [labelFault?, ite_some_eq_none_iff, Option.or_eq_none_iff] at h
  obtain ⟨hne, -, hhyphens, -, -, hcodes, -⟩ := h
  exact ⟨hne, hhyphens, isLabelCode_of_codeFault? hcodes⟩

theorem checkedLabel_eq_ok_iff {codes : List Nat} :
    checkedLabel codes = .ok label ↔ labelFault? codes = none ∧ codes.map Char.ofNat = label := by
  rw [checkedLabel]
  split <;> simp_all

theorem map_toNat_ofNat {codes : List Nat} (h : ∀ n ∈ codes, IsLabelCode n) :
    (codes.map Char.ofNat).map Char.toNat = codes := by
  rw [List.map_map]
  exact (List.map_congr_left fun n hn => toNat_ofNat (h n hn).isValidChar).trans (List.map_id _)

theorem map_ofNat_toNat (cs : List Char) : (cs.map Char.toNat).map Char.ofNat = cs := by
  rw [List.map_map]
  exact (List.map_congr_left fun c _ => Char.ofNat_toNat c).trans (List.map_id _)

theorem proper_of_checkedLabel {codes : List Nat} (h : checkedLabel codes = .ok label) :
    Proper label ∧ label.map Char.toNat = codes := by
  obtain ⟨hfault, rfl⟩ := checkedLabel_eq_ok_iff.1 h
  have hcodes := map_toNat_ofNat (facts_of_labelFault? hfault).2.2
  exact ⟨by rwa [Proper, hcodes], hcodes⟩

theorem Proper.checked (h : Proper label) : checkedLabel (label.map Char.toNat) = .ok label :=
  checkedLabel_eq_ok_iff.2 ⟨h, map_ofNat_toNat label⟩

theorem Proper.ne_nil (h : Proper label) : label ≠ [] := by
  rintro rfl
  exact (facts_of_labelFault? h).1 rfl

theorem Proper.isLabelCode (h : Proper label) : ∀ c ∈ label, IsLabelCode c.toNat := fun _ hc =>
  (facts_of_labelFault? h).2.2 _ (List.mem_map_of_mem hc)

theorem Proper.not_marked (h : Proper label) : ¬ scriptMark <+: label := by
  rintro ⟨rest, rfl⟩
  exact (facts_of_labelFault? h).2.1 rfl

theorem proper_of_decodedLabel {content : List Char} (h : decodedLabel content = .ok shown) :
    Proper shown := by
  rw [decodedLabel] at h
  split at h
  · cases h
  · split at h
    · cases h
    · split at h
      · cases h
      · exact (proper_of_checkedLabel h).1

theorem proper_of_shownLabel (h : shownLabel label = .ok shown) : Proper shown := by
  rw [shownLabel] at h
  split at h
  · exact proper_of_decodedLabel h
  · exact (proper_of_checkedLabel h).1

def IsPlain (c : Char) : Prop := c.toNat < 128 ∧ isNameCode c.toNat

instance : DecidablePred IsPlain := fun c =>
  inferInstanceAs (Decidable (c.toNat < 128 ∧ isNameCode c.toNat))

theorem IsPlain.facts {c : Char} (h : IsPlain c) :
    hostSafe c ∧ c.toLower = c ∧ c ≠ '%' ∧ c ≠ '.' ∧ c ≠ ':' := by
  have hall : ∀ n < 128, isNameCode (Char.ofNat n).toNat → hostSafe (Char.ofNat n) ∧
      (Char.ofNat n).toLower = Char.ofNat n ∧ Char.ofNat n ≠ '%' ∧ Char.ofNat n ≠ '.' ∧
      Char.ofNat n ≠ ':' := by decide +kernel
  exact forall_ascii (P := fun c => isNameCode c.toNat → hostSafe c ∧ c.toLower = c ∧ c ≠ '%' ∧
    c ≠ '.' ∧ c ≠ ':') hall h.1 h.2

theorem IsLabelCode.isPlain {c : Char} (h : IsLabelCode c.toNat) (hc : c.toNat < 128) :
    IsPlain c := by
  refine ⟨hc, h.resolve_right ?_⟩
  omega

theorem isPlain_of_mem_encode {codes : List Nat} (h : ∀ n ∈ codes, IsLabelCode n) {c : Char}
    (hc : c ∈ Punycode.encode codes) : IsPlain c := by
  have hdigits : ∀ d < 36, IsPlain (Punycode.digit d) := by decide
  have hself : ∀ n < 128, (Char.ofNat n).toNat = n := by decide
  rw [Punycode.encode, List.mem_append] at hc
  rcases hc with hc | hc
  · rcases Punycode.mem_plainPart hc with rfl | ⟨n, hn, hsmall, rfl⟩
    · decide
    · rw [← hself n hsmall] at hn hsmall
      exact (h _ hn).isPlain hsmall
  · obtain ⟨d, hd, rfl⟩ := Punycode.exists_digit_of_mem_numbers hc
    exact hdigits d hd

theorem asciiLabel_of_writtenLabel (h : writtenLabel label = .ok written) :
    asciiLabel label = .ok written := by
  rw [writtenLabel, Outcome.bind_eq_ok_iff] at h
  obtain ⟨w, hw, h⟩ := h
  split at h
  · cases h
  · rwa [← Except.ok.inj h]

theorem writtenLabel_eq_ok (h : writtenLabel label = .ok written) :
    (∀ c ∈ label, c.toNat < 128) ∧ written = label ∨
      (∃ c ∈ label, 128 ≤ c.toNat) ∧ Proper label ∧
        written = scriptMark ++ Punycode.encode (label.map Char.toNat) := by
  have hw := asciiLabel_of_writtenLabel h
  rw [asciiLabel] at hw
  split at hw
  · rename_i hascii
    obtain ⟨shown, hshown, hw⟩ := Outcome.map_eq_ok_iff.1 hw
    exact .inl ⟨by simpa using hascii, hw.symm⟩
  · rename_i hascii
    obtain ⟨shown, hshown, hw⟩ := Outcome.map_eq_ok_iff.1 hw
    exact .inr ⟨by simpa using hascii, (checkedLabel_eq_ok_iff.1 hshown).1, hw.symm⟩

theorem Proper.isPlain_of_writtenLabel (hp : Proper label) (h : writtenLabel label = .ok written) :
    ∀ c ∈ written, IsPlain c := by
  rcases writtenLabel_eq_ok h with ⟨hascii, rfl⟩ | ⟨-, -, rfl⟩
  · exact fun c hc => (hp.isLabelCode c hc).isPlain (hascii c hc)
  · have hmark : ∀ c ∈ scriptMark, IsPlain c := by
      simp only [scriptMark, List.forall_mem_cons, List.not_mem_nil, false_implies, implies_true]
      decide
    intro c hc
    rcases List.mem_append.1 hc with hc | hc
    · exact hmark c hc
    · exact isPlain_of_mem_encode (List.forall_mem_map.2 hp.isLabelCode) hc

theorem map_toLower_of_isPlain {cs : List Char} (h : ∀ c ∈ cs, IsPlain c) :
    cs.map Char.toLower = cs :=
  (List.map_congr_left fun c hc => (h c hc).facts.2.1).trans (List.map_id _)

theorem shownLabel_marked {content : List Char} (h : ∀ c ∈ scriptMark ++ content, IsPlain c) :
    shownLabel (scriptMark ++ content) = decodedLabel content := by
  rw [shownLabel, map_toLower_of_isPlain h,
    if_pos (List.isPrefixOf_iff_prefix.2 (List.prefix_append _ _)), List.drop_left]

theorem Proper.shownLabel_of_writtenLabel (hp : Proper label)
    (h : writtenLabel label = .ok written) : shownLabel written = .ok label := by
  have hplain := hp.isPlain_of_writtenLabel h
  rcases writtenLabel_eq_ok h with ⟨hascii, rfl⟩ | ⟨⟨c, hc, hlarge⟩, -, rfl⟩
  · rw [shownLabel, map_toLower_of_isPlain hplain,
      if_neg (by rw [List.isPrefixOf_iff_prefix]; exact hp.not_marked)]
    exact hp.checked
  · have hcodes : ∀ n ∈ label.map Char.toNat, n ≤ 0x10FFFF := by
      refine List.forall_mem_map.2 fun d _ => ?_
      have hvalid : d.toNat.isValidChar := d.valid
      rw [Nat.isValidChar] at hvalid
      omega
    obtain ⟨hne, hlast⟩ := Punycode.getLast?_encode (List.mem_map_of_mem hc) hlarge
    rw [shownLabel_marked hplain, decodedLabel, if_neg hne, if_neg hlast,
      Punycode.decode?_encode hcodes]
    exact hp.checked

theorem exists_large_of_marked (hmark : scriptMark <+: label) (h : shownLabel label = .ok shown) :
    ∃ c ∈ shown, 128 ≤ c.toNat := by
  obtain ⟨content, rfl⟩ := hmark
  have hlower : scriptMark.map Char.toLower = scriptMark := by decide
  rw [shownLabel, List.map_append, hlower,
    if_pos (List.isPrefixOf_iff_prefix.2 (List.prefix_append _ _)), List.drop_left,
    decodedLabel] at h
  split at h
  · cases h
  · split at h
    · cases h
    · split at h
      · cases h
      · rename_i hne hlast _ codes hcodes
        obtain ⟨n, hn, hlarge⟩ := Punycode.exists_large_of_decode? hcodes hne hlast
        obtain ⟨-, hshown⟩ := proper_of_checkedLabel h
        rw [← hshown] at hn
        obtain ⟨c, hc, rfl⟩ := List.mem_map.1 hn
        exact ⟨c, hc, hlarge⟩

end Labels

section Names

variable {name shown written : List Char} {labels last : List (List Char)}

theorem labelsOf_eq (h : labelsOf name = (labels, last)) :
    splitAt '.' name = labels ++ last ∧ (last = [] ∨ last = [[]]) := by
  rw [labelsOf] at h
  split at h
  · rename_i hlast
    cases h
    obtain ⟨ps, hps⟩ := List.getLast?_eq_some_iff.1 hlast
    rw [hps, List.dropLast_concat]
    exact ⟨rfl, .inr rfl⟩
  · cases h
    exact ⟨(List.append_nil _).symm, .inl rfl⟩

theorem labelsOf_joinBy (hlabels : ∀ p ∈ labels, p ≠ [] ∧ '.' ∉ p) (hlast : last = [] ∨ last = [[]])
    (hne : labels ++ last ≠ []) : labelsOf (joinBy '.' (labels ++ last)) = (labels, last) := by
  have hpoint : ∀ p ∈ labels ++ last, '.' ∉ p := by
    intro p hp
    rcases List.mem_append.1 hp with hp | hp
    · exact (hlabels p hp).2
    · rcases hlast with rfl | rfl
      · cases hp
      · rw [List.mem_singleton.1 hp]
        exact List.not_mem_nil
  rw [labelsOf, splitAt_joinBy hne hpoint]
  rcases hlast with rfl | rfl
  · rw [List.append_nil] at hne ⊢
    refine if_neg fun hlast => ?_
    exact (hlabels [] (List.mem_of_getLast? hlast)).1 rfl
  · rw [List.getLast?_concat, if_pos rfl, List.dropLast_concat]

theorem shownName_eq_ok_iff (hlabels : labelsOf name = (labels, last)) :
    shownName name = .ok shown ↔ name.length ≤ 254 ∧
      ∃ ls, List.Forall₂ (fun l s => shownLabel l = .ok s) labels ls ∧
        joinBy '.' (ls ++ last) = shown := by
  rw [shownName, hlabels]
  split
  · simp only [reduceCtorEq, false_iff, not_and]
    omega
  · simp only [Outcome.map_eq_ok_iff, Outcome.mapM_eq_ok_iff]
    exact ⟨fun h => ⟨by omega, h⟩, fun h => h.2⟩

theorem writtenName_eq_ok (hlabels : labelsOf (pointed name) = (labels, last))
    (h : writtenName name = .ok written) : ∃ ws,
      List.Forall₂ (fun l w => writtenLabel l = .ok w) labels ws ∧
        written = joinBy '.' (ws ++ last) ∧ written.length ≤ 254 := by
  rw [writtenName, hlabels] at h
  split at h
  · cases h
  · obtain ⟨ws, hws, h⟩ := Outcome.bind_eq_ok_iff.1 h
    dsimp only at h
    split at h
    · cases h
    · rename_i hlength
      cases h
      exact ⟨ws, Outcome.mapM_eq_ok_iff.1 hws, rfl, by omega⟩

/-- The labels of a name that is shown, and what stands behind the point at its end. -/
structure Shown (shown : List Char) (labels ending : List (List Char)) : Prop where
  eq : shown = joinBy '.' (labels ++ ending)
  proper : ∀ l ∈ labels, Proper l
  ends : ending = [] ∨ ending = [[]]
  ne_nil : labels ++ ending ≠ []

theorem exists_shown (hlabels : labelsOf name = (labels, last)) (h : shownName name = .ok shown) :
    ∃ ls, List.Forall₂ (fun l s => shownLabel l = .ok s) labels ls ∧ Shown shown ls last := by
  obtain ⟨-, ls, hls, hshown⟩ := (shownName_eq_ok_iff hlabels).1 h
  obtain ⟨hsplit, hlast⟩ := labelsOf_eq hlabels
  refine ⟨ls, hls, hshown.symm, fun l hl => ?_, hlast, fun hnil => ?_⟩
  · obtain ⟨l', -, hl'⟩ := exists_of_forall₂ hls.flip hl
    exact proper_of_shownLabel hl'
  · have hempty : labels ++ last = [] := by
      rw [List.append_eq_nil_iff] at hnil ⊢
      exact ⟨List.length_eq_zero_iff.1 (by rw [hls.length_eq, hnil.1]; rfl), hnil.2⟩
    exact splitAt_ne_nil '.' name (hsplit.trans hempty)

theorem exists_labels_of_marked (hmark : scriptMark <+: name) :
    ∃ label labels last, labelsOf name = (label :: labels, last) ∧ scriptMark <+: label := by
  obtain ⟨rest, rfl⟩ := hmark
  rcases hlabels : labelsOf (scriptMark ++ rest) with ⟨labels, last⟩
  obtain ⟨hsplit, hlast⟩ := labelsOf_eq hlabels
  have hpoint : '.' ∉ scriptMark := by decide
  obtain ⟨p, ps, hfirst⟩ := splitAt_append_of_notMem hpoint rest
  rw [hfirst] at hsplit
  cases labels with
  | nil =>
    rcases hlast with rfl | rfl
    · cases hsplit
    · cases hsplit
  | cons label labels =>
    refine ⟨label, labels, last, rfl, ?_⟩
    rw [← (List.cons.inj hsplit).1]
    exact List.prefix_append _ _

namespace Shown

theorem point_notMem (h : Shown shown labels last) : ∀ p ∈ labels, p ≠ [] ∧ '.' ∉ p :=
  fun p hp => ⟨(h.proper p hp).ne_nil,
    fun hmem => ((h.proper p hp).isLabelCode '.' hmem).notMem_points (by decide)⟩

theorem eq_nil_of_mem_ending (h : Shown shown labels last) {p : List Char} (hp : p ∈ last) :
    p = [] := by
  rcases h.ends with rfl | rfl
  · cases hp
  · exact List.mem_singleton.1 hp

theorem isNameChar (h : Shown shown labels last) : ∀ c ∈ shown, IsNameChar c := by
  intro c hc
  rw [h.eq] at hc
  refine (mem_joinBy hc).imp_right fun ⟨p, hp, hcp⟩ => ?_
  rcases List.mem_append.1 hp with hp | hp
  · exact (h.proper p hp).isLabelCode c hcp
  · rw [h.eq_nil_of_mem_ending hp] at hcp
    cases hcp

theorem pointed_eq (h : Shown shown labels last) : pointed shown = shown := by
  refine (List.map_congr_left fun c hc => if_neg fun hpoint => ?_).trans (List.map_id _)
  rcases h.isNameChar c hc with rfl | hcode
  · exact absurd hpoint (by decide)
  · exact hcode.notMem_points (List.mem_cons_of_mem _ hpoint)

theorem labelsOf_eq (h : Shown shown labels last) : labelsOf shown = (labels, last) := by
  rw [h.eq]
  exact labelsOf_joinBy h.point_notMem h.ends h.ne_nil

theorem exists_written (h : Shown shown labels last) (hw : writtenName shown = .ok written) :
    ∃ ws, List.Forall₂ (fun l w => Proper l ∧ writtenLabel l = .ok w) labels ws ∧
      labelsOf written = (ws, last) ∧ written = joinBy '.' (ws ++ last) ∧ written.length ≤ 254 := by
  obtain ⟨ws, hws, rfl, hlength⟩ := writtenName_eq_ok (by rw [h.pointed_eq, h.labelsOf_eq]) hw
  have hws := (List.forall₂_and_left labels ws).2 ⟨h.proper, hws⟩
  have hne : ws ++ last ≠ [] := by
    intro hnil
    rw [List.append_eq_nil_iff] at hnil
    refine h.ne_nil (List.append_eq_nil_iff.2 ⟨?_, hnil.2⟩)
    exact List.length_eq_zero_iff.1 (by rw [hws.length_eq, hnil.1]; rfl)
  refine ⟨ws, hws, labelsOf_joinBy (fun w hmem => ?_) h.ends hne, rfl, hlength⟩
  obtain ⟨l, -, hl, hlw⟩ := exists_of_forall₂ hws.flip hmem
  refine ⟨?_, fun hpoint => (hl.isPlain_of_writtenLabel hlw '.' hpoint).facts.2.2.2.1 rfl⟩
  rintro rfl
  have hempty : shownLabel [] = .error .emptyLabel := by rfl
  have hshown := hl.shownLabel_of_writtenLabel hlw
  rw [hempty] at hshown
  cases hshown

theorem shownName_of_writtenName (h : Shown shown labels last)
    (hw : writtenName shown = .ok written) : shownName written = .ok shown := by
  obtain ⟨ws, hws, hwritten, -, hlength⟩ := h.exists_written hw
  refine (shownName_eq_ok_iff hwritten).2 ⟨hlength, labels, hws.flip.imp ?_, h.eq.symm⟩
  exact fun w l ⟨hl, hlw⟩ => hl.shownLabel_of_writtenLabel hlw

theorem isPlain_of_writtenName (h : Shown shown labels last)
    (hw : writtenName shown = .ok written) : ∀ c ∈ written, c = '.' ∨ IsPlain c := by
  obtain ⟨ws, hws, -, rfl, -⟩ := h.exists_written hw
  intro c hc
  refine (mem_joinBy hc).imp_right fun ⟨p, hp, hcp⟩ => ?_
  rcases List.mem_append.1 hp with hp | hp
  · obtain ⟨l, -, hl, hlw⟩ := exists_of_forall₂ hws.flip hp
    exact hl.isPlain_of_writtenLabel hlw c hcp
  · rw [h.eq_nil_of_mem_ending hp] at hcp
    cases hcp

end Shown

theorem isLabelCode_of_writtenName (h : writtenName name = .ok written) {c : Char} (hc : c ∈ name)
    (hlarge : 128 ≤ c.toNat) : IsLabelCode c.toNat ∨ c.toNat ∈ points := by
  rcases hlabels : labelsOf (pointed name) with ⟨labels, last⟩
  obtain ⟨hsplit, hlast⟩ := labelsOf_eq hlabels
  obtain ⟨ws, hws, -⟩ := writtenName_eq_ok hlabels h
  refine or_iff_not_imp_right.2 fun hpoints => ?_
  have hmem : c ∈ pointed name := by
    refine List.mem_map.2 ⟨c, hc, if_neg fun hpoint => hpoints ?_⟩
    exact List.mem_cons_of_mem _ hpoint
  have hpoint : c ≠ '.' := by
    rintro rfl
    exact absurd hlarge (by decide)
  have hpiece : c = '.' ∨ ∃ p ∈ splitAt '.' (pointed name), c ∈ p := mem_of_splitAt hmem
  obtain ⟨p, hp, hcp⟩ := hpiece.resolve_left hpoint
  rw [hsplit, List.mem_append] at hp
  rcases hp with hp | hp
  · obtain ⟨w, -, hw⟩ := exists_of_forall₂ hws hp
    rcases writtenLabel_eq_ok hw with ⟨hascii, -⟩ | ⟨-, hproper, -⟩
    · exact absurd (hascii c hcp) (Nat.not_lt.2 hlarge)
    · exact hproper.isLabelCode c hcp
  · rcases hlast with rfl | rfl
    · cases hp
    · rw [List.mem_singleton.1 hp] at hcp
      cases hcp

theorem Shown.lower_eq {s : String} (h : Shown s.toList labels last)
    (hw : writtenName (lower s).toList = .ok written) : lower s = s := by
  have hlower : (lower s).toList =
      s.toList.map fun c => Char.ofNat (counterpart lowerRuns c.toNat) := by
    rw [lower, String.toList_ofList, lowerBehind_of_isNameChar h.isNameChar]
  apply String.toList_inj.1
  rw [hlower]
  refine (List.map_congr_left fun c hc => ?_).trans (List.map_id _)
  rcases h.isNameChar c hc with rfl | hcode
  · decide +kernel
  · rcases hcode.counterpart with hself | ⟨hlarge, hout, hpoints⟩
    · rw [hself, Char.ofNat_toNat]
      rfl
    · -- a letter that has another lower case would not be written at all
      have hvalid := toNat_ofNat (isValidChar_counterpart hcode.isValidChar)
      have hmem : Char.ofNat (counterpart lowerRuns c.toNat) ∈ (lower s).toList := by
        rw [hlower]
        exact List.mem_map_of_mem hc
      rcases isLabelCode_of_writtenName hw hmem (by rwa [hvalid]) with h | h
      · rw [hvalid] at h
        exact absurd h hout
      · rw [hvalid] at h
        exact absurd h hpoints

theorem marked_of_written (hmark : scriptMark <+: name) (h : shownName name = .ok shown) :
    (∃ c ∈ shown, 128 ≤ c.toNat) ∧ ∀ written, writtenName shown = .ok written →
      scriptMark <+: written := by
  obtain ⟨label, labels, last, hlabels, hlabel⟩ := exists_labels_of_marked hmark
  obtain ⟨ls, hls, hshown⟩ := exists_shown hlabels h
  cases hls with
  | @cons _ s _ ls hs hls =>
    obtain ⟨c, hc, hlarge⟩ := exists_large_of_marked hlabel hs
    refine ⟨⟨c, ?_, hlarge⟩, fun written hw => ?_⟩
    · rw [hshown.eq]
      exact (infix_joinBy (List.mem_append_left last List.mem_cons_self)).mem hc
    · obtain ⟨ws, hws, -, rfl, -⟩ := hshown.exists_written hw
      cases hws with
      | @cons _ w _ ws hfirst hws =>
        -- the first label goes beyond ASCII, so that it is written with the mark
        refine List.IsPrefix.trans ?_ (prefix_joinBy w (ws ++ last))
        rcases writtenLabel_eq_ok hfirst.2 with ⟨hascii, -⟩ | ⟨-, -, rfl⟩
        · exact absurd (hascii c hc) (Nat.not_lt.2 hlarge)
        · exact List.prefix_append _ _

end Names

end HttpGateway.Uri
