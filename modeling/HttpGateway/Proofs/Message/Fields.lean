import HttpGateway.Proofs.Message.Headers

/-!
What a header edit leaves of the other fields, and where the edited one stands. A later edit of the
same name finds one field at most, which is why it hides the earlier one.
-/

namespace HttpGateway.Headers

open HttpGateway.Text

variable {h : Headers} {name value : String} {values : List String} {fs : List (String × String)}

def named (name : String) (f : String × String) : Bool := lowerAscii f.1 == lowerAscii name

/-- One field with the name is left, with a value of its own. It stands where the first one with the
name stood, or behind all others. -/
structure Written (name value : String) (h h' : Headers) : Prop where
  others : h'.fields.filter (!named name ·) = h.fields.filter (!named name ·)
  only : h'.fields.filter (named name) = [(name, value)]
  before : h'.fields.takeWhile (!named name ·) = h.fields.takeWhile (!named name ·)

structure Erased (name : String) (h h' : Headers) : Prop where
  others : h'.fields = h.fields.filter (!named name ·)
  none : h'.fields.filter (named name) = []

@[simp]
theorem named_self (name value : String) : named name (name, value) := by simp [named]

@[simp]
theorem putField_nil : putField name value [] = [(name, value)] := rfl

@[simp]
theorem putField_cons_of_named {f : String × String} (hf : named name f) :
    putField name value (f :: fs) = (name, value) :: fs.filter (!named name ·) := by
  simp only [named, beq_iff_eq] at hf
  rw [putField, if_pos hf]
  rfl

@[simp]
theorem putField_cons_of_not_named {f : String × String} (hf : ¬ named name f) :
    putField name value (f :: fs) = f :: putField name value fs := by
  simp only [named, beq_iff_eq] at hf
  rw [putField, if_neg hf]

theorem filter_others_putField : (putField name value fs).filter (!named name ·) =
    fs.filter (!named name ·) := by
  induction fs with
  | nil => simp
  | cons f fs ih =>
    by_cases hf : named name f
    · simp [putField_cons_of_named hf, hf]
    · simp [putField_cons_of_not_named hf, hf, ih]

theorem filter_named_putField : (putField name value fs).filter (named name) = [(name, value)] := by
  induction fs with
  | nil => simp
  | cons f fs ih =>
    by_cases hf : named name f
    · simp [putField_cons_of_named hf, List.filter_filter]
    · simp [putField_cons_of_not_named hf, hf, ih]

theorem takeWhile_putField : (putField name value fs).takeWhile (!named name ·) =
    fs.takeWhile (!named name ·) := by
  induction fs with
  | nil => simp
  | cons f fs ih =>
    by_cases hf : named name f
    · simp [putField_cons_of_named hf, hf]
    · simp [putField_cons_of_not_named hf, hf, ih]

theorem putField_putField (first second : String) :
    putField name second (putField name first fs) = putField name second fs := by
  induction fs with
  | nil => rw [putField_nil, putField_cons_of_named (named_self name first)]; rfl
  | cons f fs ih =>
    by_cases hf : named name f
    · rw [putField_cons_of_named hf, putField_cons_of_named (named_self name first),
        putField_cons_of_named hf, List.filter_filter]
      simp
    · rw [putField_cons_of_not_named hf, putField_cons_of_not_named hf,
        putField_cons_of_not_named hf, ih]

theorem putField_of_none (hnone : fs.filter (named name) = []) :
    putField name value fs = fs ++ [(name, value)] := by
  induction fs with
  | nil => rfl
  | cons f fs ih =>
    by_cases hf : named name f
    · simp [hf] at hnone
    · rw [List.filter_cons_of_neg hf] at hnone
      rw [putField_cons_of_not_named hf, ih hnone, List.cons_append]

theorem written_put (h : Headers) (name value : String) : Written name value h (h.put name value) :=
  ⟨filter_others_putField, filter_named_putField, takeWhile_putField⟩

theorem eq_of_filter_singleton {α : Type} {p : α → Bool} {as : List α} {a : α}
    (h : as.filter p = [a]) : as = as.takeWhile (!p ·) ++
      a :: (as.filter (!p ·)).drop (as.takeWhile (!p ·)).length := by
  induction as with
  | nil => cases h
  | cons b as ih =>
    by_cases hb : p b
    · rw [List.filter_cons_of_pos hb, List.cons.injEq] at h
      have hrest : as.filter (!p ·) = as := by
        rw [List.filter_eq_self]
        intro c hc
        simpa using List.filter_eq_nil_iff.1 h.2 c hc
      obtain rfl := h.1
      simp [hb, hrest]
    · rw [List.filter_cons_of_neg hb] at h
      simpa [hb] using ih h

theorem Written.unique {first second : Headers} (hfirst : Written name value h first)
    (hsecond : Written name value h second) : first = second := by
  have hf := eq_of_filter_singleton hfirst.only
  have hs := eq_of_filter_singleton hsecond.only
  rw [hfirst.before, hfirst.others] at hf
  rw [hsecond.before, hsecond.others, ← hf] at hs
  exact congrArg Headers.mk hs.symm

theorem put_put (h : Headers) (name first second : String) :
    (h.put name first).put name second = h.put name second :=
  congrArg Headers.mk (putField_putField first second)

section Ascii

variable (hname : isAscii name)

include hname

theorem lower_of_isAscii : lower name = lowerAscii name := lower_ascii (isAscii_iff.1 hname)

theorem values_eq : h.values name = (h.fields.filter (named name)).map Prod.snd := by
  rw [values, valuesAt, lower_of_isAscii hname]
  rfl

theorem erase_eq : h.erase name = ⟨h.fields.filter (!named name ·)⟩ := by
  rw [erase, eraseKey, lower_of_isAscii hname]
  rfl

theorem erased_erase : Erased name h (h.erase name) := by
  rw [erase_eq hname]
  exact ⟨rfl, by simp [List.filter_filter]⟩

theorem erase_put : (h.put name value).erase name = h.erase name := by
  rw [erase_eq hname, erase_eq hname]
  exact congrArg Headers.mk filter_others_putField

theorem values_put : (h.put name value).values name = [value] := by
  rw [values_eq hname, (written_put h name value).only]
  rfl

theorem put_of_no_values (hnone : h.values name = []) :
    h.put name value = ⟨h.fields ++ [(name, value)]⟩ := by
  rw [values_eq hname, List.map_eq_nil_iff] at hnone
  exact congrArg Headers.mk (putField_of_none hnone)

theorem key?_of_isAscii : h.key? name = some (lower name) := by
  simp [key?, isAscii_lower hname]

theorem put?_of_isAscii (hvalue : isAscii value) : h.put? name value = some (h.put name value) := by
  simp [put?, hname, hvalue]

theorem erase?_of_isAscii : h.erase? name = some (h.erase name) := by
  rw [erase?, key?_of_isAscii hname]
  rfl

end Ascii

def added (h : Headers) (name : String) (values : List String) : Headers :=
  h.put name (joined (h.values name ++ values))

theorem addedTo_of_isAscii (hname : isAscii name) (hvalues : ∀ v ∈ values, isAscii v) :
    RequestEdit.addedTo h name values = some (h.added name values) := by
  have hsome : (RequestEdit.addedTo h name values).isSome :=
    addedTo_isSome_iff.2 fun _ => ⟨hname, hvalues⟩
  rw [RequestEdit.addedTo, values?, key?_of_isAscii hname] at hsome ⊢
  change (h.put? name (joined (h.values name ++ values))).isSome at hsome
  change h.put? name (joined (h.values name ++ values)) = some (h.added name values)
  rw [put?] at hsome ⊢
  split
  · rw [if_pos ‹_›] at hsome
    cases hsome
  · rfl

/-- Joining values that are joined already does not show, unless there was none of them. -/
theorem joined_joined {first : List String} (hne : first ≠ []) (second : List String) :
    joined (joined first :: second) = joined (first ++ second) := by
  by_cases hsecond : second = []
  · rw [hsecond, List.append_nil]
    exact String.intercalate_singleton
  · calc joined (joined first :: second) = joined first ++ ", " ++ joined second :=
          String.intercalate_cons_of_ne_nil hsecond
      _ = joined (first ++ second) := (String.intercalate_append_of_ne_nil hne hsecond).symm

theorem added_added (hname : isAscii name) (h : Headers) (first second : List String) :
    (h.added name first).added name second =
      h.put name (joined (joined (h.values name ++ first) :: second)) := by
  rw [added, added, values_put hname, put_put]
  rfl

end HttpGateway.Headers
