import HttpGateway.Client.Sending
import HttpGateway.Proofs.Text.Percent

namespace HttpGateway

open HttpGateway.Text

namespace Headers

variable {names : List String} {name value : String} {h h' h'' : Headers}

theorem contains_iff : h.contains name ↔ ∃ f ∈ h.fields, lowerAscii f.1 = lower name := by
  rw [contains, values, valuesAt]
  simp [List.filter_eq_nil_iff]

structure IsNew (names : List String) (h : Headers) (f : String × String) : Prop where
  name : f.1 ∈ names
  missing : ∀ g ∈ h.fields, lowerAscii g.1 ≠ f.1

theorem isNew_of_not_contains (hname : name ∈ names) (hlower : lower name = name)
    (hnone : ¬ h.contains name) (value : String) : h.IsNew names (name, value) :=
  ⟨hname, fun g hg heq => hnone (contains_iff.2 ⟨g, hg, heq.trans hlower.symm⟩)⟩

def Wrapped (names : List String) (h h' : Headers) : Prop :=
  ∃ before after, h'.fields = before ++ h.fields ++ after ∧ ∀ f ∈ before ++ after, h.IsNew names f

theorem Wrapped.refl (names : List String) (h : Headers) : Wrapped names h h :=
  ⟨[], [], by simp, by simp⟩

theorem Wrapped.trans (hw : Wrapped names h h') (hw' : Wrapped names h' h'') :
    Wrapped names h h'' := by
  obtain ⟨before, after, hf, hnew⟩ := hw
  obtain ⟨before', after', hf', hnew'⟩ := hw'
  have hwithin : ∀ g ∈ h.fields, g ∈ h'.fields := by
    intro g hg
    rw [hf]
    exact List.mem_append_left after (List.mem_append_right before hg)
  have houter : ∀ f ∈ before' ++ after', h.IsNew names f := fun f hfield =>
    ⟨(hnew' f hfield).name, fun g hg => (hnew' f hfield).missing g (hwithin g hg)⟩
  refine ⟨before' ++ before, after ++ after', by simp [hf, hf'], fun f hfield => ?_⟩
  simp only [List.mem_append] at hfield hnew houter
  rcases hfield with (hin | hin) | hin | hin
  · exact houter f (.inl hin)
  · exact hnew f (.inl hin)
  · exact hnew f (.inr hin)
  · exact houter f (.inr hin)

theorem wrapped_putNew (hname : name ∈ names) (hlower : lower name = name) :
    Wrapped names h (h.putNew name value) := by
  rw [putNew]
  split
  · exact .refl names h
  · rename_i hnone
    refine ⟨[], [(name, value)], rfl, fun f hf => ?_⟩
    rw [List.mem_singleton.1 hf]
    exact isNew_of_not_contains hname hlower hnone value

end Headers

namespace Outbound

/-- The names of the fields that the client adds: those of its usual ones, and three more. -/
def clientFields (usual : Headers) : List String :=
  ["host", "content-length", "cookie"] ++ usual.lowered.map Prod.fst

structure CompletedTo (usual : Headers) (o o' : Outbound) : Prop where
  method : o'.method = o.method
  uri : o'.uri = o.uri
  content : o'.content = o.content
  headers : o.headers.Wrapped (clientFields usual) o'.headers

variable {usual : Headers} {o o' o'' : Outbound}

section Added

variable {name : String} {h : Headers}

theorem lower_of_added (hname : name ∈ ["host", "content-length", "cookie"]) :
    lower name = name := by
  simp only [List.mem_cons, List.not_mem_nil, or_false] at hname
  rcases hname with rfl | rfl | rfl <;> decide +kernel

theorem isNew_of_added (hname : name ∈ ["host", "content-length", "cookie"])
    (hnone : ¬ h.contains name) (value : String) : h.IsNew (clientFields usual) (name, value) :=
  Headers.isNew_of_not_contains (List.mem_append_left _ hname) (lower_of_added hname) hnone value

theorem wrapped_of_added (hname : name ∈ ["host", "content-length", "cookie"]) (value : String) :
    h.Wrapped (clientFields usual) (h.putNew name value) :=
  Headers.wrapped_putNew (List.mem_append_left _ hname) (lower_of_added hname)

end Added

theorem CompletedTo.trans (h : CompletedTo usual o o') (h' : CompletedTo usual o' o'') :
    CompletedTo usual o o'' :=
  ⟨h'.method.trans h.method, h'.uri.trans h.uri, h'.content.trans h.content,
    h.headers.trans h'.headers⟩

theorem completedTo_of_headers {h : Headers} (hw : o.headers.Wrapped (clientFields usual) h) :
    CompletedTo usual o { o with headers := h } := ⟨rfl, rfl, rfl, hw⟩

theorem completedTo_withUsual (usual : Headers) (o : Outbound) :
    CompletedTo usual o (o.withUsual usual) := by
  refine completedTo_of_headers ⟨_, [], (List.append_nil _).symm, fun f hf => ?_⟩
  rw [List.append_nil, List.mem_filter, Headers.valuesAt, List.isEmpty_iff, List.map_eq_nil_iff,
    List.filter_eq_nil_iff] at hf
  exact ⟨List.mem_append_right _ (List.mem_map_of_mem hf.1), fun g hg heq =>
    hf.2 g hg (beq_iff_eq.2 heq)⟩

theorem completedTo_withLength (usual : Headers) (o : Outbound) :
    CompletedTo usual o o.withLength := by
  rw [withLength]
  split
  · exact completedTo_of_headers (.refl _ _)
  · exact completedTo_of_headers (wrapped_of_added (by decide) _)

theorem completedTo_withLeading (usual : Headers) (o : Outbound) :
    CompletedTo usual o o.withLeading := by
  refine completedTo_of_headers ⟨leadingFields o.method o.uri o.headers, [], by simp,
    fun f hf => ?_⟩
  rw [List.append_nil, leadingFields, List.mem_append] at hf
  rcases hf with hf | hf
  · split at hf
    · cases hf
    · rename_i hnone
      rw [Bool.or_eq_true, not_or] at hnone
      rw [List.mem_singleton.1 hf]
      exact isNew_of_added (by decide) hnone.1 _
  · split at hf
    · cases hf
    · rename_i hnone
      rw [Bool.or_eq_true, not_or] at hnone
      split at hf
      · rw [List.mem_singleton.1 hf]
        exact isNew_of_added (by decide) hnone.1 _
      · cases hf

theorem withAuthorization_of_no_userinfo (h : o.uri.userinfo = "") : o.withAuthorization = o := by
  have hcredentials : o.uri.credentials = ("", "") := by
    rw [Uri.credentials, h]
    decide +kernel
  rw [withAuthorization, hcredentials]
  rfl

theorem uri_withAuthorization (o : Outbound) : o.withAuthorization.uri = o.uri := by
  rw [withAuthorization]
  dsimp only
  split <;> rfl

theorem exists_withCookies (hscheme : o.uri.scheme ≠ "") (usual : Headers) (jar : CookieJar)
    (now : Int) : ∃ o', o.withCookies jar now = .ok o' ∧ CompletedTo usual o o' := by
  rw [withCookies, cookieAddress, if_pos hscheme]
  split
  · exact ⟨o, rfl, completedTo_of_headers (.refl _ _)⟩
  · cases hv : jar.field? now o with
    | none => exact ⟨o, rfl, completedTo_of_headers (.refl _ _)⟩
    | some v => exact ⟨_, rfl, completedTo_of_headers (wrapped_of_added (by decide) _)⟩

theorem exists_complete (hscheme : o.uri.scheme ≠ "") (usual : Headers) (jar : CookieJar)
    (now : Int) : ∃ o', (o.withUsual usual).complete jar now = .ok o' ∧ o'.uri = o.uri ∧
      (o.uri.userinfo = "" → CompletedTo usual o o') := by
  obtain ⟨o', ho', hcookies⟩ := exists_withCookies (o := o.withUsual usual) hscheme usual jar now
  have hlast : CompletedTo usual o o'.withLength.withLeading :=
    ((completedTo_withUsual usual o).trans hcookies).trans
      ((completedTo_withLength usual o').trans (completedTo_withLeading usual _))
  refine ⟨o'.withLength.withLeading.withAuthorization, ?_, ?_, fun huser => ?_⟩
  · rw [complete, ho']
    rfl
  · rw [uri_withAuthorization, hlast.uri]
  · rwa [withAuthorization_of_no_userinfo (hlast.uri ▸ huser)]

end Outbound

end HttpGateway
