import HttpGateway.Client.Sending

/-!
Kept cookies and the requests that go out. They bring at most one header field into a request, and
just if it has none of that name and some kept cookie goes along.
-/

namespace HttpGateway

open HttpGateway.Text

namespace Headers

inductive OneMore (extra v : String) : Headers → Headers → Prop
  | between (before after) : OneMore extra v ⟨before ++ after⟩ ⟨before ++ (extra, v) :: after⟩

variable {extra v : String} {h h' : Headers} {name value : String}

theorem OneMore.ne (hm : OneMore extra v h h') : h' ≠ h := by
  obtain ⟨before, after⟩ := hm
  intro heq
  have hlength := congrArg (fun h => h.fields.length) heq
  simp at hlength

theorem OneMore.contains (hm : OneMore extra v h h') (hne : lowerAscii extra ≠ lower name) :
    h'.contains name = h.contains name := by
  obtain ⟨before, after⟩ := hm
  have hf : (lowerAscii extra == lower name) = false := by simpa using hne
  simp [Headers.contains, values, valuesAt, hf]

theorem OneMore.append (hm : OneMore extra v h h') (before after : List (String × String)) :
    OneMore extra v ⟨before ++ h.fields ++ after⟩ ⟨before ++ h'.fields ++ after⟩ := by
  obtain ⟨b, a⟩ := hm
  have hmore : OneMore extra v _ _ := .between (before ++ b) (a ++ after)
  simpa using hmore

theorem OneMore.putNew (hm : OneMore extra v h h') (hne : lowerAscii extra ≠ lower name) :
    OneMore extra v (h.putNew name value) (h'.putNew name value) := by
  rw [Headers.putNew, Headers.putNew, hm.contains hne]
  by_cases hc : h.contains name
  · rw [if_pos hc, if_pos hc]
    exact hm
  · rw [if_neg hc, if_neg hc]
    exact hm.append [] [(name, value)]

theorem oneMore_putField (hne : lowerAscii extra ≠ lowerAscii name)
    (before after : List (String × String)) :
    OneMore extra v ⟨putField name value (before ++ after)⟩
      ⟨putField name value (before ++ (extra, v) :: after)⟩ := by
  induction before with
  | nil =>
    rw [List.nil_append, List.nil_append, putField, if_neg hne]
    exact .between [] _
  | cons g before ih =>
    rw [List.cons_append, List.cons_append, putField, putField]
    by_cases hg : lowerAscii g.1 = lowerAscii name
    · have hf : (lowerAscii extra != lowerAscii name) = true := by simpa using hne
      rw [if_pos hg, if_pos hg, List.filter_append, List.filter_append,
        List.filter_cons_of_pos (by simpa using hne)]
      exact .between ((name, value) :: before.filter _) _
    · rw [if_neg hg, if_neg hg]
      have hmore := OneMore.append ih [g] []
      simpa using hmore

theorem OneMore.put (hm : OneMore extra v h h') (hne : lowerAscii extra ≠ lowerAscii name) :
    OneMore extra v (h.put name value) (h'.put name value) := by
  obtain ⟨before, after⟩ := hm
  exact oneMore_putField hne before after

end Headers

namespace Outbound

inductive ExtendedBy (extra v : String) (o : Outbound) : Outbound → Prop
  | headers {h} : o.headers.OneMore extra v h → ExtendedBy extra v o { o with headers := h }

variable {o o' : Outbound} {extra v : String} {jar : CookieJar} {now : Int}

theorem ExtendedBy.ne (h : ExtendedBy extra v o o') : o' ≠ o := by
  obtain ⟨hm⟩ := h
  intro heq
  exact hm.ne (congrArg Outbound.headers heq)

def finished (o : Outbound) : Outbound := ((o.withLength).withLeading).withAuthorization

theorem complete_eq (o : Outbound) (jar : CookieJar) (now : Int) :
    o.complete jar now = (o.withCookies jar now).map finished := rfl

theorem ExtendedBy.withLength (h : ExtendedBy "cookie" v o o') :
    ExtendedBy "cookie" v o.withLength o'.withLength := by
  obtain ⟨hm⟩ := h
  rw [Outbound.withLength, Outbound.withLength]
  by_cases hc : o.content = ""
  · rw [if_pos hc, if_pos hc]
    exact .headers hm
  · rw [if_neg hc, if_neg hc]
    exact .headers (hm.putNew (by decide))

theorem ExtendedBy.withLeading (h : ExtendedBy "cookie" v o o') :
    ExtendedBy "cookie" v o.withLeading o'.withLeading := by
  obtain @⟨h', hm⟩ := h
  -- none of the fields that the leading ones depend on is the one that is added
  have hleading : leadingFields o.method o.uri h' = leadingFields o.method o.uri o.headers := by
    rw [leadingFields, leadingFields, hm.contains (by decide), hm.contains (by decide),
      hm.contains (by decide)]
  have hmore := hm.append (leadingFields o.method o.uri o.headers) []
  rw [List.append_nil, List.append_nil, ← hleading] at hmore
  rw [Outbound.withLeading, Outbound.withLeading]
  rw [hleading] at hmore ⊢
  exact .headers hmore

theorem ExtendedBy.withAuthorization (h : ExtendedBy "cookie" v o o') :
    ExtendedBy "cookie" v o.withAuthorization o'.withAuthorization := by
  obtain ⟨hm⟩ := h
  rw [Outbound.withAuthorization, Outbound.withAuthorization]
  dsimp only
  split
  · exact .headers hm
  · exact .headers (hm.put (by decide))

theorem ExtendedBy.finished (h : ExtendedBy "cookie" v o o') :
    ExtendedBy "cookie" v o.finished o'.finished :=
  h.withLength.withLeading.withAuthorization

def outgoing (prepared : Option Outbound) (jar : CookieJar) (now : Int) : List Outbound :=
  match prepared with
  | none => []
  | some o =>
    match o.complete jar now with
    | .ok o => [o]
    | .error _ => []

def Untouched (o : Outbound) (jar : CookieJar) (now : Int) : Prop :=
  jar.cookies = [] ∨
    o.uri.scheme ≠ "" ∧ (o.headers.contains "cookie" ∨ jar.cookiesFor now o = [])

theorem cookieAddress_of_scheme {u : Uri} (h : u.scheme ≠ "") : cookieAddress u = .ok () :=
  if_pos h

theorem field?_eq_none_iff : jar.field? now o = none ↔ jar.cookiesFor now o = [] := by
  rw [CookieJar.field?]
  cases jar.cookiesFor now o <;> simp

theorem withCookies_of_untouched (h : o.Untouched jar now) : o.withCookies jar now = .ok o := by
  rw [withCookies]
  by_cases hj : jar.cookies = []
  · rw [hj]
    rfl
  · obtain ⟨hscheme, h⟩ := h.resolve_left hj
    rw [if_neg (by simpa using hj), cookieAddress_of_scheme hscheme]
    cases hv : jar.field? now o with
    | none => rfl
    | some v =>
      have hne : jar.cookiesFor now o ≠ [] := by
        rw [Ne, ← field?_eq_none_iff, hv]
        exact Option.some_ne_none v
      have hnew : o.headers.putNew "cookie" v = o.headers := if_pos (h.resolve_right hne)
      simp only [Except.map, hnew]

theorem outgoing_of_untouched (h : o.Untouched jar now) :
    outgoing (some o) jar now = [o.finished] := by
  rw [outgoing, complete_eq, withCookies_of_untouched h]
  rfl

theorem outgoing_of_touched (h : ¬ o.Untouched jar now) :
    o.uri.scheme = "" ∧ outgoing (some o) jar now = [] ∨
      o.uri.scheme ≠ "" ∧ ∃ v o', jar.field? now o = some v ∧
        outgoing (some o) jar now = [o'] ∧ o.finished.ExtendedBy "cookie" v o' := by
  have hj : jar.cookies ≠ [] := fun hj => h (.inl hj)
  have hcookies : (jar.cookies.isEmpty) = false := by simpa using hj
  by_cases hscheme : o.uri.scheme = ""
  · refine .inl ⟨hscheme, ?_⟩
    have haddress : ∃ e, cookieAddress o.uri = .error e := by
      rw [cookieAddress, if_neg fun hne => hne hscheme]
      exact ⟨_, rfl⟩
    obtain ⟨e, he⟩ := haddress
    rw [outgoing, complete_eq, withCookies, hcookies, he]
    rfl
  · refine .inr ⟨hscheme, ?_⟩
    have hown : ¬ o.headers.contains "cookie" := fun hown => h (.inr ⟨hscheme, .inl hown⟩)
    cases hv : jar.field? now o with
    | none => exact absurd (.inr ⟨hscheme, .inr (field?_eq_none_iff.1 hv)⟩) h
    | some v =>
      have hextended : o.ExtendedBy "cookie" v
          { o with headers := o.headers.putNew "cookie" v } := by
        have hmore : Headers.OneMore "cookie" v _ _ := .between o.headers.fields []
        rw [Headers.putNew, if_neg hown]
        rw [List.append_nil] at hmore
        exact .headers hmore
      refine ⟨v, _, rfl, ?_, hextended.finished⟩
      rw [outgoing, complete_eq, withCookies, hcookies, cookieAddress_of_scheme hscheme, hv]
      rfl

theorem outgoing_eq_iff : outgoing (some o) jar now = [o.finished] ↔ o.Untouched jar now := by
  refine ⟨fun heq => ?_, outgoing_of_untouched⟩
  by_cases h : o.Untouched jar now
  · exact h
  · rcases outgoing_of_touched h with ⟨-, hnone⟩ | ⟨-, v, o', -, hsome, hextended⟩
    · rw [hnone] at heq
      cases heq
    · rw [hsome] at heq
      exact absurd (List.cons.inj heq).1 hextended.ne

end Outbound

end HttpGateway
