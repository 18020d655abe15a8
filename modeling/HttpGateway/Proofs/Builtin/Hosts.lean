import HttpGateway.Builtin.Predicates
import HttpGateway.Proofs.Message.Headers
import HttpGateway.Proofs.Uri.Stated

/-!
The host that a request is for. It is named in the `Host` field or by the address, with a port or
without one. A port is cut off at the last colon, which in an address of the sixth version that
stands without its brackets is a colon of the host.
-/

namespace HttpGateway

open HttpGateway.Text HttpGateway.Pattern

namespace Request

def NamesHost (h : String) (r : Request) : Prop :=
  ∃ port, r.headers.values "host" = [h ++ Uri.portText port]

def LeadsToHost (h : String) (r : Request) : Prop :=
  r.headers.values "host" = [] ∧ ∃ port, r.uri.StatedBy (h ++ Uri.portText port)

end Request

namespace Condition

variable {h before last pattern : String} {r r' : Request} {now : Int}

def hostMatches (pattern host : String) : Bool :=
  segmentsMatch (segments '.' (lower pattern)) (segments '.' (lower host))

theorem holds_host (now : Int) (r : Request) (pattern : String) :
    (host pattern).holds now r = (requestHost r).map (hostMatches pattern) := rfl

theorem withoutPort_eq_self (hh : h.toList.getLast? = some ']' ∨ ':' ∉ h.toList) :
    withoutPort h = h := by
  rw [withoutPort]
  rcases hh with hclose | hcolon
  · rw [if_pos hclose]
  · rw [cutLast_of_notMem hcolon, ite_self]

theorem withoutPort_append (hcolon : ':' ∉ last.toList) (hclose : ']' ∉ last.toList) :
    withoutPort (before ++ ":" ++ last) = before := by
  have hlist : (before ++ ":" ++ last).toList = before.toList ++ ':' :: last.toList := by simp
  have hends : (before.toList ++ ':' :: last.toList).getLast? ≠ some ']' := by
    rw [List.getLast?_append_of_ne_nil _ (List.cons_ne_nil _ _)]
    intro h
    rcases List.mem_cons.1 (List.mem_of_getLast? h) with h | h
    · exact absurd h (by decide)
    · exact hclose h
  rw [withoutPort, hlist, if_neg hends, cutLast_append _ hcolon]
  exact String.ofList_toList

theorem withoutPort_append_portText (hh : h.toList.getLast? = some ']' ∨ ':' ∉ h.toList)
    (port : Option Int) : withoutPort (h ++ Uri.portText port) = h := by
  cases port with
  | none =>
    have hnone : h ++ Uri.portText none = h := String.append_empty
    rw [hnone, withoutPort_eq_self hh]
  | some n =>
    have hcolon : ':' ∉ (Whole.text n).toList := Whole.notMem_text (by decide) (by decide) n
    have hclose : ']' ∉ (Whole.text n).toList := Whole.notMem_text (by decide) (by decide) n
    have hsome : h ++ Uri.portText (some n) = h ++ ":" ++ Whole.text n := String.append_assoc.symm
    rw [hsome, withoutPort_append hcolon hclose]

theorem requestHost_of_names (hh : Uri.StatedHost h) (hr : r.NamesHost h) :
    requestHost r = .ok h := by
  obtain ⟨port, hvalues⟩ := hr
  have hget : (r.headers.get? "host").getD "" = h ++ Uri.portText port := by
    rw [Headers.get?, hvalues]
    change Headers.joined [h ++ Uri.portText port] = _
    rw [Headers.joined, String.intercalate_singleton]
  have hne : h ++ Uri.portText port ≠ "" := by
    intro hempty
    exact hh.ne_empty (String.append_eq_empty_iff.1 hempty).1
  rw [requestHost, hget]
  simp only [if_neg hne, Except.map, withoutPort_append_portText hh.ends]

theorem requestHost_of_leadsTo (hr : r.LeadsToHost h) :
    requestHost r = (r.uri.shownHost.mapError .badHostName).map withoutPort := by
  have hget : (r.headers.get? "host").getD "" = "" := by
    rw [Headers.get?, hr.1]
    rfl
  rw [requestHost, hget]
  rfl

theorem lower_lowerAscii (hname : ∀ c ∈ h.toList, Uri.hostSafe c) :
    lower (Headers.lowerAscii h) = lower h := by
  have hascii : ∀ c ∈ (Headers.lowerAscii h).toList, c.toNat < 128 := fun c hc =>
    Uri.hostSafe_ascii (Uri.hostSafe_lowerAscii hname c hc)
  rw [lower_ascii hascii, lowerAscii_lowerAscii,
    lower_ascii fun c hc => Uri.hostSafe_ascii (hname c hc)]

theorem holds_host_of_name (hname : ∀ c ∈ h.toList, Uri.hostSafe c)
    (hplain : ¬ Uri.scriptMark <+: (Headers.lowerAscii h).toList) (hr : r.LeadsToHost h) :
    (host pattern).holds now r = .ok (hostMatches pattern h) := by
  obtain ⟨port, huri⟩ := hr.2
  have hhost := Uri.host_of_name hname huri
  have hcolon : ':' ∉ (Headers.lowerAscii h).toList :=
    Uri.notMem_of_hostSafe (Uri.hostSafe_lowerAscii hname) ':' (by decide)
  rw [holds_host, requestHost_of_leadsTo hr, Uri.shownHost_of_no_mark (hhost ▸ hplain), hhost]
  simp only [Except.mapError, Except.map, withoutPort_eq_self (.inr hcolon), hostMatches,
    lower_lowerAscii hname]

theorem holds_host_of_ipv6 (hh : Uri.StatedHost ("[" ++ (before ++ ":" ++ last) ++ "]"))
    (hcolon : ':' ∉ last.toList) (hr : r.LeadsToHost ("[" ++ (before ++ ":" ++ last) ++ "]")) :
    (host pattern).holds now r = .ok (hostMatches pattern before) := by
  obtain ⟨port, huri⟩ := hr.2
  generalize htext : "[" ++ (before ++ ":" ++ last) ++ "]" = text at hh huri hr
  cases hh with
  | name hne hname =>
    have hopen : '[' ∈ text.toList := by simp [← htext]
    exact absurd hopen (Uri.notMem_of_hostSafe hname '[' (by decide))
  | @ipv6 a hip hchars =>
    have ha : a = before ++ ":" ++ last := by simpa using htext.symm
    have hclose : ']' ∉ last.toList := by
      have hinside := Uri.notMem_of_ipv6 hchars ']' (by decide)
      rw [ha] at hinside
      simp_all
    have hshown := Uri.shownHost_of_ipv6 hchars (Uri.host_of_ipv6 hchars hip huri)
    rw [holds_host, requestHost_of_leadsTo hr, hshown, ha]
    simp only [Except.mapError, Except.map, withoutPort_append hcolon hclose]

/-- Requests whose `Host` field names one host are alike, and so are requests whose addresses lead
to one host, whatever the port. The two kinds are alike for a name, unless it is shown in another
script; of an address in brackets the second kind misses the last group. -/
theorem holds_host_of_stated (hh : Uri.StatedHost h) (pattern : String) (now : Int) :
    (∀ r, r.NamesHost h → (host pattern).holds now r = .ok (hostMatches pattern h)) ∧
    (∀ r r', r.LeadsToHost h → r'.LeadsToHost h →
      (host pattern).holds now r = (host pattern).holds now r') ∧
    (∀ r, r.LeadsToHost h → '[' ∉ h.toList →
      ¬ Uri.scriptMark <+: (Headers.lowerAscii h).toList →
      (host pattern).holds now r = .ok (hostMatches pattern h)) ∧
    (∀ r before last, r.LeadsToHost h → h = "[" ++ (before ++ ":" ++ last) ++ "]" →
      ':' ∉ last.toList → (host pattern).holds now r = .ok (hostMatches pattern before)) := by
  refine ⟨?_, ?_, ?_, ?_⟩
  · intro r hr
    rw [holds_host, requestHost_of_names hh hr]
    rfl
  · intro r r' hr hr'
    obtain ⟨port, huri⟩ := hr.2
    obtain ⟨port', huri'⟩ := hr'.2
    rw [holds_host, holds_host, requestHost_of_leadsTo hr, requestHost_of_leadsTo hr',
      Uri.shownHost_congr (Uri.host_of_stated hh huri huri')]
  · intro r hr hopen hplain
    cases hh with
    | name hne hname => exact holds_host_of_name hname hplain hr
    | ipv6 hip hchars => exact absurd (by simp) hopen
  · rintro r before last hr rfl hcolon
    exact holds_host_of_ipv6 hh hcolon hr

end Condition

namespace Sample

open Condition

def hostVisit (uri : Uri) (fields : List (String × String)) : Request := ⟨"GET", uri, ⟨fields⟩, ""⟩

def gatewayUri : Uri := ⟨"http", "", "gateway.local", none, "/", none, none⟩

def namedNumeric : Request := hostVisit gatewayUri [("Host", "[2001:db8::1]:8080")]

def addressedNumeric : Request :=
  hostVisit ⟨"http", "", "2001:db8::1", some 8080, "/", none, none⟩ []

theorem statedHost_numeric : Uri.StatedHost ("[" ++ "2001:db8::1" ++ "]") :=
  .ipv6 (by decide) (List.all_iff_forall_prop.1 (by decide))

theorem namedNumeric_names : namedNumeric.NamesHost "[2001:db8::1]" := ⟨some 8080, by rfl⟩

theorem addressedNumeric_leads : addressedNumeric.LeadsToHost "[2001:db8::1]" :=
  ⟨by rfl, some 8080, "http", "/", by decide, List.all_eq_true.1 (by decide), by simp, by rfl⟩

theorem holds_host_of_stated_numeric :
    (host "*db8::1*").holds 0 namedNumeric = .ok (hostMatches "*db8::1*" "[2001:db8::1]") ∧
      (host "*db8::1*").holds 0 addressedNumeric = .ok (hostMatches "*db8::1*" "2001:db8:") ∧
      (host "**.example.org").holds 0 (hostVisit gatewayUri [("host", "Api.Example.org:8443")]) =
        (host "**.example.org").holds 0
          (hostVisit ⟨"https", "", "api.example.org", some 8443, "", none, none⟩ []) := by
  have hname : Uri.StatedHost "Api.Example.org" :=
    .name (by decide) (List.all_eq_true.1 (by decide))
  have hled : (hostVisit ⟨"https", "", "api.example.org", some 8443, "", none, none⟩ []).LeadsToHost
      "Api.Example.org" :=
    ⟨by rfl, some 8443, "HTTPS", "", by decide, List.all_eq_true.1 (by decide), by simp, by rfl⟩
  obtain ⟨hnumericNamed, -, -, hnumeric⟩ := holds_host_of_stated statedHost_numeric "*db8::1*" 0
  obtain ⟨hnamed, -, haddressed, -⟩ := holds_host_of_stated hname "**.example.org" 0
  refine ⟨hnumericNamed _ namedNumeric_names,
    hnumeric _ "2001:db8:" "1" addressedNumeric_leads (by rfl) (by decide), ?_⟩
  rw [hnamed _ ⟨some 8443, by rfl⟩, haddressed _ hled (by decide) (by decide)]

theorem host_verdicts_differ : ∃ h pattern named addressed, Uri.StatedHost h ∧
    named.NamesHost h ∧ addressed.LeadsToHost h ∧
    (host pattern).holds 0 named = .ok true ∧ (host pattern).holds 0 addressed = .ok false := by
  refine ⟨"[2001:db8::1]", "*db8::1*", namedNumeric, addressedNumeric, statedHost_numeric,
    namedNumeric_names, addressedNumeric_leads, ?_, ?_⟩
  · rw [holds_host, requestHost_of_names statedHost_numeric namedNumeric_names]
    have hmatches : hostMatches "*db8::1*" "[2001:db8::1]" := by decide +kernel
    exact congrArg Except.ok hmatches
  · have hleads : addressedNumeric.LeadsToHost ("[" ++ ("2001:db8:" ++ ":" ++ "1") ++ "]") :=
      addressedNumeric_leads
    have hmatches : hostMatches "*db8::1*" "2001:db8:" = false := by decide +kernel
    exact (holds_host_of_ipv6 statedHost_numeric (by decide) hleads).trans
      (congrArg Except.ok hmatches)

end Sample

end HttpGateway
