import HttpGateway.Builtin.Handlers
import HttpGateway.Proofs.Client.Completion
import HttpGateway.Proofs.Serving
import HttpGateway.Proofs.Uri.Origin

namespace HttpGateway

open HttpGateway.Text

def Exchange.keepsHost (x : Exchange) : Bool :=
  ((x.attributes.get? keepHostAttribute).map Value.holds).getD false

def Exchange.announced (x : Exchange) (method : String) (uri : Uri) : Exchange :=
  { x with journal := x.journal ++ [.logged .debug ("Forwarding " ++ method ++ " " ++ uri.text)] }

@[simp]
theorem Exchange.sent_announced (x : Exchange) (method : String) (uri : Uri) :
    (x.announced method uri).sent = x.sent := by
  simp [announced, sent, Event.sent?]

namespace Request

def passedFields (r : Request) (keepHost : Bool) : List (String × String) :=
  r.headers.lowered.filter fun f => !hopFields.contains f.1 && (keepHost || f.1 != "host")

/-- A request that can go to a destination: the host of the destination can be shown and written
again, the fields that are passed on are ASCII texts, and no part of the address is too long. -/
structure Deliverable (r : Request) (d : Uri) : Prop where
  named : ∃ shown host, d.Renders shown host ∧
    Uri.Fit (r.uri.limitedFor { d with host := shown })
  ascii : ∀ f ∈ r.headers.lowered, f.1 ∉ hopFields → Headers.isAscii f.1 ∧ Headers.isAscii f.2

/-- What is sent for a request: to the origin of the destination, with the path, the query, the
method, the content and the fields of the request. -/
structure SentTo (usual : Headers) (d : Uri) (r : Request) (keepHost : Bool) (o : Outbound) :
    Prop where
  origin : o.uri.Reaches d
  path : o.uri.path = r.uri.path
  query : o.uri.query = r.uri.query
  method : o.method = r.method
  content : o.content = r.content
  headers : Headers.Wrapped (Outbound.clientFields usual) ⟨r.passedFields keepHost⟩ o.headers

variable {r : Request} {d : Uri} {s : Surroundings} {x : Exchange}

theorem forwardedHeaders?_of_ascii
    (h : ∀ f ∈ r.headers.lowered, f.1 ∉ hopFields → Headers.isAscii f.1 ∧ Headers.isAscii f.2)
    (keepHost : Bool) : r.forwardedHeaders? keepHost = some ⟨r.passedFields keepHost⟩ := by
  have hplain : (Headers.mk (r.headers.lowered.filter fun f => !hopFields.contains f.1)).plain := by
    refine List.all_eq_true.2 fun f hf => ?_
    rw [List.mem_filter, Bool.not_eq_true', ← Bool.not_eq_true, List.contains_iff_mem] at hf
    rw [Bool.and_eq_true]
    exact h f hf.1 hf.2
  rw [forwardedHeaders?, Headers.ofFields?, if_pos hplain, Option.map_some, passedFields]
  cases keepHost with
  | true => simp
  | false =>
    have hhost : lower "host" = "host" := by decide +kernel
    have hlowered : ∀ f ∈ r.headers.lowered, Headers.lowerAscii f.1 = f.1 := by
      refine List.forall_mem_map.2 fun f _ => ?_
      exact lowerAscii_lowerAscii f.1
    simp only [Bool.false_eq_true, if_false, Bool.false_or, Headers.erase, Headers.eraseKey, hhost,
      List.filter_filter]
    congr 2
    refine List.filter_congr fun f hf => ?_
    rw [hlowered f hf, Bool.and_comm]

theorem outcome_forward (hd : x.attributes.get? destinationAttribute = some (.uri d)) :
    r.forward.outcome s x = match d.shownHost with
      | .error e => (.error (.badHostName e), x)
      | .ok shown => match r.uri.withShownOrigin d shown with
        | .error e => (.error (.badUri e), x)
        | .ok uri => match r.forwardedHeaders? x.keepsHost with
          | none => (.error .notAscii, x)
          | some headers => (Serve.lift .badUri (Outbound.target uri) >>= fun target =>
              Outbound.send ⟨r.method, target, headers, r.content⟩).outcome s
                (x.announced r.method uri) := by
  have hkeep : ((x.attributes.get? keepHostAttribute).map Value.holds).getD false = x.keepsHost :=
    rfl
  cases hshown : d.shownHost with
  | error e => simp [forward, hd, hshown]
  | ok shown =>
    cases huri : r.uri.withShownOrigin d shown with
    | error e => simp [forward, hd, hshown, huri]
    | ok uri =>
      cases hheaders : r.forwardedHeaders? x.keepsHost with
      | none => simp [forward, hd, hshown, huri, hkeep, hheaders]
      | some headers => simp [forward, hd, hshown, huri, hkeep, hheaders, Exchange.announced]

theorem exists_sent_of_withShownOrigin
    (hd : x.attributes.get? destinationAttribute = some (.uri d)) (ho : d.Settled) {shown : String}
    (hshown : d.shownHost = .ok shown) {uri : Uri} (huri : r.uri.withShownOrigin d shown = .ok uri)
    {headers : Headers} (hheaders : r.forwardedHeaders? x.keepsHost = some headers) :
    ∃ o, (r.forward.outcome s x).2.sent = x.sent ++ [o] ∧ o.uri = uri ∧
      (∀ a, (r.forward.outcome s x).1 = .ok a → s.backend o = .ok a) ∧
      (uri.userinfo = "" →
        Outbound.CompletedTo s.usual.headers ⟨r.method, uri, headers, r.content⟩ o) := by
  obtain ⟨hreaches, habsolute⟩ := Uri.reaches_of_withShownOrigin ho hshown huri
  -- an absolute address is taken by the client as it is
  have htarget : Outbound.target uri = .ok uri := if_pos habsolute
  have hscheme : uri.scheme ≠ "" := by
    rw [hreaches.scheme]
    exact ho.schemed
  obtain ⟨o, hcomplete, houri, hcompleted⟩ := Outbound.exists_complete
    (o := ⟨r.method, uri, headers, r.content⟩) hscheme s.usual.headers x.jar s.clock
  have houtcome : r.forward.outcome s x =
      (Outbound.send ⟨r.method, uri, headers, r.content⟩).outcome s (x.announced r.method uri) := by
    simp [outcome_forward hd, hshown, huri, hheaders, htarget]
  refine ⟨o, ?_, houri, fun a ha => ?_, hcompleted⟩
  · have hsent := Serve.sent_send (x := x.announced r.method uri) hcomplete
    rw [x.sent_announced] at hsent
    rw [houtcome]
    exact hsent
  · rw [houtcome] at ha
    exact Serve.backend_of_send (x := x.announced r.method uri) hcomplete ha

theorem sent_or_failed (hd : x.attributes.get? destinationAttribute = some (.uri d))
    (ho : d.Settled) :
    (∃ o, (r.forward.outcome s x).2.sent = x.sent ++ [o] ∧ o.uri.Reaches d ∧
      ∀ a, (r.forward.outcome s x).1 = .ok a → s.backend o = .ok a) ∨
    ∃ f, r.forward.outcome s x = (.error f, x) := by
  have houtcome := outcome_forward (r := r) (s := s) hd
  cases hshown : d.shownHost with
  | error e =>
    rw [hshown] at houtcome
    exact .inr ⟨_, houtcome⟩
  | ok shown =>
    cases huri : r.uri.withShownOrigin d shown with
    | error e =>
      simp only [hshown, huri] at houtcome
      exact .inr ⟨_, houtcome⟩
    | ok uri =>
      cases hheaders : r.forwardedHeaders? x.keepsHost with
      | none =>
        simp only [hshown, huri, hheaders] at houtcome
        exact .inr ⟨_, houtcome⟩
      | some headers =>
        obtain ⟨o, hsent, houri, hbackend, -⟩ :=
          exists_sent_of_withShownOrigin (s := s) hd ho hshown huri hheaders
        refine .inl ⟨o, hsent, ?_, hbackend⟩
        rw [houri]
        exact (Uri.reaches_of_withShownOrigin ho hshown huri).1

theorem exists_sent (hd : x.attributes.get? destinationAttribute = some (.uri d))
    (hr : r.uri.Settled) (huser : r.uri.userinfo = "") (ho : d.Settled)
    (hdeliverable : r.Deliverable d) :
    ∃ o, (r.forward.outcome s x).2.sent = x.sent ++ [o] ∧
      r.SentTo s.usual.headers d x.keepsHost o := by
  obtain ⟨⟨shown, host, hrenders, hfit⟩, hascii⟩ := hdeliverable
  have hmoved := hr.withShownOrigin_of_renders ho hrenders hfit
  obtain ⟨horigin, -⟩ := Uri.reaches_of_withShownOrigin ho hrenders.shows hmoved
  rw [hr.moved_eq] at hmoved horigin
  obtain ⟨o, hsent, houri, -, hcompleted⟩ := exists_sent_of_withShownOrigin (s := s) hd ho
    hrenders.shows hmoved (forwardedHeaders?_of_ascii hascii x.keepsHost)
  have hcompleted := hcompleted huser
  refine ⟨o, hsent, ?_, ?_, ?_, hcompleted.method, hcompleted.content, hcompleted.headers⟩
  · rwa [houri]
  · rw [houri]
  · rw [houri]

end Request

end HttpGateway
