import HttpGateway.Proofs.Builtin.PathEdits
import HttpGateway.Proofs.Uri.Query

/-!
Edits of query parameters. Each of them reads the whole query and writes it anew, so the address of
a request after some edits depends on the parameters that they leave and not on the way there.
-/

namespace HttpGateway

open HttpGateway.Text

namespace Uri

variable {u : Uri} {ps qs : Params}

def Params.written (ps : Params) : Option String := if ps.size = 0 then none else some ps.text

def requeried (u : Uri) (ps : Params) : Uri := u.moved u u.path ps.written

theorem Params.getD_written (ps : Params) : ps.written.getD "" = ps.text := by
  rw [written]
  split
  · rename_i hnone
    rw [text, pairs, List.length_eq_zero_iff.1 hnone]
    rfl
  · rfl

theorem Params.escaped_written (ps : Params) :
    ps.written.map (escaped querySafe) = ps.written := by
  rw [written]
  split
  · rfl
  · exact congrArg some (escaped_of_safe fun c hc => querySafe_of_mem_text hc)

theorem limited_written (u : Uri) (path : String) (ps : Params) :
    u.limited path ps.written = u.limited path (some ps.text) := by
  rw [limited, limited, ps.getD_written]
  rfl

theorem Settled.withParams_of_fit (h : u.Settled) (hfit : Fit (u.limited u.path (some ps.text))) :
    u.withParams ps = .ok (u.requeried ps) := by
  rw [← limited_written] at hfit
  rw [withParams, h.withQuery_eq]
  exact h.withPath_of_fit h.path.rooted hfit

theorem params_requeried (hps : ps.Grouped) (u : Uri) : (u.requeried ps).params = ps := by
  have hquery : (u.requeried ps).queryText = ps.text := by
    change (ps.written.map (escaped querySafe)).getD "" = ps.text
    rw [ps.escaped_written, ps.getD_written]
  rw [params, hquery, Params.ofQuery_text hps]

theorem Settled.requeried (h : u.Settled) (ps : Params) : (u.requeried ps).Settled :=
  h.moved h h.path.rooted ps.written

theorem Settled.path_requeried (h : u.Settled) (ps : Params) : (u.requeried ps).path = u.path := by
  change escaped pathSafe (flatten u.path) = u.path
  rw [h.path.flatten, h.path.escaped]

theorem Settled.requeried_requeried (h : u.Settled) (ps qs : Params) :
    (u.requeried ps).requeried qs = u.requeried qs := by
  rw [Uri.requeried, h.path_requeried]
  exact moved_moved u u.path u.path ps.written qs.written

theorem Settled.fit_requeried (h : u.Settled) (ps : Params)
    (hfit : Fit (u.limited u.path (some qs.text))) :
    Fit ((u.requeried ps).limited (u.requeried ps).path (some qs.text)) := by
  rw [h.path_requeried]
  -- no limit looks at the query that was there before
  change Fit ((u.moved u u.path (some qs.text)).limited u.path (some qs.text))
  exact fit_moved hfit (Nat.le_refl _) rfl

end Uri

namespace Request

variable {r r' : Request} {ps qs : Uri.Params}

structure QueryChanged (r r' : Request) : Prop where
  method : r'.method = r.method
  headers : r'.headers = r.headers
  content : r'.content = r.content
  origin : r'.uri.AtOrigin r.uri
  userinfo : r'.uri.userinfo = r.uri.userinfo
  path : r'.rawPath = r.rawPath
  fragment : r'.uri.fragment = r.uri.fragment

theorem queryChanged_requeried (h : r.uri.Settled) (ps : Uri.Params) :
    r.QueryChanged (r.withUri (r.uri.requeried ps)) := by
  refine ⟨rfl, rfl, rfl, Uri.atOrigin_of_rehosted h rfl rfl rfl, rfl, ?_, rfl⟩
  change (r.uri.requeried ps).rawPath = r.uri.rawPath
  rw [Uri.rawPath, h.path_requeried, Uri.rawPath]

end Request

namespace RequestEdit

variable {e e' : RequestEdit} {r : Request} {ps qs : Uri.Params}

theorem passesOn_of_newParams {uri : Uri} (he : e.newParams? r = some ps)
    (huri : r.uri.withParams ps = .ok uri) : Filter.PassesOn e.stage.filter r (r.withUri uri) := by
  intro next s x
  have hfilter : e.stage.filter next r = e.apply r >>= next :=
    congrFun (Builtin.Step.filter_request e next) r
  have hedited := outcome_apply_of_newParams he s x
  rw [huri] at hedited
  rw [hfilter]
  exact Serve.outcome_bind_ok hedited

theorem passesOn_requeried (hr : r.uri.Settled) (he : e.newParams? r = some ps)
    (hfit : r.TakesParams ps) :
    Filter.PassesOn e.stage.filter r (r.withUri (r.uri.requeried ps)) :=
  passesOn_of_newParams he (hr.withParams_of_fit hfit)

theorem passesOn_pair_requeried (hr : r.uri.Settled) (he : e.newParams? r = some ps)
    (he' : e'.newParams? (r.withUri (r.uri.requeried ps)) = some qs) (hps : r.TakesParams ps)
    (hqs : r.TakesParams qs) : Filter.PassesOn (Filter.chain [e.stage.filter, e'.stage.filter]) r
      (r.withUri (r.uri.requeried qs)) := by
  have hsecond := passesOn_requeried (hr.requeried ps) he' (hr.fit_requeried ps hqs)
  have hlast : (r.withUri (r.uri.requeried ps)).withUri ((r.uri.requeried ps).requeried qs) =
      r.withUri (r.uri.requeried qs) := by
    rw [hr.requeried_requeried]
    rfl
  exact (passesOn_requeried hr he hps).chain_pair (hlast ▸ hsecond)

/-- Adding values to a parameter and removing it change the query as one reads it and nothing else.
Edits of one name come to one edit. -/
theorem parameter_edits_in_query (hobtained : r.uri.Obtained) (habsolute : r.uri.isAbsolute)
    {name : String} {first second : List String}
    (hfirst : r.TakesParams (r.params.addAll name first))
    (hboth : r.TakesParams (r.params.addAll name (first ++ second)))
    (hnone : r.TakesParams (r.params.erase name)) : ∃ added both removed,
    Filter.PassesOn (addParameter name first).stage.filter r added ∧ r.QueryChanged added ∧
      added.params.valuesOf name = r.params.valuesOf name ++ first ∧
      (∀ other ≠ name, added.params.get? other = r.params.get? other) ∧
      Filter.PassesOn (removeParameter name).stage.filter r removed ∧ r.QueryChanged removed ∧
      removed.params.get? name = none ∧
      (∀ other ≠ name, removed.params.get? other = r.params.get? other) ∧
      Filter.PassesOn (addParameter name (first ++ second)).stage.filter r both ∧
      Filter.PassesOn (Filter.chain [(addParameter name first).stage.filter,
        (addParameter name second).stage.filter]) r both ∧
      Filter.PassesOn (Filter.chain [(addParameter name first).stage.filter,
        (removeParameter name).stage.filter]) r removed := by
  have hr : r.uri.Settled := hobtained.settled habsolute
  have hgrouped : r.params.Grouped := Uri.Params.grouped_ofQuery _
  have hadded : (r.uri.requeried (r.params.addAll name first)).params =
      r.params.addAll name first :=
    Uri.params_requeried (hgrouped.addAll name first) r.uri
  have hremoved : (r.uri.requeried (r.params.erase name)).params = r.params.erase name :=
    Uri.params_requeried (hgrouped.erase name) r.uri
  have hagain : (addParameter name second).newParams?
      (r.withUri (r.uri.requeried (r.params.addAll name first))) =
        some (r.params.addAll name (first ++ second)) := by
    change some (Uri.Params.addAll (r.uri.requeried _).params name second) = _
    rw [hadded, Uri.Params.addAll_addAll]
  have hback : (removeParameter name).newParams?
      (r.withUri (r.uri.requeried (r.params.addAll name first))) =
        some (r.params.erase name) := by
    change some (OrderedMap.erase (r.uri.requeried _).params name) = _
    rw [hadded, Uri.Params.erase_addAll]
  refine ⟨_, _, _, passesOn_requeried hr rfl hfirst, Request.queryChanged_requeried hr _, ?_, ?_,
    passesOn_requeried hr rfl hnone, Request.queryChanged_requeried hr _, ?_, ?_,
    passesOn_requeried hr rfl hboth, passesOn_pair_requeried hr rfl hagain hfirst hboth,
    passesOn_pair_requeried hr rfl hback hfirst hnone⟩
  · exact (congrArg (·.valuesOf name) hadded).trans (Uri.Params.valuesOf_addAll _ _ _)
  · intro other hother
    exact (congrArg (·.get? other) hadded).trans (Uri.Params.get?_addAll_of_ne hother first)
  · refine (congrArg (·.get? name) hremoved).trans ?_
    rw [OrderedMap.get?_erase, if_pos rfl]
  · intro other hother
    refine (congrArg (·.get? other) hremoved).trans ?_
    rw [OrderedMap.get?_erase, if_neg hother]

end RequestEdit

namespace Sample

open RequestEdit

def searchVisit : Request :=
  ⟨"GET", ⟨"http", "me", "gateway.local", some 8080, "/a%2Fb", some "n=a+b&n=&q=%26", some "top"⟩,
    .empty, ""⟩

def searchParams : Uri.Params := .ofPairs [("n", "a b"), ("q", "&"), ("n", "")]

theorem params_searchVisit : searchVisit.params = searchParams := by
  have htext : searchParams.text = "n=a+b&n=&q=%26" := by decide +kernel
  change Uri.Params.ofQuery "n=a+b&n=&q=%26" = searchParams
  rw [← htext]
  exact Uri.Params.ofQuery_text (Uri.Params.grouped_ofPairs _)

theorem parameter_edits_in_query_search : ∃ added removed,
    Filter.PassesOn (addParameter "n" ["&=+ %", "é", ""]).stage.filter searchVisit added ∧
      added.params.valuesOf "n" = ["a b", "", "&=+ %", "é", ""] ∧
      added.params.get? "q" = some ["&"] ∧
      Filter.PassesOn (Filter.chain [(addParameter "n" ["&=+ %", "é", ""]).stage.filter,
        (removeParameter "n").stage.filter]) searchVisit removed ∧
      removed.params.get? "n" = none ∧ removed.params.get? "q" = some ["&"] := by
  have hparse : Uri.parse "http://me@gateway.local:8080/a%2Fb?n=a+b&n=&q=%26#top" =
      .ok searchVisit.uri := by
    rfl
  have hfirst : searchVisit.TakesParams (searchVisit.params.addAll "n" ["&=+ %", "é", ""]) := by
    rw [params_searchVisit, Request.TakesParams]
    decide +kernel
  have hboth : searchVisit.TakesParams
      (searchVisit.params.addAll "n" (["&=+ %", "é", ""] ++ ["z"])) := by
    rw [params_searchVisit, Request.TakesParams]
    decide +kernel
  have hnone : searchVisit.TakesParams (searchVisit.params.erase "n") := by
    rw [params_searchVisit, Request.TakesParams]
    decide +kernel
  obtain ⟨added, both, removed, hadd, -, hvalues, hothers, -, -, hgone, hleft, -, -, hremove⟩ :=
    parameter_edits_in_query (.read hparse) (by decide) hfirst hboth hnone
  rw [params_searchVisit] at hvalues hothers hleft
  exact ⟨added, removed, hadd, hvalues, hothers "q" (by decide), hremove, hgone,
    hleft "q" (by decide)⟩

def shoutedVisit : Request :=
  ⟨"GET", ⟨"http", "", "a%5Eb", some 80, "/", none, none⟩, .empty, ""⟩

theorem addParameter_changes_origin : ∃ r r', Request.build "GET" "HTTP://a^b:80/" [] "" = .ok r ∧
    r.uri.isAbsolute ∧ Filter.PassesOn (addParameter "n" ["v"]).stage.filter r r' ∧
    r'.uri.host ≠ r.uri.host ∧ r'.uri.port ≠ r.uri.port := by
  have hquery : (addParameter "n" ["v"]).newParams? shoutedVisit =
      some (.ofPairs [("n", "v")]) := by
    rfl
  have huri : shoutedVisit.uri.withParams (.ofPairs [("n", "v")]) =
      .ok ⟨"http", "", "a%5eb", none, "/", some "n=v", none⟩ := by
    rfl
  exact ⟨shoutedVisit, _, by rfl, by decide, passesOn_of_newParams hquery huri, by decide, by decide⟩

end Sample

end HttpGateway
