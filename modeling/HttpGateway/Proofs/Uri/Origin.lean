import HttpGateway.Proofs.Uri.HostName
import HttpGateway.Proofs.Uri.Named

namespace HttpGateway.Uri

open HttpGateway.Text

variable {u v origin : Uri} {shown host : String}

section Written

theorem shownName_of_shownHost (hmark : scriptMark <+: u.host.toList)
    (h : u.shownHost = .ok shown) : shownName u.host.toList = .ok shown.toList := by
  rw [shownHost, if_pos (List.isPrefixOf_iff_prefix.2 hmark), Outcome.map_eq_ok_iff] at h
  obtain ⟨cs, hcs, rfl⟩ := h
  rw [hcs, String.toList_ofList]

theorem writtenName_of_writtenHost (hmark : scriptMark <+: u.host.toList)
    (hshown : u.shownHost = .ok shown) (hw : writtenHost shown = .ok host) :
    (∃ labels last, Shown shown.toList labels last) ∧
      writtenName shown.toList = .ok host.toList := by
  have hname := shownName_of_shownHost hmark hshown
  obtain ⟨label, labels, last, hlabels, -⟩ := exists_labels_of_marked hmark
  obtain ⟨ls, -, hls⟩ := exists_shown hlabels hname
  obtain ⟨⟨c, hc, hlarge⟩, -⟩ := marked_of_written hmark hname
  refine ⟨⟨ls, last, hls⟩, ?_⟩
  have hcolon : ':' ∉ shown.toList := fun hmem =>
    absurd (hls.isNameChar ':' hmem) (by decide +kernel)
  have hascii : ¬ shown.toList.all (·.toNat < 128) := by
    intro hall
    exact absurd (of_decide_eq_true (List.all_eq_true.1 hall c hc)) (Nat.not_lt.2 hlarge)
  rw [writtenHost, if_neg (not_or.2 ⟨hcolon, hascii⟩)] at hw
  split at hw
  · rename_i written hwritten
    cases hw
    rw [hls.lower_eq hwritten] at hwritten
    rwa [String.toList_ofList]
  · cases hw

theorem shownHost_of_written (hmark : scriptMark <+: u.host.toList)
    (hshown : u.shownHost = .ok shown) (hw : writtenHost shown = .ok v.host) :
    v.shownHost = .ok shown := by
  obtain ⟨⟨labels, last, hls⟩, hname⟩ := writtenName_of_writtenHost hmark hshown hw
  have hmarked := (marked_of_written hmark (shownName_of_shownHost hmark hshown)).2 _ hname
  rw [shownHost, if_pos (List.isPrefixOf_iff_prefix.2 hmarked), hls.shownName_of_writtenName hname]
  exact congrArg Except.ok String.ofList_toList

theorem settledHost_of_written (hmark : scriptMark <+: u.host.toList)
    (hshown : u.shownHost = .ok shown) (hw : writtenHost shown = .ok host) :
    SettledHost host ∧ host.length ≤ 254 ∧ '%' ∉ host.toList := by
  obtain ⟨⟨labels, last, hls⟩, hname⟩ := writtenName_of_writtenHost hmark hshown hw
  have hmarked := (marked_of_written hmark (shownName_of_shownHost hmark hshown)).2 _ hname
  have hplain : ∀ c ∈ host.toList, hostSafe c ∧ c.toLower = c ∧ c ≠ '%' := by
    intro c hc
    rcases hls.isPlain_of_writtenName hname c hc with rfl | hplain
    · decide
    · exact ⟨hplain.facts.1, hplain.facts.2.1, hplain.facts.2.2.1⟩
  have hx : 'x' ∈ host.toList := hmarked.mem List.mem_cons_self
  refine ⟨.plain ?_ (fun c hc => (hplain c hc).1) (fun hip => ?_) fun _ => ?_, ?_,
    fun hmem => (hplain '%' hmem).2.2 rfl⟩
  · rintro rfl
    cases hx
  · exact absurd (isDigit_or_point_of_looksLikeIPv4 hip hx) (by decide)
  · exact lowerAscii_eq_self fun c hc => (hplain c hc).2.1
  · obtain ⟨-, -, -, -, hlength⟩ := hls.exists_written hname
    rwa [← String.length_toList]

@[simp]
theorem writtenHost_of_settled (h : SettledHost host) : writtenHost host = .ok host := by
  refine if_pos ?_
  cases h with
  | ipv6 hip => exact .inl (colon_mem_of_isIPv6 hip)
  | plain _ hsafe =>
    exact .inr (List.all_eq_true.2 fun c hc => decide_eq_true (hostSafe_ascii (hsafe c hc)))

end Written

structure Renders (u : Uri) (shown host : String) : Prop where
  shows : u.shownHost = .ok shown
  writes : writtenHost shown = .ok host

theorem length_bracketed_le (host : String) : (bracketed host).length ≤ host.length + 2 := by
  have hmarks : "[".length = 1 ∧ "]".length = 1 := by decide
  rw [bracketed]
  split
  · rw [String.length_append, String.length_append]
    omega
  · omega

namespace Renders

theorem eq_of_no_mark (h : u.Renders shown host) (hu : SettledHost u.host)
    (hmark : ¬ scriptMark <+: u.host.toList) : shown = u.host ∧ host = u.host := by
  obtain ⟨hshown, hwritten⟩ := h
  rw [shownHost_of_no_mark hmark] at hshown
  cases hshown
  rw [writtenHost_of_settled hu] at hwritten
  cases hwritten
  exact ⟨rfl, rfl⟩

theorem settled (h : origin.Renders shown host) (ho : origin.Settled) :
    ({ origin with host } : Uri).Settled := by
  have hhost : SettledHost host := by
    by_cases hmark : scriptMark <+: origin.host.toList
    · exact (settledHost_of_written hmark h.shows h.writes).1
    · rw [(h.eq_of_no_mark ho.host hmark).2]
      exact ho.host
  exact { ho with host := hhost }

theorem writes_host (h : origin.Renders shown host)
    (hmark : scriptMark <+: origin.host.toList) (hv : v.AtOrigin { origin with host }) :
    writtenHost shown = .ok v.host := by
  obtain ⟨-, -, hplain⟩ := settledHost_of_written hmark h.shows h.writes
  rw [h.writes, hv.plainHost hplain]

theorem fit (h : origin.Renders shown host) (ho : origin.Settled)
    (hfit : Fit (u.limitedFor { origin with host := shown })) :
    Fit (u.limitedFor { origin with host }) := by
  by_cases hmark : scriptMark <+: origin.host.toList
  · obtain ⟨hhost, hlength, -⟩ := settledHost_of_written hmark h.shows h.writes
    have hbracketed : (bracketed host).length ≤ lengthLimit :=
      Nat.le_trans (length_bracketed_le host) (Nat.le_trans (Nat.add_le_add_right hlength 2)
        (by decide))
    simp only [Fit, limitedFor, List.forall_mem_cons] at hfit ⊢
    obtain ⟨hscheme, hauthority, hpath, hquery, hfragment, -, hport⟩ := hfit
    exact ⟨hscheme, hauthority, hpath, hquery, hfragment, hbracketed, hport⟩
  · obtain ⟨rfl, rfl⟩ := h.eq_of_no_mark ho.host hmark
    exact hfit

end Renders

/-- An address that leads to the origin of another one. A host in another script is written anew and
is shown as before; the case of the digits in the escapes of a plain one may differ, and the port that
a scheme has anyway may be left out. -/
structure Reaches (u origin : Uri) : Prop where
  scheme : u.scheme = origin.scheme
  port : u.port = writtenPort origin.scheme origin.port
  plain : ¬ scriptMark <+: origin.host.toList → u.AtOrigin origin
  shown : scriptMark <+: origin.host.toList → u.shownHost = origin.shownHost
  written : scriptMark <+: origin.host.toList →
    ∃ shown, origin.shownHost = .ok shown ∧ writtenHost shown = .ok u.host

theorem withShownOrigin_eq (u origin : Uri) (shown : String) : u.withShownOrigin origin shown =
    checkLengths (u.limitedFor { origin with host := shown }) >>= fun _ =>
      writtenHost shown >>= fun host => u.withOrigin { origin with host } := rfl

/-- Whatever the address was, with the origin of another one as it is shown it leads there. -/
theorem reaches_of_withShownOrigin (ho : origin.Settled) (hshown : origin.shownHost = .ok shown)
    (h : u.withShownOrigin origin shown = .ok v) : v.Reaches origin ∧ v.isAbsolute := by
  rw [withShownOrigin_eq] at h
  obtain ⟨-, -, h⟩ := Outcome.bind_eq_ok_iff.1 h
  obtain ⟨host, hwritten, h⟩ := Outcome.bind_eq_ok_iff.1 h
  have hrenders : origin.Renders shown host := ⟨hshown, hwritten⟩
  have hsettled := hrenders.settled ho
  have horigin := atOrigin_of_withOrigin hsettled h
  refine ⟨⟨horigin.scheme, horigin.port, fun hmark => ?_, fun hmark => ?_, fun hmark => ?_⟩,
    horigin.isAbsolute hsettled⟩
  · rw [(hrenders.eq_of_no_mark ho.host hmark).2] at horigin
    exact horigin
  · rw [hshown]
    exact shownHost_of_written hmark hshown (hrenders.writes_host hmark horigin)
  · exact ⟨shown, hshown, hrenders.writes_host hmark horigin⟩

namespace Settled

theorem withShownOrigin_of_renders (hu : u.Settled) (ho : origin.Settled)
    (h : origin.Renders shown host) (hfit : Fit (u.limitedFor { origin with host := shown })) :
    u.withShownOrigin origin shown = .ok (u.moved { origin with host } u.path u.query) := by
  rw [withShownOrigin_eq, checkLengths_of_fit hfit, Outcome.ok_bind, h.writes, Outcome.ok_bind]
  exact hu.withOrigin_of_fit (h.settled ho) (h.fit ho hfit)

end Settled

end HttpGateway.Uri
