import HttpGateway.Proofs.Uri.Settled
import HttpGateway.Uri.HostName
import Mathlib.Data.List.TakeWhile

namespace HttpGateway.Uri

open HttpGateway.Text

variable {scheme name host : String} {u : Uri}

theorem hostSafe_of_isUnreserved {c : Char} (h : isUnreserved c) : hostSafe c := by
  rw [hostSafe, h, Bool.true_or]

theorem cutScheme_append {scheme : List Char} (hhead : scheme.head?.any Char.isAlpha)
    (hscheme : ∀ c ∈ scheme, isSchemeChar c) (rest : List Char) :
    cutScheme (scheme ++ ':' :: rest) = (scheme, rest) := by
  have hfirst : (scheme ++ ':' :: rest).head?.any Char.isAlpha := by
    cases scheme with
    | nil => cases hhead
    | cons c scheme => exact hhead
  have hcolon : ¬ isSchemeChar ':' := by decide
  have htake : (scheme ++ ':' :: rest).takeWhile isSchemeChar = scheme := by
    rw [List.takeWhile_append_of_pos hscheme, List.takeWhile_cons_of_neg hcolon, List.append_nil]
  rw [cutScheme, if_pos hfirst, htake]
  simp only [List.drop_left]

theorem cutAuthority_append {authority tail : List Char}
    (hauthority : ∀ mark ∈ ['/', '?', '#'], mark ∉ authority)
    (htail : ∀ c ∈ tail.head?, c ∈ ['/', '?', '#']) :
    cutAuthority ('/' :: '/' :: (authority ++ tail)) = (authority, tail) := by
  have hgo : ∀ c ∈ authority, (c != '/' && c != '?' && c != '#') = true := by
    intro c hc
    have hne : ∀ mark ∈ ['/', '?', '#'], c ≠ mark := fun mark hmark heq =>
      hauthority mark hmark (heq ▸ hc)
    simp [hne]
  have hstop : tail.takeWhile (fun c => c != '/' && c != '?' && c != '#') = [] ∧
      tail.dropWhile (fun c => c != '/' && c != '?' && c != '#') = tail := by
    cases tail with
    | nil => exact ⟨rfl, rfl⟩
    | cons c tail =>
      have hc : ¬ (c != '/' && c != '?' && c != '#') = true := by
        have hmark := htail c rfl
        revert hmark
        simp
        tauto
      exact ⟨List.takeWhile_cons_of_neg hc, List.dropWhile_cons_of_neg hc⟩
  rw [cutAuthority, List.takeWhile_append_of_pos hgo, List.dropWhile_append_of_pos hgo, hstop.1,
    hstop.2, List.append_nil]

theorem Parts.ofText_stated {authority tail : String} (hhead : scheme.toList.head?.any Char.isAlpha)
    (hscheme : ∀ c ∈ scheme.toList, isSchemeChar c)
    (hauthority : ∀ mark ∈ ['/', '?', '#', '@'], mark ∉ authority.toList)
    (htail : ∀ c ∈ tail.toList.head?, c ∈ ['/', '?', '#']) :
    (Parts.ofText (scheme ++ "://" ++ authority ++ tail)).scheme = scheme ∧
      (Parts.ofText (scheme ++ "://" ++ authority ++ tail)).host =
        String.ofList (cutHost authority.toList).1 := by
  have hcs : (scheme ++ "://" ++ authority ++ tail).toList =
      scheme.toList ++ ':' :: '/' :: '/' :: (authority.toList ++ tail.toList) := by
    simp
  have hcut := cutAuthority_append
    (fun mark hmark => hauthority mark (List.mem_append_left ['@'] hmark)) htail
  rw [Parts.ofText, hcs, cutScheme_append hhead hscheme]
  simp only [hcut, cutHostAndUser, cutLast_of_notMem (hauthority '@' (by decide)),
    String.ofList_toList, and_self]

theorem normalHost_of_name (h : ∀ c ∈ name.toList, hostSafe c)
    (hhost : normalHost name = .ok host) : host = Headers.lowerAscii name := by
  by_cases hne : name = ""
  · rw [hne] at hhost ⊢
    cases hhost
    rfl
  · have hip : looksLikeIPv4 name.toList → isIPv4 name.toList := by
      intro hlooks
      by_contra hip
      have hcs : name.toList ≠ [] := fun h => hne (String.toList_inj.1 h)
      rw [normalHost, if_neg hcs, if_pos hlooks, if_neg hip] at hhost
      cases hhost
    rw [normalHost_of_safe hne h hip] at hhost
    exact (Except.ok.inj hhost).symm

theorem host_of_parse_named (hhead : scheme.toList.head?.any Char.isAlpha)
    (hscheme : ∀ c ∈ scheme.toList, isSchemeChar c) (hname : ∀ c ∈ name.toList, isUnreserved c)
    (h : parse (scheme ++ "://" ++ name) = .ok u) :
    u.scheme = lower scheme ∧ u.host = Headers.lowerAscii name := by
  have hsafe : ∀ c ∈ name.toList, hostSafe c := fun c hc => hostSafe_of_isUnreserved (hname c hc)
  have hmarks : ∀ mark ∈ ['/', '?', '#', '@'], mark ∉ name.toList := fun mark hmark =>
    notMem_of_hostSafe hsafe mark (List.mem_append_left _ hmark)
  have hnone : ∀ c ∈ "".toList.head?, c ∈ ['/', '?', '#'] := by simp
  have hparts := Parts.ofText_stated hhead hscheme hmarks hnone
  have hcut : cutHost (name.toList ++ []) = (name.toList, some (behindColon [])) :=
    cutHost_of_name hsafe rfl List.not_mem_nil
  have hnormal := normal_of_parse h
  rw [String.append_empty] at hparts
  rw [List.append_nil] at hcut
  obtain ⟨hu, -, hhost, -⟩ := Parts.normal_eq_ok hnormal
  rw [hparts.2, hcut, String.ofList_toList] at hhost
  rw [hparts.1] at hu
  exact ⟨hu, normalHost_of_name hsafe hhost⟩

theorem shownHost_of_no_mark (h : ¬ scriptMark <+: u.host.toList) : u.shownHost = .ok u.host := by
  rw [shownHost, if_neg]
  rwa [List.isPrefixOf_iff_prefix]

end HttpGateway.Uri
