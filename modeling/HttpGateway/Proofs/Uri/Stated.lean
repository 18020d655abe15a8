import HttpGateway.Proofs.Uri.Named

namespace HttpGateway.Uri

open HttpGateway.Text

inductive StatedHost : String → Prop
  | name {h : String} : h ≠ "" → (∀ c ∈ h.toList, hostSafe c) → StatedHost h
  | ipv6 {a : String} : isIPv6 a.toList →
      (∀ c ∈ a.toList, (hexValue? c).isSome ∨ c = ':' ∨ c = '.') → StatedHost ("[" ++ a ++ "]")

def StatedBy (authority : String) (u : Uri) : Prop :=
  ∃ scheme tail : String, scheme.toList.head?.any Char.isAlpha ∧
    (∀ c ∈ scheme.toList, isSchemeChar c) ∧ (∀ c ∈ tail.toList.head?, c ∈ ['/', '?', '#']) ∧
    parse (scheme ++ "://" ++ authority ++ tail) = .ok u

variable {u u' : Uri} {h a authority : String} {port : Option Int}

theorem normalHost_of_statedBy (hu : u.StatedBy authority)
    (hmarks : ∀ mark ∈ ['/', '?', '#', '@'], mark ∉ authority.toList) :
    normalHost (String.ofList (cutHost authority.toList).1) = .ok u.host := by
  obtain ⟨scheme, tail, hhead, hscheme, htail, hparse⟩ := hu
  obtain ⟨-, -, hhost, -⟩ := Parts.normal_eq_ok (normal_of_parse hparse)
  rwa [(Parts.ofText_stated hhead hscheme hmarks htail).2] at hhost

theorem notMem_append_portText {mark : Char} (hmark : mark ∈ ['/', '?', '#', '@'])
    (h : mark ∉ a.toList) : mark ∉ (a ++ portText port).toList := by
  have hmarks : ∀ mark ∈ ['/', '?', '#', '@'], mark ∈ ['@', ']', '[', '/', '?', '#'] := by simp
  rw [String.toList_append, List.mem_append, not_or]
  exact ⟨h, notMem_portText (hmarks mark hmark)⟩

theorem host_of_name (hname : ∀ c ∈ h.toList, hostSafe c)
    (hu : u.StatedBy (h ++ portText port)) : u.host = Headers.lowerAscii h := by
  have hmarks : ∀ mark ∈ ['/', '?', '#', '@'], mark ∉ (h ++ portText port).toList :=
    fun mark hmark => notMem_append_portText hmark
      (notMem_of_hostSafe hname mark (List.mem_append_left _ hmark))
  have hcut := cutHost_of_name hname (head?_portText port) (notMem_portText (by decide))
  have hnormal := normalHost_of_statedBy hu hmarks
  rw [String.toList_append, hcut, String.ofList_toList] at hnormal
  exact normalHost_of_name hname hnormal

section IPv6

variable (hchars : ∀ c ∈ a.toList, (hexValue? c).isSome ∨ c = ':' ∨ c = '.')
include hchars

theorem notMem_of_ipv6 : ∀ mark ∈ ['/', '?', '#', '@', ']', 'x'], mark ∉ a.toList := by
  have hmarks : ∀ mark ∈ ['/', '?', '#', '@', ']', 'x'],
      ¬ ((hexValue? mark).isSome ∨ mark = ':' ∨ mark = '.') :=
    List.all_iff_forall_prop.1 (by decide)
  exact fun mark hmark hmem => hmarks mark hmark (hchars mark hmem)

theorem host_of_ipv6 (hip : isIPv6 a.toList) (hu : u.StatedBy ("[" ++ a ++ "]" ++ portText port)) :
    u.host = a := by
  have hinside := notMem_of_ipv6 hchars
  have hbracketed : bracketed a = "[" ++ a ++ "]" := if_pos (colon_mem_of_isIPv6 hip)
  have hsettled : SettledHost a := .ipv6 hip (hinside '@' (by decide))
  have hmarks : ∀ mark ∈ ['/', '?', '#', '@'],
      mark ∉ ("[" ++ a ++ "]" ++ portText port).toList := by
    have houtside : ∀ mark ∈ ['/', '?', '#', '@'], mark ≠ '[' ∧ mark ≠ ']' := by simp
    intro mark hmark
    refine notMem_append_portText hmark ?_
    simp [houtside mark hmark, hinside mark (List.mem_append_left [']', 'x'] hmark)]
  have hnormal := normalHost_of_statedBy hu hmarks
  rw [← hbracketed, cutHost_hostAndPort hsettled, String.ofList_toList,
    normalHost_bracketed hsettled, rehosted, if_pos (colon_mem_of_isIPv6 hip)] at hnormal
  exact (Except.ok.inj hnormal).symm

theorem shownHost_of_ipv6 (hu : u.host = a) : u.shownHost = .ok a := by
  rw [← hu]
  refine shownHost_of_no_mark fun hmark => notMem_of_ipv6 hchars 'x' (by decide) ?_
  rw [← hu]
  exact hmark.mem List.mem_cons_self

end IPv6

theorem host_of_stated {port' : Option Int} (hh : StatedHost h)
    (hu : u.StatedBy (h ++ portText port)) (hu' : u'.StatedBy (h ++ portText port')) :
    u.host = u'.host := by
  cases hh with
  | name hne hname => exact (host_of_name hname hu).trans (host_of_name hname hu').symm
  | ipv6 hip hchars => exact (host_of_ipv6 hchars hip hu).trans (host_of_ipv6 hchars hip hu').symm

theorem shownHost_congr (h : u.host = u'.host) : u.shownHost = u'.shownHost := by
  rw [shownHost, shownHost, h]

theorem StatedHost.ne_empty (hh : StatedHost h) : h ≠ "" := by
  cases hh with
  | name hne hname => exact hne
  | ipv6 hip hchars =>
    intro h
    have hlist := congrArg String.toList h
    simp at hlist

theorem StatedHost.ends (hh : StatedHost h) : h.toList.getLast? = some ']' ∨ ':' ∉ h.toList := by
  cases hh with
  | name hne hname => exact .inr (notMem_of_hostSafe hname ':' (by decide))
  | @ipv6 a hip hchars =>
    have hlist : ("[" ++ a ++ "]").toList = ('[' :: a.toList) ++ [']'] := by simp
    rw [hlist, List.getLast?_concat]
    exact .inl rfl

end HttpGateway.Uri
