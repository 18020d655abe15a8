import HttpGateway.Proofs.Uri.Settled

/-!
Addresses that take another path more than once. What the first change normalises stays for the
later ones, so that only the last path counts, and no part gets longer.
-/

namespace HttpGateway.Uri

open HttpGateway.Text

@[simp]
theorem rehosted_rehosted (host : String) : rehosted (rehosted host) = rehosted host := by
  by_cases h : ':' ∈ host.toList
  · simp [rehosted, h]
  · have hlower : rehosted host = Headers.lowerAscii host := if_neg h
    rw [hlower, rehosted]
    split
    · rfl
    · exact lowerAscii_lowerAscii host

@[simp]
theorem writtenPort_writtenPort (scheme : String) (port : Option Int) :
    writtenPort scheme (writtenPort scheme port) = writtenPort scheme port := by
  simp [writtenPort]

theorem moved_moved (u : Uri) (path path' : String) (query query' : Option String) :
    (u.moved u path query).moved (u.moved u path query) path' query' = u.moved u path' query' := by
  simp only [moved, rehosted_rehosted, writtenPort_writtenPort]

/-- What an address may lose of its origin when it takes another path: the case of the digits in the
escapes of a host, and a port that the scheme has anyway. -/
structure SameElsewhere (u v : Uri) : Prop where
  scheme : v.scheme = u.scheme
  userinfo : v.userinfo = u.userinfo
  host : v.host = u.host ∨ '%' ∈ u.host.toList ∧ v.host = Headers.lowerAscii u.host
  port : v.port = u.port ∨ u.port = defaultPort u.scheme ∧ v.port = none
  query : v.queryText = u.queryText
  fragment : v.fragment = u.fragment

theorem rehosted_of_settled {host : String} (h : SettledHost host) :
    rehosted host = host ∨ '%' ∈ host.toList ∧ rehosted host = Headers.lowerAscii host := by
  cases h with
  | ipv6 hip =>
    left
    exact if_pos (colon_mem_of_isIPv6 hip)
  | plain _ hsafe _ hlower =>
    have hrehosted : rehosted host = Headers.lowerAscii host :=
      if_neg (SettledHost.colon_notMem hsafe)
    by_cases hp : '%' ∈ host.toList
    · exact .inr ⟨hp, hrehosted⟩
    · left
      rw [hrehosted, hlower hp]

theorem writtenPort_eq (scheme : String) (port : Option Int) :
    writtenPort scheme port = port ∨
      port = defaultPort scheme ∧ writtenPort scheme port = none := by
  cases port with
  | none => exact .inl rfl
  | some n =>
    by_cases hn : defaultPort scheme = some n
    · right
      simp [writtenPort, hn, Option.filter]
    · left
      simp [writtenPort, hn, Option.filter]

theorem Settled.sameElsewhere {u : Uri} (h : u.Settled) {path : String} {query : Option String}
    (hquery : (query.map (escaped querySafe)).getD "" = u.queryText) :
    u.SameElsewhere (u.moved u path query) :=
  ⟨rfl, rfl, rehosted_of_settled h.host, writtenPort_eq u.scheme u.port, hquery, rfl⟩

section Lengths

theorem colon_mem_lowerAscii {host : String} (h : ':' ∈ (Headers.lowerAscii host).toList) :
    ':' ∈ host.toList := by
  have hlow : ∀ n < 128, (Char.ofNat n).toLower = ':' → Char.ofNat n = ':' := by decide
  rw [toList_lowerAscii] at h
  obtain ⟨c, hc, hcolon⟩ := List.mem_map.1 h
  have hascii : c.toNat < 128 := by
    by_contra hlarge
    have hself : c.toLower = c := by
      refine dif_neg fun hupper => hlarge ?_
      have hle : c.toNat ≤ 90 := hupper.2
      omega
    rw [hself] at hcolon
    rw [hcolon] at hlarge
    exact hlarge (by decide)
  rwa [forall_ascii (P := fun c => c.toLower = ':' → c = ':') hlow hascii hcolon] at hc

theorem length_bracketed_rehosted (host : String) :
    (bracketed (rehosted host)).length = (bracketed host).length := by
  by_cases h : ':' ∈ host.toList
  · rw [rehosted, if_pos h]
  · have hlower : ':' ∉ (Headers.lowerAscii host).toList := mt colon_mem_lowerAscii h
    rw [rehosted, if_neg h, bracketed, if_neg hlower, bracketed, if_neg h, ← String.length_toList,
      toList_lowerAscii, List.length_map, String.length_toList]

theorem length_portText_writtenPort (scheme : String) (port : Option Int) :
    (portText (writtenPort scheme port)).length ≤ (portText port).length := by
  rcases writtenPort_eq scheme port with h | ⟨-, h⟩
  · exact Nat.le_of_eq (by rw [h])
  · rw [h]
    exact Nat.zero_le _

theorem length_authority_moved (u : Uri) (path : String) (query : Option String) :
    (u.moved u path query).authority.length ≤ u.authority.length := by
  have hmoved : (u.moved u path query).authority =
      (if u.userinfo = "" then "" else u.userinfo ++ "@") ++
        (bracketed (rehosted u.host) ++ portText (writtenPort u.scheme u.port)) := rfl
  have hport := length_portText_writtenPort u.scheme u.port
  have hhost := length_bracketed_rehosted u.host
  rw [hmoved, authority, hostAndPort_eq]
  simp only [String.length_append]
  omega

theorem fit_moved {u : Uri} {path path' written : String} {query query' : Option String}
    (h : Fit (u.limited path query)) (hpath : path'.length ≤ path.length)
    (hquery : query'.getD "" = query.getD "") :
    Fit ((u.moved u written query).limited path' query') := by
  have hauthority := length_authority_moved u written query
  simp only [Fit, limited, List.forall_mem_cons, List.not_mem_nil, false_implies, implies_true,
    and_true] at h ⊢
  obtain ⟨hscheme, hauth, hp, hq, hfragment⟩ := h
  exact ⟨hscheme, Nat.le_trans hauthority hauth, Nat.le_trans hpath hp, hquery ▸ hq, hfragment⟩

theorem Fit.of_length_le {u : Uri} {path path' : String} {query : Option String}
    (h : Fit (u.limited path query)) (hpath : path'.length ≤ path.length) :
    Fit (u.limited path' query) := by
  simp only [Fit, limited, List.forall_mem_cons] at h ⊢
  exact ⟨h.1, h.2.1, Nat.le_trans hpath h.2.2.1, h.2.2.2⟩

end Lengths

theorem mem_flatten {path : String} (h : path.toList = [] ∨ path.toList.head? = some '/') {c : Char}
    (hc : c ∈ (flatten path).toList) : c = '/' ∨ c ∈ path.toList := by
  rw [flatten] at hc
  split at hc
  · rw [String.toList_ofList] at hc
    rcases mem_joinBy hc with hsep | ⟨p, hp, hcp⟩
    · exact .inl hsep
    · right
      have htaken := (keptSegments_dropDots (head?_splitAt_iff.2 h)).taken p hp
      exact (infix_of_mem_splitAt htaken).mem hcp
  · exact .inr hc

theorem extent_keepSegment_le (kept : List (List Char)) (s : List Char) :
    extent (keepSegment kept s) ≤ extent kept + extent [s] := by
  rw [keepSegment]
  split
  · omega
  · split
    · split
      · omega
      · have hless := extent_le_of_sublist (List.dropLast_sublist kept)
        omega
    · exact Nat.le_of_eq (extent_append kept [s])

theorem extent_dropDots_le (ss : List (List Char)) : extent (dropDots ss) ≤ extent ss := by
  have hfold : ∀ kept, extent (ss.foldl keepSegment kept) ≤ extent kept + extent ss := by
    induction ss with
    | nil => exact fun kept => Nat.le_refl _
    | cons s ss ih =>
      intro kept
      have hrest := ih (keepSegment kept s)
      have hfirst := extent_keepSegment_le kept s
      rw [List.foldl_cons, ← List.singleton_append, extent_append]
      omega
  have hall := hfold []
  rwa [show extent [] = 0 from rfl, Nat.zero_add] at hall

theorem length_flatten_le (path : String) : (flatten path).length ≤ path.length := by
  rw [flatten]
  split
  · have hjoined := length_joinBy_le '/' (splitAt_ne_nil '/' path.toList)
      (extent_dropDots_le (splitAt '/' path.toList))
    rwa [joinBy_splitAt, ← String.length_ofList, String.length_toList] at hjoined
  · exact Nat.le_refl _

end HttpGateway.Uri
