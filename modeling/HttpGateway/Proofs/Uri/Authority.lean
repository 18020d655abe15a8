import HttpGateway.Proofs.Number.Whole
import HttpGateway.Proofs.Text.Lower
import HttpGateway.Proofs.Uri.Path
import Mathlib.Data.Bool.AllAny

namespace HttpGateway.Uri

open HttpGateway.Text

def bracketed (host : String) : String :=
  if ':' ∈ host.toList then "[" ++ host ++ "]" else host

theorem hostSafe_ascii {c : Char} (h : hostSafe c) : c.toNat < 128 := by
  have hmarks : "!$&'()*+,;=\"`{}%|\\".toList.all fun c => c.toNat < 128 := by decide
  simp only [hostSafe, isUnreserved, Bool.or_eq_true, beq_iff_eq, List.contains_iff_mem] at h
  rcases h with ((((h | rfl) | rfl) | rfl) | rfl) | h
  · exact isAlphanum_ascii h
  · decide
  · decide
  · decide
  · decide
  · exact of_decide_eq_true (List.all_eq_true.1 hmarks c h)

theorem hostSafe_toLower {c : Char} (h : hostSafe c) : hostSafe c.toLower := by
  have hlow : ∀ n < 128, hostSafe (Char.ofNat n) → hostSafe (Char.ofNat n).toLower := by
    decide +kernel
  exact forall_ascii (P := fun c => hostSafe c → hostSafe c.toLower) hlow (hostSafe_ascii h) h

theorem hostSafe_lowerAscii {s : String} (h : ∀ c ∈ s.toList, hostSafe c) :
    ∀ c ∈ (Headers.lowerAscii s).toList, hostSafe c := by
  intro c hc
  rw [toList_lowerAscii] at hc
  obtain ⟨d, hd, rfl⟩ := List.mem_map.1 hc
  exact hostSafe_toLower (h d hd)

theorem notMem_of_hostSafe {cs : List Char} (h : ∀ c ∈ cs, hostSafe c) :
    ∀ mark ∈ ['/', '?', '#', '@', ':', '[', ']'], mark ∉ cs := by
  have hmarks : ∀ mark ∈ ['/', '?', '#', '@', ':', '[', ']'], ¬ hostSafe mark :=
    List.all_iff_forall_prop.1 (by decide)
  exact fun mark hmark hmem => hmarks mark hmark (h mark hmem)

/-- A host as it stands in an address: an address of its own with colons, or a name with escapes in
the place of everything that does not belong in one. -/
inductive SettledHost (host : String) : Prop
  | ipv6 : isIPv6 host.toList → '@' ∉ host.toList → SettledHost host
  | plain : host ≠ "" → (∀ c ∈ host.toList, hostSafe c) →
      (looksLikeIPv4 host.toList → isIPv4 host.toList) →
      ('%' ∉ host.toList → Headers.lowerAscii host = host) → SettledHost host

def rehosted (host : String) : String :=
  if ':' ∈ host.toList then host else Headers.lowerAscii host

section IPv4

variable {cs : List Char}

theorem isDigit_or_point_of_looksLikeIPv4 (h : looksLikeIPv4 cs) {c : Char} (hc : c ∈ cs) :
    c.isDigit ∨ c = '.' := by
  rw [looksLikeIPv4, Bool.and_eq_true, List.all_eq_true] at h
  have hsplit : c = '.' ∨ ∃ p ∈ splitAt '.' cs, c ∈ p := mem_of_splitAt hc
  rcases hsplit with rfl | ⟨p, hp, hc⟩
  · exact .inr rfl
  · have hp := h.2 p hp
    rw [Bool.and_eq_true, List.all_eq_true] at hp
    exact .inl (hp.2 c hc)

theorem digit_or_point_facts : ∀ n < 128, (Char.ofNat n).isDigit ∨ Char.ofNat n = '.' →
    hostSafe (Char.ofNat n) ∧ (Char.ofNat n).toLower = Char.ofNat n ∧ Char.ofNat n ≠ '%' := by
  decide

theorem facts_of_looksLikeIPv4 (h : looksLikeIPv4 cs) {c : Char} (hc : c ∈ cs) :
    hostSafe c ∧ c.toLower = c ∧ c ≠ '%' := by
  have hd := isDigit_or_point_of_looksLikeIPv4 h hc
  have hascii : c.toNat < 128 := by
    rcases hd with hd | rfl
    · exact isAlphanum_ascii (by rw [Char.isAlphanum, hd, Bool.or_true])
    · decide
  exact forall_ascii (P := fun c => c.isDigit ∨ c = '.' →
    hostSafe c ∧ c.toLower = c ∧ c ≠ '%') digit_or_point_facts hascii hd

end IPv4

theorem colon_mem_of_isIPv6 {cs : List Char} (h : isIPv6 cs) : ':' ∈ cs := by
  refine Decidable.by_contra fun hcolon => ?_
  have haddress : ':' ∉ (cut '%' cs).1 := fun hmem => hcolon ((prefix_cut '%' cs).mem hmem)
  simp only [isIPv6, Bool.and_eq_true, decide_eq_true_eq, splitAt_of_notMem haddress] at h
  exact absurd h.1.2 (Nat.not_le_of_lt (by simp))

theorem settledHost_escaped {written : String} (hne : escaped hostSafe (lower written) ≠ "")
    (hascii : ∀ c ∈ written.toList, decide (c.toNat < 128))
    (hlooks : ¬ looksLikeIPv4 written.toList) :
    SettledHost (escaped hostSafe (lower written)) := by
  have hsigns : escapeSigns.all hostSafe := by decide
  have hascii : ∀ c ∈ written.toList, c.toNat < 128 := fun c hc => of_decide_eq_true (hascii c hc)
  have hplain : '%' ∉ (escaped hostSafe (lower written)).toList →
      escaped hostSafe (lower written) = Headers.lowerAscii written := by
    intro hp
    rw [escaped, String.toList_ofList] at hp
    rw [escaped, eq_of_escape_no_percent hp, String.ofList_toList, lower_ascii hascii]
  refine .plain hne (fun c hc => ?_) (fun hl => absurd ?_ hlooks) fun hp => ?_
  · rw [escaped, String.toList_ofList] at hc
    exact safe_of_mem_escape hsigns hc
  · -- a digit or a point is the lower case of itself alone
    have hself : ∀ n < 128, (Char.ofNat n).toLower.isDigit ∨ (Char.ofNat n).toLower = '.' →
        (Char.ofNat n).toLower = Char.ofNat n := by decide
    rw [hplain fun hp => (facts_of_looksLikeIPv4 hl hp).2.2 rfl] at hl
    rw [lowerAscii_eq_self fun c hc => ?_] at hl
    · exact hl
    · refine forall_ascii (P := fun c => c.toLower.isDigit ∨ c.toLower = '.' → c.toLower = c)
        hself (hascii c hc) (isDigit_or_point_of_looksLikeIPv4 hl ?_)
      rw [toList_lowerAscii]
      exact List.mem_map_of_mem hc
  · rw [hplain hp, lowerAscii_lowerAscii]

theorem settledHost_of_normal {written host : String} (h : normalHost written = .ok host)
    (hne : host ≠ "") (hat : '@' ∉ written.toList) : SettledHost host := by
  rw [normalHost] at h
  dsimp only at h
  split at h
  · cases h
    exact absurd rfl hne
  · split at h
    · rename_i hlooks
      split at h
      · rename_i hip
        cases h
        refine .plain hne (fun c hc => (facts_of_looksLikeIPv4 hlooks hc).1) (fun _ => hip) fun _ => ?_
        exact lowerAscii_eq_self fun c hc => (facts_of_looksLikeIPv4 hlooks hc).2.1
      · cases h
    · rename_i hlooks
      split at h
      · split at h
        · rename_i hip
          cases h
          refine .ipv6 (by rwa [String.toList_ofList]) fun hmem => hat ?_
          rw [String.toList_ofList] at hmem
          exact List.mem_of_mem_drop (List.dropLast_subset _ hmem)
        · cases h
      · split at h
        · rename_i hascii
          rw [← Except.ok.inj h] at hne ⊢
          exact settledHost_escaped hne (List.all_eq_true.1 hascii) hlooks
        · cases h

theorem SettledHost.colon_notMem {host : String} (h : ∀ c ∈ host.toList, hostSafe c) :
    ':' ∉ host.toList := notMem_of_hostSafe h ':' (by decide)

theorem normalHost_of_safe {name : String} (hne : name ≠ "") (hsafe : ∀ c ∈ name.toList, hostSafe c)
    (hip : looksLikeIPv4 name.toList → isIPv4 name.toList) :
    normalHost name = .ok (Headers.lowerAscii name) := by
  have hcs : name.toList ≠ [] := fun h => hne (String.toList_inj.1 h)
  have hascii : ∀ c ∈ name.toList, c.toNat < 128 := fun c hc => hostSafe_ascii (hsafe c hc)
  rw [normalHost, if_neg hcs]
  by_cases hlooks : looksLikeIPv4 name.toList
  · -- a numeric host has no letters
    have hself : Headers.lowerAscii name = name :=
      lowerAscii_eq_self fun c hc => (facts_of_looksLikeIPv4 hlooks hc).2.1
    rw [if_pos hlooks, if_pos (hip hlooks), hself]
  · have hbracket : ¬ (name.toList.head? = some '[' ∧ name.toList.getLast? = some ']') := fun h =>
      notMem_of_hostSafe hsafe '[' (by decide) (List.mem_of_head? h.1)
    have hall : name.toList.all (·.toNat < 128) :=
      List.all_eq_true.2 fun c hc => decide_eq_true (hascii c hc)
    rw [if_neg hlooks, if_neg hbracket, if_pos hall, lower_ascii hascii,
      escaped_of_safe (hostSafe_lowerAscii hsafe)]

theorem normalHost_bracketed {host : String} (h : SettledHost host) :
    normalHost (bracketed host) = .ok (rehosted host) := by
  cases h with
  | ipv6 hip hat =>
    have hcolon := colon_mem_of_isIPv6 hip
    have hcs : ("[" ++ host ++ "]").toList = '[' :: (host.toList ++ [']']) := by simp
    have hlooks : ¬ looksLikeIPv4 ('[' :: (host.toList ++ [']'])) := by
      intro hl
      exact absurd (isDigit_or_point_of_looksLikeIPv4 hl List.mem_cons_self) (by decide)
    have hinner : (('[' :: (host.toList ++ [']'])).drop 1).dropLast = host.toList := List.dropLast_concat
    have hends : ('[' :: (host.toList ++ [']'])).head? = some '[' ∧
        ('[' :: (host.toList ++ [']'])).getLast? = some ']' :=
      ⟨rfl, List.getLast?_concat (l := '[' :: host.toList)⟩
    rw [bracketed, if_pos hcolon, rehosted, if_pos hcolon, normalHost]
    simp only [hcs, hinner, if_neg hlooks, if_neg (List.cons_ne_nil _ _), if_pos hends, if_pos hip,
      String.ofList_toList]
  | plain hne hsafe hip hlower =>
    have hcolon := SettledHost.colon_notMem hsafe
    rw [bracketed, if_neg hcolon, rehosted, if_neg hcolon]
    exact normalHost_of_safe hne hsafe hip

def portText (port : Option Int) : String := (port.map fun n => ":" ++ Whole.text n).getD ""

def portDigits (port : Option Int) : String := (port.map Whole.text).getD ""

theorem hostAndPort_eq (u : Uri) : u.hostAndPort = bracketed u.host ++ portText u.port := rfl

theorem portText_eq (port : Option Int) :
    (portText port).toList = [] ∧ (portDigits port).toList = [] ∨
      (portText port).toList = ':' :: (portDigits port).toList := by
  cases port with
  | none => exact .inl ⟨rfl, rfl⟩
  | some n => exact .inr (by simp [portText, portDigits])

theorem notMem_portText {port : Option Int} {c : Char} (hc : c ∈ ['@', ']', '[', '/', '?', '#']) :
    c ∉ (portText port).toList := by
  intro hmem
  cases port with
  | none => cases hmem
  | some n =>
    have hmem : c ∈ ':' :: (Whole.text n).toList := by simpa [portText] using hmem
    have hsigns : ['@', ']', '[', '/', '?', '#'].all fun c => c != ':' && c != '-' && !c.isDigit := by decide
    have hc := List.all_eq_true.1 hsigns c hc
    simp only [Bool.and_eq_true, bne_iff_ne, Bool.not_eq_true'] at hc
    obtain ⟨⟨hcolon, hminus⟩, hdigit⟩ := hc
    rcases List.mem_cons.1 hmem with h | h
    · exact hcolon h
    · exact Whole.notMem_text (Bool.eq_false_iff.1 hdigit) hminus n h

def behindColon (cs : List Char) : List Char := if cs.head? = some ':' then cs.drop 1 else cs

theorem cutHost_of_bracket {cs inner rest : List Char}
    (h : cutLast ']' ('[' :: cs) = (some inner, rest)) :
    cutHost ('[' :: cs) = (inner ++ [']'], some (behindColon rest)) := by
  unfold cutHost
  rw [h]
  rfl

theorem cutHost_of_no_bracket {cs : List Char}
    (h : cs.head? = some '[' → (cutLast ']' cs).1 = none) :
    cutHost cs = (cs.takeWhile (· ≠ ':'), some (behindColon (cs.dropWhile (· ≠ ':')))) := by
  rw [cutHost]
  · rfl
  · rintro tail inner rest rfl hcut
    have hnone := h rfl
    rw [hcut] at hnone
    cases hnone

theorem behindColon_portText (port : Option Int) :
    behindColon (portText port).toList = (portDigits port).toList := by
  rcases portText_eq port with ⟨h, hd⟩ | h
  · rw [h, hd]
    rfl
  · rw [h]
    rfl

theorem head?_portText (port : Option Int) : (portText port).toList.head?.all (· == ':') := by
  rcases portText_eq port with ⟨h, -⟩ | h
  · rw [h]
    rfl
  · rw [h]
    rfl

theorem cutHost_of_name {name port : List Char} (hname : ∀ c ∈ name, hostSafe c)
    (hport : port.head?.all (· == ':')) (hopen : '[' ∉ port) :
    cutHost (name ++ port) = (name, some (behindColon port)) := by
  have hkeep : ∀ c ∈ name, decide (c ≠ ':') := fun c hc =>
    decide_eq_true (ne_of_mem_of_not_mem hc (notMem_of_hostSafe hname ':' (by decide)))
  have hopen : '[' ∉ name ++ port := by
    rw [List.mem_append, not_or]
    exact ⟨notMem_of_hostSafe hname '[' (by decide), hopen⟩
  have hstop : port.takeWhile (· ≠ ':') = [] ∧ port.dropWhile (· ≠ ':') = port := by
    cases port with
    | nil => exact ⟨rfl, rfl⟩
    | cons c port =>
      have hc : c = ':' := by simpa using hport
      simp [hc]
  rw [cutHost_of_no_bracket fun h => absurd (List.mem_of_head? h) hopen,
    List.takeWhile_append_of_pos hkeep, List.dropWhile_append_of_pos hkeep, hstop.1, hstop.2,
    List.append_nil]

theorem cutHost_hostAndPort {host : String} (h : SettledHost host) (port : Option Int) :
    cutHost (bracketed host ++ portText port).toList =
      ((bracketed host).toList, some (portDigits port).toList) := by
  rw [String.toList_append]
  cases h with
  | ipv6 hip hat =>
    have hclose : ']' ∉ (portText port).toList := notMem_portText (by decide)
    have hcs : (bracketed host).toList ++ (portText port).toList =
        '[' :: (host.toList ++ ']' :: (portText port).toList) := by
      simp [bracketed, if_pos (colon_mem_of_isIPv6 hip)]
    have hcut : cutLast ']' ('[' :: (host.toList ++ ']' :: (portText port).toList)) =
        (some ('[' :: host.toList), (portText port).toList) :=
      cutLast_append ('[' :: host.toList) hclose
    rw [hcs, cutHost_of_bracket hcut, behindColon_portText]
    simp [bracketed, if_pos (colon_mem_of_isIPv6 hip)]
  | plain hne hsafe hip hlower =>
    rw [bracketed, if_neg (SettledHost.colon_notMem hsafe),
      cutHost_of_name hsafe (head?_portText port) (notMem_portText (by decide)),
      behindColon_portText]

theorem at_notMem_hostAndPort {u : Uri} (h : SettledHost u.host) : '@' ∉ u.hostAndPort.toList := by
  rw [hostAndPort_eq, String.toList_append, List.mem_append, not_or]
  refine ⟨?_, notMem_portText (by decide)⟩
  cases h with
  | ipv6 hip hat => simpa [bracketed, if_pos (colon_mem_of_isIPv6 hip)] using hat
  | plain hne hsafe hip hlower =>
    rw [bracketed, if_neg (SettledHost.colon_notMem hsafe)]
    exact notMem_of_hostSafe hsafe '@' (by decide)

theorem cutHostAndUser_of_cutHost {u : Uri} (hat : '@' ∉ u.hostAndPort.toList)
    {host : List Char × Option (List Char)} (hhost : cutHost u.hostAndPort.toList = host) :
    cutHostAndUser u.authority.toList = (u.userinfo.toList, host) := by
  rw [cutHostAndUser, authority]
  by_cases hu : u.userinfo = ""
  · rw [if_pos hu, String.empty_append, cutLast_of_notMem hat, hu]
    exact congrArg (Prod.mk []) hhost
  · have hcs : (u.userinfo ++ "@" ++ u.hostAndPort).toList =
        u.userinfo.toList ++ '@' :: u.hostAndPort.toList := by simp
    rw [if_neg hu, hcs, cutLast_append _ hat]
    exact congrArg (Prod.mk u.userinfo.toList) hhost

theorem cutHostAndUser_authority {u : Uri} (h : SettledHost u.host) :
    cutHostAndUser u.authority.toList =
      (u.userinfo.toList, (bracketed u.host).toList, some (portDigits u.port).toList) := by
  refine cutHostAndUser_of_cutHost (at_notMem_hostAndPort h) ?_
  rw [hostAndPort_eq]
  exact cutHost_hostAndPort h u.port

theorem cutHostAndUser_of_no_host {u : Uri} (h : u.host = "") :
    cutHostAndUser u.authority.toList =
      (u.userinfo.toList, [], some (portDigits u.port).toList) := by
  have hport : u.hostAndPort.toList = (portText u.port).toList := by
    have hbracketed : bracketed "" = "" := by decide
    rw [hostAndPort_eq, h, hbracketed, String.empty_append]
  rw [← behindColon_portText]
  refine cutHostAndUser_of_cutHost ?_ ?_
  · rw [hport]
    exact notMem_portText (by decide)
  · rw [hport]
    exact cutHost_of_name (List.forall_mem_nil _) (head?_portText u.port)
      (notMem_portText (by decide))

def writtenPort (scheme : String) (port : Option Int) : Option Int :=
  port.filter fun n => defaultPort scheme != some n

theorem normalPort_text {port : Option Int} (h : ∀ n ∈ port, Whole.Readable n) (scheme : String) :
    normalPort scheme (port.map Whole.text) = .ok (writtenPort scheme port) := by
  cases port with
  | none => rfl
  | some n =>
    rw [Option.map_some, normalPort]
    simp only [if_neg (Whole.text_ne_empty n), Whole.readLoose?_text (h n rfl)]
    by_cases hd : defaultPort scheme = some n <;> simp [writtenPort, hd, Option.filter]

theorem normalPort_digits {port : Option Int} (h : ∀ n ∈ port, Whole.Readable n)
    (scheme : String) :
    normalPort scheme (some (portDigits port)) = .ok (writtenPort scheme port) := by
  cases port with
  | none => rfl
  | some n => exact normalPort_text h scheme

theorem readable_of_normalPort {scheme : String} {written : Option String} {port : Option Int}
    (h : normalPort scheme written = .ok port) : ∀ n ∈ port, Whole.Readable n := by
  intro n hn
  cases written with
  | none =>
    cases h
    cases hn
  | some digits =>
    rw [normalPort] at h
    split at h
    · cases h
      cases hn
    · split at h
      · cases h
      · rename_i hread
        cases h
        split at hn
        · cases hn
        · cases hn
          exact Whole.readable_of_readLoose? hread

end HttpGateway.Uri
