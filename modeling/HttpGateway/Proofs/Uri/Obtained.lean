import HttpGateway.Proofs.Uri.Settled

namespace HttpGateway.Uri

open HttpGateway.Text

inductive Obtained : Uri → Prop
  | read {s u} : parse s = .ok u → Obtained u
  | withPath {u v path query} : Obtained u → u.withPath path query = .ok v → Obtained v
  | withQuery {u v query} : Obtained u → u.withQuery query = .ok v → Obtained v
  | withOrigin {u origin v} : Obtained u → Obtained origin → u.withOrigin origin = .ok v →
      Obtained v
  | withFragment {u v fragment} : Obtained u → u.withFragment fragment = .ok v → Obtained v

variable {u v origin : Uri}

/-- What the parts of an address need for being put together again. -/
structure Sound (u : Uri) : Prop where
  scheme : ∀ c ∈ u.scheme.toList, isSchemeChar c
  host : '@' ∉ u.host.toList
  settled : u.isAbsolute → u.Settled

theorem SettledHost.at_notMem {host : String} (h : SettledHost host) : '@' ∉ host.toList := by
  cases h with
  | ipv6 _ hat => exact hat
  | plain _ hsafe => exact fun hmem => absurd (hsafe '@' hmem) (by decide)

theorem sound_of_normal {p : Parts} (hp : p.Sound) (h : p.normal = .ok u) : u.Sound := by
  obtain ⟨hscheme, -, hhost, -⟩ := Parts.normal_eq_ok h
  refine ⟨?_, ?_, hp.settled h⟩
  · rw [hscheme]
    exact fun c hc => (scheme_lower hp.scheme c hc).1
  · by_cases hne : u.host = ""
    · simp [hne]
    · exact (settledHost_of_normal hhost hne hp.host).at_notMem

theorem sound_of_rebuild {p : Parts} (hp : p.Sound) {more : List (String × String)}
    (h : u.rebuild p more = .ok v) : v.Sound := by
  rw [rebuild, Outcome.bind_eq_ok_iff] at h
  obtain ⟨-, -, h⟩ := h
  exact sound_of_normal hp h

namespace Sound

theorem parts (h : u.Sound) : u.parts.Sound := by
  refine ⟨h.scheme, ?_⟩
  change '@' ∉ (String.ofList _).toList
  rw [String.toList_ofList]
  exact at_notMem_cutHost (notMem_cutLast '@' u.authority.toList)

theorem withQuery (h : u.Sound) {query : Option String} (hv : u.withQuery query = .ok v) :
    v.Sound := by
  rw [Uri.withQuery] at hv
  refine sound_of_rebuild ?_ hv
  exact ⟨h.parts.scheme, h.parts.host⟩

theorem withPath (h : u.Sound) {path : String} {query : Option String}
    (hv : u.withPath path query = .ok v) : v.Sound := by
  rw [Uri.withPath] at hv
  refine sound_of_rebuild ?_ hv
  exact ⟨h.parts.scheme, h.parts.host⟩

theorem withOrigin (ho : origin.Sound) (hv : u.withOrigin origin = .ok v) : v.Sound := by
  rw [Uri.withOrigin] at hv
  refine sound_of_rebuild ⟨ho.scheme, ?_⟩ hv
  have hhost := ho.host
  dsimp only
  split
  · simpa using hhost
  · exact hhost

theorem withFragment (h : u.Sound) {fragment : String} (hv : u.withFragment fragment = .ok v) :
    v.Sound := by
  rw [Uri.withFragment] at hv
  split at hv
  · cases hv
  · refine sound_of_rebuild ?_ hv
    exact ⟨h.parts.scheme, h.parts.host⟩

end Sound

theorem Obtained.sound (h : u.Obtained) : u.Sound := by
  induction h with
  | read h => exact sound_of_normal (Parts.sound_ofText _) (normal_of_parse h)
  | withPath _ hv ih => exact ih.withPath hv
  | withQuery _ hv ih => exact ih.withQuery hv
  | withOrigin _ _ hv _ ho => exact ho.withOrigin hv
  | withFragment _ hv ih => exact ih.withFragment hv

theorem Obtained.settled (h : u.Obtained) (ha : u.isAbsolute) : u.Settled := h.sound.settled ha

end HttpGateway.Uri
