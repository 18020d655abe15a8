import HttpGateway.Pattern.Segments
import Mathlib.Data.List.Forall2

/-!
What patterns of segments mean: they match segments that fall into blocks one after another, one
block for each pattern, which the pattern takes. Two stars take any block, every other pattern takes
a block of one segment.
-/

namespace HttpGateway.Pattern

open HttpGateway.Text

def BracedWord (pattern : String) : Prop :=
  ∃ word : List Char, word ≠ [] ∧ (∀ c ∈ word, isWord c) ∧ pattern.toList = '{' :: (word ++ ['}'])

inductive Takes : String → List String → Prop
  | any (block : List String) : Takes "**" block
  | braced {p : String} (s : String) : BracedWord p → Takes p [s]
  | wildcard {p s : String} : p ≠ "**" → wildcardMatches p s → Takes p [s]

theorem isVariable_iff {p : String} : isVariable p ↔ BracedWord p := by
  rw [isVariable, BracedWord]
  split
  · rename_i cs hp
    rw [hp, Bool.and_eq_true, Bool.and_eq_true, beq_iff_eq, bne_iff_ne, List.all_eq_true]
    constructor
    · rintro ⟨⟨hlast, hne⟩, hword⟩
      refine ⟨cs.dropLast, hne, hword, ?_⟩
      rw [List.dropLast_append_getLast? '}' hlast]
    · rintro ⟨word, hne, hword, hcs⟩
      obtain ⟨-, rfl⟩ := List.cons_eq_cons.1 hcs
      rw [List.getLast?_concat, List.dropLast_concat]
      exact ⟨⟨rfl, hne⟩, hword⟩
  · rename_i hbrace
    constructor
    · intro h
      cases h
    · rintro ⟨word, -, -, hp⟩
      exact absurd hp (hbrace _)

theorem takes_iff {p : String} (hp : p ≠ "**") {block : List String} :
    Takes p block ↔ ∃ s, block = [s] ∧ segmentAccepts p s := by
  constructor
  · intro h
    cases h with
    | any => exact absurd rfl hp
    | braced s h => exact ⟨s, rfl, by rw [segmentAccepts, isVariable_iff.2 h, Bool.true_or]⟩
    | wildcard _ h => exact ⟨_, rfl, by rw [segmentAccepts, h, Bool.or_true]⟩
  · rintro ⟨s, rfl, h⟩
    rw [segmentAccepts, Bool.or_eq_true] at h
    rcases h with h | h
    · exact .braced s (isVariable_iff.1 h)
    · exact .wildcard hp h

variable {p : String} {ps qs ss : List String}

theorem segmentsMatch_stars_iff :
    segmentsMatch ("**" :: ps) ss ↔ ∃ block rest, ss = block ++ rest ∧ segmentsMatch ps rest := by
  induction ss with
  | nil =>
    rw [segmentsMatch, beq_self_eq_true, Bool.true_and]
    constructor
    · intro h
      exact ⟨[], [], rfl, h⟩
    · rintro ⟨block, rest, hss, h⟩
      obtain ⟨-, rfl⟩ := List.append_eq_nil_iff.1 hss.symm
      exact h
  | cons s ss ih =>
    rw [segmentsMatch, if_pos rfl, Bool.or_eq_true, ih]
    constructor
    · rintro (h | ⟨block, rest, rfl, h⟩)
      · exact ⟨[], s :: ss, rfl, h⟩
      · exact ⟨s :: block, rest, rfl, h⟩
    · rintro ⟨block, rest, hss, h⟩
      cases block with
      | nil =>
        obtain rfl : s :: ss = rest := hss
        exact .inl h
      | cons t block =>
        obtain ⟨rfl, rfl⟩ := List.cons_eq_cons.1 hss
        exact .inr ⟨block, rest, rfl, h⟩

theorem segmentsMatch_single_iff (hp : p ≠ "**") :
    segmentsMatch (p :: ps) ss ↔ ∃ s rest, ss = s :: rest ∧ segmentAccepts p s ∧
      segmentsMatch ps rest := by
  cases ss with
  | nil => simp [segmentsMatch, hp]
  | cons s ss =>
    rw [segmentsMatch, if_neg hp, Bool.and_eq_true]
    constructor
    · rintro ⟨hs, h⟩
      exact ⟨s, ss, rfl, hs, h⟩
    · rintro ⟨s', rest, hss, hs, h⟩
      obtain ⟨rfl, rfl⟩ := List.cons_eq_cons.1 hss
      exact ⟨hs, h⟩

theorem segmentsMatch_cons_iff :
    segmentsMatch (p :: ps) ss ↔ ∃ block rest, ss = block ++ rest ∧ Takes p block ∧
      segmentsMatch ps rest := by
  by_cases hp : p = "**"
  · subst hp
    rw [segmentsMatch_stars_iff]
    constructor
    · rintro ⟨block, rest, hss, h⟩
      exact ⟨block, rest, hss, .any block, h⟩
    · rintro ⟨block, rest, hss, -, h⟩
      exact ⟨block, rest, hss, h⟩
  · rw [segmentsMatch_single_iff hp]
    constructor
    · rintro ⟨s, rest, hss, hs, h⟩
      exact ⟨[s], rest, hss, (takes_iff hp).2 ⟨s, rfl, hs⟩, h⟩
    · rintro ⟨block, rest, hss, htakes, h⟩
      obtain ⟨s, rfl, hs⟩ := (takes_iff hp).1 htakes
      exact ⟨s, rest, hss, hs, h⟩

theorem segmentsMatch_iff_blocks :
    segmentsMatch ps ss ↔ ∃ blocks, List.Forall₂ Takes ps blocks ∧ blocks.flatten = ss := by
  induction ps generalizing ss with
  | nil =>
    rw [segmentsMatch, List.isEmpty_iff]
    constructor
    · rintro rfl
      exact ⟨[], .nil, rfl⟩
    · rintro ⟨blocks, hblocks, rfl⟩
      cases hblocks
      rfl
  | cons p ps ih =>
    rw [segmentsMatch_cons_iff]
    constructor
    · rintro ⟨block, rest, rfl, hblock, hrest⟩
      obtain ⟨blocks, hblocks, rfl⟩ := ih.1 hrest
      exact ⟨block :: blocks, .cons hblock hblocks, rfl⟩
    · rintro ⟨blocks, hblocks, rfl⟩
      cases hblocks with
      | cons hblock hblocks => exact ⟨_, _, rfl, hblock, ih.2 ⟨_, hblocks, rfl⟩⟩

theorem segmentsMatch_append_iff :
    segmentsMatch (ps ++ qs) ss ↔
      ∃ s₁ s₂, ss = s₁ ++ s₂ ∧ segmentsMatch ps s₁ ∧ segmentsMatch qs s₂ := by
  induction ps generalizing ss with
  | nil =>
    constructor
    · intro h
      exact ⟨[], ss, rfl, by rw [segmentsMatch]; rfl, h⟩
    · rintro ⟨s₁, s₂, rfl, hnil, h⟩
      rw [segmentsMatch, List.isEmpty_iff] at hnil
      rwa [hnil]
  | cons p ps ih =>
    simp only [List.cons_append, segmentsMatch_cons_iff, ih]
    constructor
    · rintro ⟨block, _, rfl, hblock, s₁, s₂, rfl, h₁, h₂⟩
      exact ⟨block ++ s₁, s₂, (List.append_assoc block s₁ s₂).symm, ⟨block, s₁, rfl, hblock, h₁⟩, h₂⟩
    · rintro ⟨_, s₂, rfl, ⟨block, s₁, rfl, hblock, h₁⟩, h₂⟩
      exact ⟨block, s₁ ++ s₂, List.append_assoc block s₁ s₂, hblock, s₁, s₂, rfl, h₁, h₂⟩

theorem segmentsMatch_stars_stars_iff :
    segmentsMatch ("**" :: "**" :: ps) ss ↔ segmentsMatch ("**" :: ps) ss := by
  simp only [segmentsMatch_stars_iff]
  constructor
  · rintro ⟨a, _, rfl, b, rest, rfl, h⟩
    exact ⟨a ++ b, rest, (List.append_assoc a b rest).symm, h⟩
  · rintro ⟨block, rest, rfl, h⟩
    exact ⟨block, rest, rfl, [], rest, rfl, h⟩

theorem segmentsMatch_replicate_stars_iff (n : Nat) :
    segmentsMatch (List.replicate (n + 1) "**" ++ ps) ss ↔ segmentsMatch ("**" :: ps) ss := by
  induction n with
  | zero => rfl
  | succ n ih =>
    rw [← ih]
    exact segmentsMatch_stars_stars_iff

/-- Patterns match segments that fall into blocks which the patterns take one by one. So patterns one
after another match what falls into a part for each of them, and stars that are repeated without
anything between them mean the same as once. -/
theorem segmentsMatch_blockwise :
    (∀ ps ss, segmentsMatch ps ss ↔
      ∃ blocks, List.Forall₂ Takes ps blocks ∧ blocks.flatten = ss) ∧
    (∀ ps qs ss, segmentsMatch (ps ++ qs) ss ↔
      ∃ s₁ s₂, ss = s₁ ++ s₂ ∧ segmentsMatch ps s₁ ∧ segmentsMatch qs s₂) ∧
    ∀ ps qs n ss, segmentsMatch (ps ++ List.replicate (n + 1) "**" ++ qs) ss =
      segmentsMatch (ps ++ "**" :: qs) ss := by
  refine ⟨fun _ _ => segmentsMatch_iff_blocks, fun _ _ _ => segmentsMatch_append_iff,
    fun ps qs n ss => ?_⟩
  rw [Bool.eq_iff_iff, List.append_assoc, segmentsMatch_append_iff, segmentsMatch_append_iff]
  simp only [segmentsMatch_replicate_stars_iff]

end HttpGateway.Pattern
