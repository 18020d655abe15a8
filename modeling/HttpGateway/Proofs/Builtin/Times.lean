import HttpGateway.Proofs.Builtin.Layout
import HttpGateway.Proofs.Moment.TimeLine

namespace HttpGateway

namespace Condition

def Verdict (c : Condition) (s : Surroundings) (r : Request) (b : Bool) : Prop :=
  ∀ x, (c.predicate.accepts r).outcome s x = (.ok b, x)

variable {s : Surroundings} {r : Request} {b : Bool} {d first last : Moment}

theorem verdict_iff {c : Condition} : c.Verdict s r b ↔ c.holds s.now r = .ok b := by
  simp only [Verdict, outcome_accepts, Prod.mk.injEq, and_true, forall_const]

theorem verdict_before : (before d).Verdict s r b ↔ decide (s.now < d.instant) = b := by
  rw [verdict_iff, holds, Except.ok.injEq]

theorem verdict_after : (after d).Verdict s r b ↔ decide (d.instant < s.now) = b := by
  rw [verdict_iff, holds, Except.ok.injEq]

theorem verdict_between : (between first last).Verdict s r b ↔
    decide (first.instant < s.now ∧ s.now < last.instant) = b := by
  rw [verdict_iff, holds, Except.ok.injEq]

theorem interval_eq_ok_iff {c : Condition} : interval first last = .ok c ↔
    first.instant < last.instant ∧ c = between first last := by
  rw [interval]
  split
  · next h => simp [h, eq_comm]
  · next h => simp [h]

theorem verdicts_of_moment (s : Surroundings) (r : Request) (d : Moment) :
    ((before d).Verdict s r true ∧ (after d).Verdict s r false ∧ s.now < d.instant) ∨
      ((before d).Verdict s r false ∧ (after d).Verdict s r true ∧ d.instant < s.now) ∨
      ((before d).Verdict s r false ∧ (after d).Verdict s r false ∧ d.instant = s.now) := by
  simp only [verdict_before, verdict_after, decide_eq_true_iff, decide_eq_false_iff_not]
  omega

/-- The conditions on the time go by the instants of their moments, and instants go by the calendar:
those of one place lie as the dates and times do, a place that is ahead has its times earlier, and
every instant from the year 1 on is told in universal time, where the instants of all places lie as
the dates and times do. -/
theorem verdicts_by_instant (s : Surroundings) (r : Request) :
    (∀ d,
      ((before d).Verdict s r true ∧ (after d).Verdict s r false ∧ s.now < d.instant) ∨
      ((before d).Verdict s r false ∧ (after d).Verdict s r true ∧ d.instant < s.now) ∨
      ((before d).Verdict s r false ∧ (after d).Verdict s r false ∧ d.instant = s.now)) ∧
    (∀ first last,
      (first.instant < last.instant ∧ interval first last = .ok (between first last)) ∨
      (¬ first.instant < last.instant ∧
        interval first last = .error (.emptyInterval first.anchored last.anchored))) ∧
    (∀ first last c, interval first last = .ok c → (∃ b, c.Verdict s r b) ∧
      (c.Verdict s r true ↔ (after first).Verdict s r true ∧ (before last).Verdict s r true)) ∧
    (∀ d d', d.instant = d'.instant → ∀ b,
      ((before d).Verdict s r b ↔ (before d').Verdict s r b) ∧
      ((after d).Verdict s r b ↔ (after d').Verdict s r b)) ∧
    (∀ first first' last last', first.instant = first'.instant → last.instant = last'.instant →
      ((∃ c, interval first last = .ok c) ↔ ∃ c, interval first' last' = .ok c) ∧
      ∀ b, (between first last).Verdict s r b ↔ (between first' last').Verdict s r b) ∧
    (∀ d : Moment, d.anchored.instant = d.instant ∧
      ∀ o, { d with offset := some o }.instant = { d with offset := none }.instant - o) ∧
    (∀ d d' : Moment, d.Proper → d'.Proper → d.offset.getD 0 = d'.offset.getD 0 →
      (d.instant < d'.instant ↔ d.fields < d'.fields)) ∧
    (∀ d : Moment, Moment.firstInstant ≤ d.instant → d.universal.Proper ∧
      d.universal.instant = d.instant ∧ d.universal.offset = some 0) ∧
    (∀ d d' : Moment, Moment.firstInstant ≤ d.instant → Moment.firstInstant ≤ d'.instant →
      (d.instant < d'.instant ↔ d.universal.fields < d'.universal.fields)) := by
  refine ⟨verdicts_of_moment s r, ?_, ?_, ?_, ?_, ?_, ?_, ?_, ?_⟩
  · intro first last
    rw [interval]
    split
    · next h => exact .inl ⟨h, rfl⟩
    · next h => exact .inr ⟨h, rfl⟩
  · intro first last c hc
    obtain ⟨-, rfl⟩ := interval_eq_ok_iff.1 hc
    refine ⟨⟨_, verdict_between.2 rfl⟩, ?_⟩
    simp only [verdict_between, verdict_after, verdict_before, decide_eq_true_iff]
  · intro d d' h b
    simp only [verdict_before, verdict_after, h, and_self]
  · intro first first' last last' hfirst hlast
    simp only [interval_eq_ok_iff, verdict_between, hfirst, hlast, exists_and_left, exists_eq,
      implies_true, and_self]
  · exact fun d => ⟨d.instant_anchored, fun o => by simp [Moment.instant]⟩
  · exact fun d d' hd hd' ho => Moment.instant_lt_iff hd hd' ho
  · exact fun d hd => Moment.universal_spec hd
  · exact fun d d' hd hd' => Moment.instant_lt_iff_universal hd hd'

end Condition

namespace Sample

open Condition

def leapNight : Moment := ⟨2024, 2, 29, 23, 30, 0, 0, some (-3600000000)⟩

def marchMorning : Moment := ⟨2024, 3, 1, 0, 30, 0, 0, none⟩

def marchNoon : Moment := ⟨2024, 3, 1, 12, 30, 0, 1, some 43200000000⟩

def leapPresent : Surroundings := { careless with now := leapNight.instant }

theorem verdicts_by_instant_leap :
    leapNight.instant = marchMorning.instant ∧
    ((before marchMorning).Verdict leapPresent visit false ↔
      (before leapNight).Verdict leapPresent visit false) ∧
    (before marchNoon).Verdict leapPresent visit true ∧
    (∃ c, interval leapNight marchNoon = .ok c) ∧
    (∃ c, interval marchMorning marchNoon = .ok c) ∧
    interval leapNight marchMorning = .error (.emptyInterval leapNight marchMorning.anchored) ∧
    (∀ c, interval leapNight marchNoon = .ok c → ¬ c.Verdict leapPresent visit true) ∧
    marchMorning.universal.fields = marchMorning.fields := by
  have hnow : leapNight.instant = marchMorning.instant := by decide
  have hlater : leapNight.instant < marchNoon.instant := by decide
  obtain ⟨hplace, hbuilt, hinside, hsame, hsames, -, -, huniversal, -⟩ :=
    verdicts_by_instant leapPresent visit
  obtain ⟨hexists, -⟩ := hsames leapNight marchMorning marchNoon marchNoon hnow rfl
  have hinterval : interval leapNight marchNoon = .ok (between leapNight marchNoon) :=
    ((hbuilt leapNight marchNoon).resolve_right fun h => h.1 hlater).2
  have hempty := ((hbuilt leapNight marchMorning).resolve_left fun h => by
    rw [hnow] at h
    exact Int.lt_irrefl _ h.1).2
  have hbefore : (before marchNoon).Verdict leapPresent visit true := by
    rcases hplace marchNoon with h | h | h
    · exact h.1
    · exact absurd (Int.lt_trans hlater h.2.2) (Int.lt_irrefl _)
    · exact absurd h.2.2 (Int.ne_of_gt hlater)
  refine ⟨hnow, ((hsame leapNight marchMorning hnow false).1).symm, hbefore, ⟨_, hinterval⟩,
    hexists.1 ⟨_, hinterval⟩, hempty, fun c hc hverdict => ?_, ?_⟩
  · have hafter := ((hinside _ _ c hc).2.1 hverdict).1
    exact Int.lt_irrefl _ (of_decide_eq_true (verdict_after.1 hafter))
  · have hproper : marchMorning.Proper := ⟨⟨by decide, by decide, by decide, by decide, by decide⟩,
      by decide, by decide, by decide, by decide⟩
    obtain ⟨huniversal, hinstant, hoffset⟩ := huniversal marchMorning (by decide)
    exact Moment.fields_eq_of_instant huniversal hproper (by rw [hoffset]; rfl) hinstant

end Sample

end HttpGateway
