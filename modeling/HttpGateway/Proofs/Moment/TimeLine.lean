import HttpGateway.Proofs.Moment.Calendar

namespace HttpGateway.Moment

structure Proper (m : Moment) : Prop where
  date : IsDate m.year m.month m.day
  hour_le : m.hour ≤ 23
  minute_le : m.minute ≤ 59
  second_le : m.second ≤ 59
  micro_le : m.micro ≤ 999999

def fields (m : Moment) : List Nat :=
  [m.year, m.month, m.day, m.hour, m.minute, m.second, m.micro]

def clock (m : Moment) : Nat :=
  m.hour * 3600000000 + m.minute * 60000000 + m.second * 1000000 + m.micro

variable {a b m : Moment}

theorem instant_eq (m : Moment) : m.instant =
    ((dayNumber m.year m.month m.day : Int) - epochDay) * 86400000000 + m.clock -
      m.offset.getD 0 := by
  simp only [instant, clock]
  omega

theorem Proper.clock_lt (h : m.Proper) : m.clock < 86400000000 := by
  obtain ⟨-, hhour, hminute, hsecond, hmicro⟩ := h
  unfold clock
  omega

theorem clock_lt_iff (ha : a.Proper) (hb : b.Proper) : a.clock < b.clock ↔
    [a.hour, a.minute, a.second, a.micro] < [b.hour, b.minute, b.second, b.micro] := by
  obtain ⟨-, -, hminute, hsecond, hmicro⟩ := ha
  obtain ⟨-, -, hminute', hsecond', hmicro'⟩ := hb
  simp only [clock, List.cons_lt_cons_iff, List.not_lt_nil, and_false, or_false]
  omega

theorem instant_lt_iff (ha : a.Proper) (hb : b.Proper) (ho : a.offset.getD 0 = b.offset.getD 0) :
    a.instant < b.instant ↔ a.fields < b.fields := by
  have hdate := dayNumber_lt_iff ha.date hb.date
  have hdate' := dayNumber_lt_iff hb.date ha.date
  have htime := clock_lt_iff ha hb
  have hclock := ha.clock_lt
  have hclock' := hb.clock_lt
  rw [instant_eq, instant_eq, ho]
  simp only [fields, List.cons_lt_cons_iff, List.not_lt_nil, and_false, or_false]
    at hdate hdate' htime ⊢
  rcases Nat.lt_trichotomy (dayNumber a.year a.month a.day) (dayNumber b.year b.month b.day) with
    h | h | h
  · omega
  · omega
  · omega

theorem fields_eq_of_instant (ha : a.Proper) (hb : b.Proper)
    (ho : a.offset.getD 0 = b.offset.getD 0) (h : a.instant = b.instant) : a.fields = b.fields := by
  have hlt : ¬ a.fields < b.fields := by
    rw [← instant_lt_iff ha hb ho, h]
    exact Int.lt_irrefl _
  have hgt : ¬ b.fields < a.fields := by
    rw [← instant_lt_iff hb ha ho.symm, h]
    exact Int.lt_irrefl _
  exact List.le_antisymm (List.not_lt.1 hgt) (List.not_lt.1 hlt)

def firstInstant : Int := -62135596800000000

def universal (m : Moment) : Moment :=
  ofEpoch (m.instant / 1000000) (m.instant % 1000000).toNat

theorem proper_ofEpoch {seconds : Int} {micro : Nat} (hs : -62135596800 ≤ seconds)
    (hm : micro ≤ 999999) : (ofEpoch seconds micro).Proper ∧
      (ofEpoch seconds micro).instant = seconds * 1000000 + micro ∧
      (ofEpoch seconds micro).offset = some 0 := by
  rw [ofEpoch, Int.fdiv_eq_ediv_of_nonneg _ (by decide), Int.fmod_eq_emod_of_nonneg _ (by decide)]
  obtain ⟨year, month, day, hdate, hcalendar, hnumber⟩ :=
    exists_dateOfDay (seconds / 86400 + epochDay).toNat
  rw [hdate]
  have hrest : (seconds % 86400).toNat < 86400 := by omega
  refine ⟨⟨hcalendar, ?_, ?_, ?_, hm⟩, ?_, rfl⟩
  · change (seconds % 86400).toNat / 3600 ≤ 23
    omega
  · change (seconds % 86400).toNat / 60 % 60 ≤ 59
    omega
  · change (seconds % 86400).toNat % 60 ≤ 59
    omega
  · rw [instant_eq]
    simp only [hnumber, clock, epochDay, Option.getD_some]
    omega

theorem universal_spec (h : firstInstant ≤ m.instant) : m.universal.Proper ∧
    m.universal.instant = m.instant ∧ m.universal.offset = some 0 := by
  rw [firstInstant] at h
  have hseconds : -62135596800 ≤ m.instant / 1000000 := by omega
  have hmicro : (m.instant % 1000000).toNat ≤ 999999 := by omega
  obtain ⟨hproper, hinstant, hoffset⟩ := proper_ofEpoch hseconds hmicro
  refine ⟨hproper, ?_, hoffset⟩
  rw [universal, hinstant]
  omega

theorem instant_lt_iff_universal (ha : firstInstant ≤ a.instant) (hb : firstInstant ≤ b.instant) :
    a.instant < b.instant ↔ a.universal.fields < b.universal.fields := by
  obtain ⟨hproper, hinstant, hoffset⟩ := universal_spec ha
  obtain ⟨hproper', hinstant', hoffset'⟩ := universal_spec hb
  have hlt := instant_lt_iff hproper hproper' (by rw [hoffset, hoffset'])
  rwa [hinstant, hinstant'] at hlt

end HttpGateway.Moment
