import OneVoice.Construction.Billing.Ledger

namespace OneVoice.Billing

open ZonedTime

variable {Date Key : Type} {calendar : Calendar Date Key}

theorem Calendar.date_injective (calendar : Calendar Date Key) : Function.Injective calendar.date := by
  intro first second same
  rw [← calendar.number_date first, same, calendar.number_date]

theorem dayKey_eq_iff {first second} :
    dayKey calendar first = dayKey calendar second ↔ first.instant / dayWindow = second.instant / dayWindow := by
  unfold dayKey date utc
  rw [calendar.format_injective.eq_iff, calendar.date_injective.eq_iff, Int.add_zero, Int.add_zero]

/-- The window holds the day in UTC that the local date names. -/
theorem window_iff {day : ZonedTime} {instant : Int} :
    (calendar.number (day.date calendar) * dayWindow ≤ instant ∧
        instant < calendar.number (day.date calendar) * dayWindow + dayWindow) ↔
      instant / dayWindow = (day.instant + day.offset) / dayWindow := by
  have positive : 0 < dayWindow := by decide
  rw [date, calendar.number_date]
  generalize (day.instant + day.offset) / dayWindow = number
  have next : number * dayWindow + dayWindow = (number + 1) * dayWindow := by
    rw [Int.add_mul, Int.one_mul]
  rw [next, ← Int.le_ediv_iff_mul_le positive, ← Int.ediv_lt_iff_lt_mul positive]
  omega

/-- A day is read under its key just where its date is that of UTC. -/
theorem getDailySpend_eq_spendUnder_iff [DecidableEq Key] (calendar : Calendar Date Key) (day : ZonedTime) :
    (∀ logs businessID, getDailySpend calendar logs businessID day =
        spendUnder calendar logs businessID (dayKey calendar day)) ↔ day.date calendar = day.utc.date calendar := by
  have dates : day.date calendar = day.utc.date calendar ↔
      (day.instant + day.offset) / dayWindow = day.instant / dayWindow := by
    unfold date utc
    rw [calendar.date_injective.eq_iff, Int.add_zero]
  rw [dates]
  constructor
  · intro exact_reading
    have reading := exact_reading [⟨0, 1, 0, day.instant⟩] 0
    by_contra other
    have outside : ¬ day.instant / dayWindow = (day.instant + day.offset) / dayWindow := fun same => other same.symm
    simp [getDailySpend, spendUnder, window_iff, outside, dayKey_eq_iff, UsageLog.cost] at reading
  · intro same logs businessID
    simp only [getDailySpend, spendUnder, window_iff, dayKey_eq_iff, same]

/-- The calendar of the day numbers. -/
def Sample.dayNumbers : Calendar Int Int := ⟨id, id, id, fun _ => rfl, Function.injective_id⟩

/-- Half past midnight in UTC+1: a new date is read under the old key. -/
theorem local_midnight_reads_next_day : let day : ZonedTime := ⟨dayWindow - dayWindow / 48, dayWindow / 24⟩
    getDailySpend Sample.dayNumbers [⟨0, 1, 0, day.instant⟩] 0 day = 0 ∧
      spendUnder Sample.dayNumbers [⟨0, 1, 0, day.instant⟩] 0 (dayKey Sample.dayNumbers day) = 1 := by
  refine ⟨?_, ?_⟩
  · simp [getDailySpend, Sample.dayNumbers, date, dayWindow]
  · simp [spendUnder, dayKey_eq_iff, UsageLog.cost]

end OneVoice.Billing
