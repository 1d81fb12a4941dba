import ChatFeed.Time.Date

/-!
# Proofs/Time/Date — which times have a date

Dates end with the year `Date.lastYear`.  A day has a year up to that one exactly when it comes
before a certain day (`Date.year_le_iff`), so a known time is written as a date exactly up to one
last millisecond (`Date.text?_eq`).
-/

namespace ChatFeed.Date

/-- The days from the beginning of 1970 to the end of the last year of which dates are written. -/
def endDays : Nat := 95026237

/-- **The last millisecond of which dates are written.** -/
def lastMilli : Int := 8210266876799999

/-- The days before the year that begins in March of the last year, in its cycle. -/
def lastMarch : Nat := 51864

/-- The year that a day lies in, counted from March or from January. -/
theorem year_bounds (days : Nat) :
    400 * ((days + epochDays) / cycleDays) ≤ (ofDays days).year
      ∧ (ofDays days).year ≤ 400 * ((days + epochDays) / cycleDays) + 400 := by
  have hyear : yearOfCycle ((days + epochDays) % cycleDays) < 400 := by
    unfold yearOfCycle cycleDays
    omega
  unfold ofDays
  dsimp only
  split <;> split <;> omega

/-- The days of the year that begins in March of the last year are told by their number. -/
theorem yearOfCycle_le_iff {day : Nat} (h : day < cycleDays) :
    (yearOfCycle day ≤ 141 ↔ day < lastMarch)
      ∧ (yearOfCycle day ≤ 142 ↔ day < lastMarch + 365) := by
  unfold cycleDays at h
  unfold yearOfCycle lastMarch
  omega

/-- **A day has a year of which dates are written** when it comes before their end. -/
theorem year_le_iff (days : Nat) : (ofDays days).year ≤ lastYear ↔ days < endDays := by
  obtain ⟨hge, hle⟩ := year_bounds days
  have hcycle : (days + epochDays) % cycleDays < cycleDays := Nat.mod_lt _ (by decide)
  have hsplit := Nat.div_add_mod (days + epochDays) cycleDays
  rcases Nat.lt_trichotomy ((days + epochDays) / cycleDays) 655 with hq | hq | hq
  · simp only [lastYear, endDays, cycleDays, epochDays] at *
    omega
  · -- the last year lies in this cycle, so the day of the cycle decides
    obtain ⟨hbefore, hwithin⟩ := yearOfCycle_le_iff hcycle
    rw [hq] at hsplit
    generalize hday : (days + epochDays) % cycleDays = day at hbefore hwithin hcycle hsplit
    have hyear : (ofDays days).year ≤ lastYear ↔ day < lastMarch + 306 := by
      simp only [ofDays, hq, hday]
      generalize yearOfCycle day = year at hbefore hwithin
      simp only [lastYear, lastMarch] at *
      obtain hyear | rfl | hyear : year ≤ 141 ∨ year = 142 ∨ 143 ≤ year := by omega
      · split <;> split <;> omega
      · split <;> split <;> omega
      · split <;> split <;> omega
    simp only [endDays, lastMarch, cycleDays, epochDays] at *
    omega
  · simp only [lastYear, endDays, cycleDays, epochDays] at *
    omega

/-- **A known time is written as a date** exactly up to the last millisecond. -/
theorem text?_eq (millis : Int) : text? millis
    = if 0 < millis ∧ millis ≤ lastMilli then some (timeText millis.toNat) else none := by
  have hdays : (ofDays (millis.toNat / 86400000)).year ≤ lastYear
      ↔ millis.toNat / 86400000 < endDays := year_le_iff _
  have hknown : (0 < millis ∧ (ofDays (millis.toNat / 86400000)).year ≤ lastYear)
      ↔ 0 < millis ∧ millis ≤ lastMilli := by
    rw [hdays]
    unfold lastMilli endDays
    omega
  simp only [text?, hknown]

end ChatFeed.Date
