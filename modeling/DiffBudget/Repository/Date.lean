import DiffBudget.Repository.Basic

/-!
# Dates

The local date and time of a moment, in the calendar that has a leap year every four years, but
three times less in four hundred. Years are counted from the first of March, so that the day that
a leap year has more is its last one.
-/
namespace DiffBudget.Date

/-- The number of days between the first of March of the year zero and the start of the count. -/
def epochDay : Nat := 719468

/-- The year, the month and the day of a day, all counted from one; the year from zero. -/
def ofDay (day : Nat) : Nat × Nat × Nat :=
  let era := day / 146097
  let dayOfEra := day % 146097
  let yearOfEra := (dayOfEra - dayOfEra / 1460 + dayOfEra / 36524 - dayOfEra / 146096) / 365
  let dayOfYear := dayOfEra - (365 * yearOfEra + yearOfEra / 4 - yearOfEra / 100)
  let shifted := (5 * dayOfYear + 2) / 153
  let month := if shifted < 10 then shifted + 3 else shifted - 9
  (era * 400 + yearOfEra + (if month ≤ 2 then 1 else 0), month,
    dayOfYear - (153 * shifted + 2) / 5 + 1)

def months : List Text :=
  ["Jan", "Feb", "Mar", "Apr", "May", "Jun", "Jul", "Aug", "Sep", "Oct", "Nov", "Dec"].map
    String.toList

def weekdays : List Text := ["Thu", "Fri", "Sat", "Sun", "Mon", "Tue", "Wed"].map String.toList

def twoDigits (n : Nat) : Text := [Char.ofNat (48 + n / 10), Char.ofNat (48 + n % 10)]

def zoneSeconds (zone : Text) : Int :=
  let digits := Text.valueIn 10 Text.decimalDigit (zone.filter Text.isDigit)
  let seconds : Int := (digits / 100 * 60 + digits % 100) * 60
  if zone.head? = some '-' then -seconds else seconds

def shown (seconds : Nat) (zone : Text) : Text :=
  let now := (seconds + zoneSeconds zone).toNat
  let day := now / 86400
  let (year, month, dayOfMonth) := ofDay (day + epochDay)
  let time := now % 86400
  [' '].intercalate
    [(weekdays[day % 7]?).getD [], (months[month - 1]?).getD [], Text.ofNat dayOfMonth,
      [':'].intercalate
        [twoDigits (time / 3600), twoDigits (time / 60 % 60), twoDigits (time % 60)],
      Text.ofNat year, zone]

/-- The calendar is the same again after four hundred years. -/
theorem ofDay_add_era (day : Nat) :
    ofDay (day + 146097) = ((ofDay day).1 + 400, (ofDay day).2) := by
  have hera : (day + 146097) / 146097 = day / 146097 + 1 := by omega
  have hday : (day + 146097) % 146097 = day % 146097 := by omega
  simp only [ofDay, hera, hday, Prod.mk.injEq, and_true]
  omega

example : ofDay epochDay = (1970, 1, 1) ∧ ofDay (epochDay + 11016) = (2000, 2, 29) ∧
    ofDay (epochDay + 11017 + 146097) = (2400, 3, 1) := by decide

end DiffBudget.Date
