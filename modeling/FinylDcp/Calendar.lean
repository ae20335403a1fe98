import Mathlib.Algebra.Order.Ring.Int
import Mathlib.Data.Prod.Lex

/-!
# Calendar

Months, dates and timestamps of the proleptic calendar, with timestamps to the microsecond, in
the order of time.
-/
namespace FinylDcp.Calendar

def isLeap (year : ℕ) : Bool := year % 4 = 0 && (year % 100 ≠ 0 || year % 400 = 0)

/-- The number of days of a month. -/
def monthDays (year month : ℕ) : ℕ :=
  match month with
  | 2 => if isLeap year then 29 else 28
  | 4 | 6 | 9 | 11 => 30
  | _ => 31

theorem monthDays_pos (year month : ℕ) : 1 ≤ monthDays year month := by
  unfold monthDays
  split <;> (try split) <;> decide

theorem monthDays_le (year month : ℕ) : monthDays year month ≤ 31 := by
  unfold monthDays
  split <;> (try split) <;> decide

@[ext] structure Month where
  year : ℕ
  month : ℕ
  valid : 1 ≤ month ∧ month ≤ 12
  deriving DecidableEq

@[ext] structure Date where
  year : ℕ
  month : ℕ
  day : ℕ
  month_valid : 1 ≤ month ∧ month ≤ 12
  day_valid : 1 ≤ day ∧ day ≤ monthDays year month
  deriving DecidableEq

/-- The date of three numbers; 1 January of year 1 where there is none. -/
def date (year month day : ℕ) : Date :=
  if h : (1 ≤ month ∧ month ≤ 12) ∧ 1 ≤ day ∧ day ≤ monthDays year month then
    ⟨year, month, day, h.1, h.2⟩
  else ⟨1, 1, 1, by decide, by decide⟩

def Date.toMonth (d : Date) : Month := ⟨d.year, d.month, d.month_valid⟩

def Month.firstDay (m : Month) : Date := ⟨m.year, m.month, 1, m.valid, le_refl 1, monthDays_pos _ _⟩

def Month.lastDay (m : Month) : Date :=
  ⟨m.year, m.month, monthDays m.year m.month, m.valid, monthDays_pos _ _, le_refl _⟩

/-- The month before. -/
def Month.previous (m : Month) : Month :=
  if h : m.month = 1 then ⟨m.year - 1, 12, by decide⟩
  else ⟨m.year, m.month - 1, by have := m.valid; omega⟩

/-- The day after. -/
def Date.next (d : Date) : Date :=
  if hday : d.day < monthDays d.year d.month then
    ⟨d.year, d.month, d.day + 1, d.month_valid, by omega, hday⟩
  else if hmonth : d.month < 12 then
    ⟨d.year, d.month + 1, 1, by omega, le_refl 1, monthDays_pos _ _⟩
  else ⟨d.year + 1, 1, 1, by decide, le_refl 1, monthDays_pos _ _⟩

/-- The day before. -/
def Date.previous (d : Date) : Date :=
  if hday : 1 < d.day then
    ⟨d.year, d.month, d.day - 1, d.month_valid, by have := d.day_valid; omega⟩
  else if hmonth : 1 < d.month then
    ⟨d.year, d.month - 1, monthDays d.year (d.month - 1), by have := d.month_valid; omega,
      monthDays_pos _ _, le_refl _⟩
  else ⟨d.year - 1, 12, 31, by decide, by decide, le_refl 31⟩

theorem Date.previous_ne_next (d : Date) : d.previous ≠ d.next := by
  have hday := d.day_valid
  intro h
  rw [Date.ext_iff] at h
  unfold Date.previous Date.next at h
  split_ifs at h <;> simp at h <;> omega

/-- The days before a month of the year. -/
def daysBeforeMonth (year month : ℕ) : ℕ :=
  ((List.range' 1 (month - 1)).map (monthDays year)).sum

/-- The number of a date, from 1 for the first day of year 1. -/
def Date.toOrdinal (d : Date) : ℕ :=
  let y := d.year - 1
  y * 365 + y / 4 - y / 100 + y / 400 + daysBeforeMonth d.year d.month + d.day

/-- The day of the week, from 0 for Monday. -/
def Date.weekday (d : Date) : ℕ := (d.toOrdinal + 6) % 7

example : (date 2026 1 1).weekday = 3 := by decide

@[simp] theorem toMonth_firstDay (m : Month) : m.firstDay.toMonth = m := rfl

@[simp] theorem toMonth_lastDay (m : Month) : m.lastDay.toMonth = m := rfl

/-- The microseconds of a day up to a time of the clock. -/
def clock (hour minute second : ℕ) : ℕ := ((hour * 60 + minute) * 60 + second) * 1000000

@[ext] structure Datetime where
  date : Date
  micros : ℕ
  micros_lt : micros < clock 24 0 0
  deriving DecidableEq

namespace Datetime

/-- The fields in the order of their weight. -/
def key (t : Datetime) : ℕ ×ₗ ℕ ×ₗ ℕ ×ₗ ℕ :=
  toLex (t.date.year, toLex (t.date.month, toLex (t.date.day, t.micros)))

theorem key_injective : Function.Injective key := by
  intro s t h
  simp only [key, EmbeddingLike.apply_eq_iff_eq, Prod.mk.injEq] at h
  exact Datetime.ext (Date.ext h.1 h.2.1 h.2.2.1) h.2.2.2

instance : LinearOrder Datetime := LinearOrder.lift' key key_injective

theorem le_iff {s t : Datetime} :
    s ≤ t ↔ s.date.year < t.date.year ∨ s.date.year = t.date.year ∧
      (s.date.month < t.date.month ∨ s.date.month = t.date.month ∧
        (s.date.day < t.date.day ∨ s.date.day = t.date.day ∧ s.micros ≤ t.micros)) := by
  change s.key ≤ t.key ↔ _
  simp only [key, Prod.Lex.toLex_le_toLex]

/-- The second that 23:59:59 opens on the last day of a month, but for its first instant. -/
def InClosingSecond (t : Datetime) : Prop :=
  t.date = t.date.toMonth.lastDay ∧ clock 23 59 59 < t.micros

instance (t : Datetime) : Decidable t.InClosingSecond := inferInstanceAs (Decidable (_ ∧ _))

end Datetime

/-- The first instant of a month. -/
def Month.opening (m : Month) : Datetime := ⟨m.firstDay, clock 0 0 0, by decide⟩

/-- 23:59:59 on the last day of a month. -/
def Month.closing (m : Month) : Datetime := ⟨m.lastDay, clock 23 59 59, by decide⟩

/-- From the first instant of a month to its last second a timestamp is of the month, and not
past the instant that opens the second. -/
theorem between_iff {m : Month} {t : Datetime} :
    m.opening ≤ t ∧ t ≤ m.closing ↔ t.date.toMonth = m ∧ ¬ t.InClosingSecond := by
  have hday := t.date.day_valid
  constructor
  · rintro ⟨hlo, hhi⟩
    rw [Datetime.le_iff] at hlo hhi
    simp only [Month.opening, Month.closing, Month.firstDay, Month.lastDay] at hlo hhi
    have hm : t.date.toMonth = m := Month.ext (by dsimp [Date.toMonth]; omega)
      (by dsimp [Date.toMonth]; omega)
    refine ⟨hm, fun ⟨hlast, hlate⟩ => ?_⟩
    have hd : t.date.day = monthDays m.year m.month := by
      rw [hlast, hm]
      rfl
    omega
  · rintro ⟨rfl, hnot⟩
    rw [Datetime.le_iff, Datetime.le_iff]
    simp only [Month.opening, Month.closing, Month.firstDay, Month.lastDay, Date.toMonth]
    refine ⟨.inr ⟨trivial, .inr ⟨trivial, ?_⟩⟩, .inr ⟨trivial, .inr ⟨trivial, ?_⟩⟩⟩
    · have hzero : clock 0 0 0 = 0 := rfl
      omega
    · by_cases hlast : t.date.day = monthDays t.date.year t.date.month
      · right
        exact ⟨hlast, not_lt.mp fun hlate => hnot ⟨Date.ext rfl rfl hlast, hlate⟩⟩
      · omega

/-- A timestamp lies within the bounds of exactly one month, unless it is in the closing second
of its own. -/
theorem existsUnique_month_iff (t : Datetime) :
    (∃! m : Month, m.opening ≤ t ∧ t ≤ m.closing) ↔ ¬ t.InClosingSecond := by
  simp only [between_iff]
  constructor
  · rintro ⟨m, ⟨-, hnot⟩, -⟩
    exact hnot
  · intro hnot
    exact ⟨t.date.toMonth, ⟨rfl, hnot⟩, fun m hm => hm.1.symm⟩

end FinylDcp.Calendar
