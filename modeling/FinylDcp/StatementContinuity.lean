import FinylDcp.MpesaStatement
import Mathlib.Data.List.FinRange
import Mathlib.Data.Fintype.Basic

/-!
# The balances of a genuine statement

A ledger whose balances follow from its movements, printed as a statement with the oldest or with
the newest movement first, and what the integrity check says of it.
-/
namespace FinylDcp
open FinylDcp.Calendar FinylDcp.Listings

structure Movement where
  receipt : String
  time : Datetime
  paidIn : ℤ
  withdrawn : ℤ

def Movement.net (m : Movement) : ℤ := m.paidIn - m.withdrawn

structure Ledger where
  opening : ℤ
  movements : List Movement
  ordered : movements.Pairwise (fun m n => m.time ≤ n.time)

/-- The rows of the movements after a balance: each balance is the one before, with what was paid
in and without what was withdrawn. -/
def rowsFrom : ℤ → List Movement → List StatementRow
  | _, [] => []
  | balance, m :: ms =>
    let after := balance + m.paidIn - m.withdrawn
    ⟨m.receipt, some (parseDate m.time), m.paidIn, m.withdrawn, some after⟩ :: rowsFrom after ms

inductive Listing
  | oldestFirst | newestFirst

def Listing.list {α : Type*} : Listing → List α → List α
  | .oldestFirst, rows => rows
  | .newestFirst, rows => rows.reverse

/-- What the check says of a listing of the ledger: no break, and no tampering. -/
def CheckedClean (l : Ledger) (listing : Listing) : Prop :=
  let checked :=
    integrityCheck (extractTransactions (listing.list (rowsFrom l.opening l.movements)))
  (∀ f ∈ checked.1, f.code ≠ "balance_discontinuity") ∧ checked.2 = false

namespace Ledger

variable (l : Ledger)

abbrev Position : Type := Fin l.movements.length

/-- The minute that the statement gives for a movement. -/
def minute (i : l.Position) : Datetime := parseDate l.movements[i].time

/-- The balance after a number of movements. -/
def balance (k : ℕ) : ℤ := l.opening + ((l.movements.take k).map Movement.net).sum

/-- The net of the movements from one position to before another. -/
def netOf (i j : ℕ) : ℤ := (((l.movements.take j).drop i).map Movement.net).sum

def row (i : l.Position) : StatementRow :=
  ⟨l.movements[i].receipt, some (l.minute i), l.movements[i].paidIn, l.movements[i].withdrawn,
    some (l.balance (i + 1))⟩

/-- The one movement is listed before the other. -/
def Before : Listing → l.Position → l.Position → Prop
  | .oldestFirst, i, j => i < j
  | .newestFirst, i, j => j < i

/-- The row of a movement repeats no row that is listed before it. -/
def Kept (listing : Listing) (i : l.Position) : Prop :=
  ∀ j, l.Before listing j i → l.row j ≠ l.row i

/-- Nothing is kept between two movements that are. -/
structure Successive (listing : Listing) (i j : l.Position) : Prop where
  lt : i < j
  first : l.Kept listing i
  last : l.Kept listing j
  none : ∀ m, l.Kept listing m → i < m → ¬ m < j

/-- The one is the first that is kept of its minute, the other the last of a later minute, and
nothing is kept of a minute between. -/
structure Across (listing : Listing) (i j : l.Position) : Prop where
  lt : l.minute i < l.minute j
  first : l.Kept listing i ∧ ∀ m, l.Kept listing m → l.minute m = l.minute i → i ≤ m
  last : l.Kept listing j ∧ ∀ m, l.Kept listing m → l.minute m = l.minute j → m ≤ j
  none : ∀ m, l.Kept listing m → l.minute i < l.minute m → ¬ l.minute m < l.minute j

/-- What must come to at most 1.00. Oldest first: the movements dropped between two successive
ones. Newest first: the movements from one to the next of the same minute; and those after the
first of a minute and before the last of the next. -/
def Settles : Listing → Prop
  | .oldestFirst => ∀ i j, l.Successive .oldestFirst i j → |l.netOf (i + 1) j| ≤ 100
  | .newestFirst =>
    (∀ i j, l.Successive .newestFirst i j → l.minute i = l.minute j → |l.netOf i (j + 1)| ≤ 100) ∧
      ∀ i j, l.Across .newestFirst i j → |l.netOf (i + 1) j| ≤ 100

variable {l}

theorem balance_sub {i j : ℕ} (h : i ≤ j) : l.balance j - l.balance i = l.netOf i j := by
  have hsplit := List.take_append_drop i (l.movements.take j)
  rw [List.take_take, Nat.min_eq_left h] at hsplit
  have hsum : ((l.movements.take j).map Movement.net).sum =
      ((l.movements.take i).map Movement.net).sum + l.netOf i j := by
    conv_lhs => rw [← hsplit, List.map_append, List.sum_append]
    rfl
  rw [balance, balance, hsum]
  omega

theorem balance_succ (i : l.Position) :
    l.balance (i + 1) = l.balance i + l.movements[i].paidIn - l.movements[i].withdrawn := by
  have hlast : l.netOf i (i + 1) = l.movements[i].paidIn - l.movements[i].withdrawn := by
    rw [netOf, List.drop_take, Nat.add_sub_cancel_left, List.drop_eq_getElem_cons i.isLt,
      List.take_succ_cons, List.take_zero, List.map_singleton, List.sum_singleton]
    rfl
  have hsub := l.balance_sub (Nat.le_add_right i 1)
  omega

/-- A row continues the balance of the row before it in the listing when the balances that the
movements started and ended with are within 1.00. -/
theorem breaksContinuity_eq_false (i j : l.Position) :
    breaksContinuity (l.row i) (l.row j) = false ↔ |l.balance (i + 1) - l.balance j| ≤ 100 := by
  have hsub : l.balance (i + 1) + l.movements[j].paidIn - l.movements[j].withdrawn -
      l.balance (j + 1) = l.balance (i + 1) - l.balance j := by
    have hnext := l.balance_succ j
    omega
  simp only [breaksContinuity, row, hsub, decide_eq_false_iff_not, not_lt]

theorem getElem?_rowsFrom (balance : ℤ) (ms : List Movement) (k : ℕ) :
    (rowsFrom balance ms)[k]? = ms[k]?.map (fun m =>
      ⟨m.receipt, some (parseDate m.time), m.paidIn, m.withdrawn,
        some (balance + ((ms.take (k + 1)).map Movement.net).sum)⟩) := by
  induction ms generalizing balance k with
  | nil => rfl
  | cons m ms ih =>
    cases k with
    | zero => simp [rowsFrom, Movement.net, add_sub_assoc]
    | succ k =>
      have hsum : balance + m.paidIn - m.withdrawn + ((ms.take (k + 1)).map Movement.net).sum =
          balance + (((m :: ms).take (k + 1 + 1)).map Movement.net).sum := by
        rw [List.take_succ_cons, List.map_cons, List.sum_cons, Movement.net]
        omega
      rw [rowsFrom, List.getElem?_cons_succ, ih, List.getElem?_cons_succ, hsum]

/-- The rows of the ledger, by position. -/
theorem rows_eq (l : Ledger) :
    rowsFrom l.opening l.movements = (List.finRange l.movements.length).map l.row := by
  refine List.ext_getElem? fun k => ?_
  rw [getElem?_rowsFrom, List.getElem?_map]
  by_cases hk : k < l.movements.length
  · rw [List.getElem?_eq_getElem hk, List.getElem?_eq_getElem (by simpa using hk),
      List.getElem_finRange]
    rfl
  · rw [List.getElem?_eq_none (by omega), List.getElem?_eq_none (by simpa using hk)]
    rfl

theorem parseDate_mono {s t : Datetime} (h : s ≤ t) : parseDate s ≤ parseDate t := by
  rw [Datetime.le_iff] at h ⊢
  simp only [parseDate]
  omega

theorem minute_mono {i j : l.Position} (h : i ≤ j) : l.minute i ≤ l.minute j := by
  obtain rfl | hlt := h.eq_or_lt
  · exact le_refl _
  · exact parseDate_mono (List.pairwise_iff_getElem.mp l.ordered i j i.isLt j.isLt hlt)

theorem lt_of_minute_lt {i j : l.Position} (h : l.minute i < l.minute j) : i < j :=
  lt_of_not_ge fun hle => absurd (minute_mono hle) (not_le.mpr h)

/-- The positions in the order in which the statement lists them. -/
def positions (l : Ledger) (listing : Listing) : List l.Position :=
  listing.list (List.finRange l.movements.length)

theorem list_map {α β : Type*} (listing : Listing) (f : α → β) (xs : List α) :
    listing.list (xs.map f) = (listing.list xs).map f := by
  cases listing with
  | oldestFirst => rfl
  | newestFirst => exact List.map_reverse.symm

theorem before_asymm (listing : Listing) (i j : l.Position) (h : l.Before listing i j) :
    ¬ l.Before listing j i := by
  cases listing with
  | oldestFirst => exact lt_asymm h
  | newestFirst => exact lt_asymm h

theorem pairwise_positions (listing : Listing) :
    (l.positions listing).Pairwise (l.Before listing) := by
  have hsorted : (List.finRange l.movements.length).Pairwise (· < ·) :=
    List.pairwise_lt_finRange _
  cases listing with
  | oldestFirst => exact hsorted
  | newestFirst => exact List.pairwise_reverse.mpr hsorted

theorem mem_positions (listing : Listing) (i : l.Position) : i ∈ l.positions listing := by
  cases listing with
  | oldestFirst => exact List.mem_finRange i
  | newestFirst => exact List.mem_reverse.mpr (List.mem_finRange i)

/-- The positions that are kept, by minute and then as they are listed. -/
def sorted (l : Ledger) (listing : Listing) : List l.Position :=
  (firstOf (fun i => (l.row i).key) [] (l.positions listing)).insertionSort
    (fun i j => l.minute i ≤ l.minute j)

theorem mem_sorted {listing : Listing} {i : l.Position} :
    i ∈ l.sorted listing ↔ l.Kept listing i := by
  rw [sorted, (List.perm_insertionSort _ _).mem_iff,
    mem_firstOf (before_asymm listing) (pairwise_positions listing)]
  simp [mem_positions, StatementRow.key_injective.eq_iff, Kept]

theorem pairwise_sorted (listing : Listing) :
    (l.sorted listing).Pairwise (Precedes l.minute (l.Before listing)) :=
  pairwise_insertionSort_precedes ((pairwise_positions listing).sublist firstOf_sublist)

theorem extractTransactions_eq (listing : Listing) :
    extractTransactions (listing.list (rowsFrom l.opening l.movements)) =
      (l.sorted listing).map l.row := by
  rw [rows_eq, list_map, extractTransactions, firstOf_map, sorted]
  exact (List.map_insertionSort (fun i j => l.minute i ≤ l.minute j)
    (fun r s : StatementRow => r.date.getD datetimeMin ≤ s.date.getD datetimeMin) l.row _
    fun _ _ _ _ => Iff.rfl).symm

/-- The check is clean exactly when each two neighbours, by minute and then as listed, chain. -/
theorem checkedClean_iff (listing : Listing) :
    CheckedClean l listing ↔
      ∀ i j, l.Kept listing i → l.Kept listing j → Precedes l.minute (l.Before listing) i j →
        (∀ m, l.Kept listing m → Precedes l.minute (l.Before listing) i m →
          ¬ Precedes l.minute (l.Before listing) m j) →
        |l.balance (i + 1) - l.balance j| ≤ 100 := by
  have hasymm : ∀ i j, Precedes l.minute (l.Before listing) i j →
      ¬ Precedes l.minute (l.Before listing) j i :=
    fun i j => Precedes.asymm (before_asymm listing)
  have hclean : CheckedClean l listing ↔
      (l.sorted listing).IsChain (fun i j => breaksContinuity (l.row i) (l.row j) = false) := by
    rw [CheckedClean, extractTransactions_eq, and_iff_left_of_imp integrityCheck_tampering,
      integrityCheck_iff, List.isChain_map]
  rw [hclean, isChain_iff_neighbours hasymm (pairwise_sorted listing)]
  simp only [mem_sorted, breaksContinuity_eq_false]
  exact ⟨fun h i j hi hj => h i hi j hj, fun h i hi j hj => h i j hi hj⟩

theorem precedes_oldestFirst {i j : l.Position} :
    Precedes l.minute (l.Before .oldestFirst) i j ↔ i < j := by
  constructor
  · rintro (hlt | ⟨-, hlt⟩)
    · exact lt_of_minute_lt hlt
    · exact hlt
  · intro hlt
    exact (minute_mono hlt.le).lt_or_eq.imp_right fun heq => ⟨heq, hlt⟩

/-- Between two movements of one minute all are of it. -/
theorem minute_between {i j m : l.Position} (h : l.minute i = l.minute j) (him : i < m)
    (hmj : m < j) : l.minute m = l.minute i ∧ l.minute m = l.minute j := by
  have hlo := minute_mono him.le
  have hhi := minute_mono hmj.le
  exact ⟨le_antisymm (hhi.trans h.ge) hlo, le_antisymm hhi (h.ge.trans hlo)⟩

theorem checkedClean_oldestFirst : CheckedClean l .oldestFirst ↔ l.Settles .oldestFirst := by
  simp only [checkedClean_iff, precedes_oldestFirst, Settles]
  have hnet : ∀ i j : l.Position, i < j →
      |l.balance (i + 1) - l.balance j| = |l.netOf (i + 1) j| := by
    intro i j hlt
    rw [abs_sub_comm, balance_sub (Nat.succ_le_of_lt hlt)]
  constructor
  · rintro h i j ⟨hlt, hi, hj, hnone⟩
    rw [← hnet i j hlt]
    exact h i j hi hj hlt hnone
  · intro h i j hi hj hlt hnone
    rw [hnet i j hlt]
    exact h i j ⟨hlt, hi, hj, hnone⟩

theorem balance_through {i j : l.Position} (h : i < j) :
    l.balance (j + 1) - l.balance i = l.netOf i (j + 1) := by
  have hlt : (i : ℕ) < j := h
  exact balance_sub (by omega)

theorem checkedClean_newestFirst : CheckedClean l .newestFirst ↔ l.Settles .newestFirst := by
  rw [checkedClean_iff, Settles]
  constructor
  · intro h
    constructor
    · rintro i j ⟨hlt, hi, hj, hnone⟩ hsame
      rw [← balance_through hlt]
      refine h j i hj hi (.inr ⟨hsame.symm, hlt⟩) fun m hm hjm hmi => ?_
      obtain hlater | ⟨heqj, hmj⟩ := hjm
      · obtain hearlier | ⟨heq, -⟩ := hmi
        · exact lt_asymm (hsame.trans_lt hlater) hearlier
        · exact hlater.ne (hsame.symm.trans heq.symm)
      · obtain hearlier | ⟨-, him⟩ := hmi
        · exact absurd (hearlier.trans_eq (hsame.trans heqj)) (lt_irrefl _)
        · exact hnone m hm him hmj
    · rintro i j ⟨hlt, ⟨hi, hfirst⟩, ⟨hj, hlast⟩, hnone⟩
      rw [← balance_sub (Nat.succ_le_of_lt (lt_of_minute_lt hlt)), abs_sub_comm]
      refine h i j hi hj (.inl hlt) fun m hm him hmj => ?_
      obtain him | ⟨heq, hmi⟩ := him
      · obtain hmj | ⟨heq, hjm⟩ := hmj
        · exact hnone m hm him hmj
        · exact absurd (hlast m hm heq) (not_le.mpr hjm)
      · exact absurd (hfirst m hm heq.symm) (not_le.mpr hmi)
  · rintro ⟨hwithin, hacross⟩ i j hi hj hprec hnone
    obtain hlt | ⟨hsame, hji⟩ := hprec
    · rw [abs_sub_comm, balance_sub (Nat.succ_le_of_lt (lt_of_minute_lt hlt))]
      refine hacross i j ⟨hlt, ⟨hi, fun m hm heq => ?_⟩, ⟨hj, fun m hm heq => ?_⟩,
        fun m hm him hmj => hnone m hm (.inl him) (.inl hmj)⟩
      · exact le_of_not_gt fun hmi =>
          hnone m hm (.inr ⟨heq.symm, hmi⟩) (.inl (heq.trans_lt hlt))
      · exact le_of_not_gt fun hjm =>
          hnone m hm (.inl (hlt.trans_eq heq.symm)) (.inr ⟨heq, hjm⟩)
    · rw [balance_through hji]
      refine hwithin j i ⟨hji, hj, hi, fun m hm hjm hmi => ?_⟩ hsame.symm
      obtain ⟨hj', hi'⟩ := minute_between hsame.symm hjm hmi
      exact hnone m hm (.inr ⟨hi'.symm, hmi⟩) (.inr ⟨hj', hjm⟩)

/-- A ledger none of whose rows repeats another breaks nothing with the oldest movement first. -/
theorem settles_oldestFirst (h : ∀ i j, l.row i = l.row j → i = j) :
    l.Settles .oldestFirst := by
  rintro i j ⟨hlt, -, -, hnone⟩
  have hkept : ∀ m, l.Kept .oldestFirst m := fun m k hk heq => hk.ne (h k m heq)
  have hnext : (i : ℕ) + 1 = j := by
    by_contra hne
    have hij : (i : ℕ) < j := hlt
    exact hnone ⟨i + 1, by omega⟩ (hkept _) (Fin.lt_def.mpr (Nat.lt_succ_self _))
      (Fin.lt_def.mpr (by change (i : ℕ) + 1 < j; omega))
  rw [← hnext, ← balance_sub (le_refl _), sub_self, abs_zero]
  decide

end Ledger

/-- A statement of a ledger passes the check exactly when what the order of its rows puts out of
turn settles to within 1.00. -/
theorem statement_clean_iff (l : Ledger) (listing : Listing) :
    CheckedClean l listing ↔ l.Settles listing := by
  cases listing with
  | oldestFirst => exact l.checkedClean_oldestFirst
  | newestFirst => exact l.checkedClean_newestFirst

/-- 500.00 in and 200.00 out within a minute. -/
def busyMinute : Ledger where
  opening := 0
  movements := [
    ⟨"SAA1B2C3D4", ⟨date 2026 3 2, clock 10 15 5, by decide⟩, 50000, 0⟩,
    ⟨"SAA1B2C3D5", ⟨date 2026 3 2, clock 10 15 40, by decide⟩, 0, 20000⟩]
  ordered := by decide

/-- Listed with the newest first the two rows stay in that order, and the balances break. -/
theorem busy_minute_breaks : ¬ CheckedClean busyMinute .newestFirst := by
  rintro ⟨-, htampering⟩
  revert htampering
  decide

end FinylDcp
