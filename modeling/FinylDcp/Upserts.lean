import Mathlib.Data.List.Induction
import Mathlib.Data.List.Nodup

/-!
# Tables with natural keys

Rows of which no two share a key. A row that is written replaces the one of its key, or is
added behind the others; what a key holds is what was written to it last.
-/
namespace FinylDcp.Tables

variable {α κ : Type*} [DecidableEq κ] (key : α → κ)

/-- The row of a key. -/
def rowOf (k : κ) (rows : List α) : Option α := rows.find? (fun a => key a = k)

/-- A row put in the place of the row of its key, or added at the end. -/
def upsert (a : α) : List α → List α
  | [] => [a]
  | b :: rows => if key b = key a then a :: rows else b :: upsert a rows

variable {key} {a b : α} {k : κ} {rows : List α}

theorem rowOf_cons : rowOf key k (b :: rows) = if key b = k then some b else rowOf key k rows := by
  unfold rowOf
  by_cases h : key b = k <;> simp [h]

theorem rowOf_eq_some (h : rowOf key k rows = some a) : a ∈ rows ∧ key a = k :=
  ⟨List.mem_of_find?_eq_some h, by simpa using List.find?_some h⟩

theorem rowOf_eq_none : rowOf key k rows = none ↔ k ∉ rows.map key := by
  simp [rowOf]

/-- Where no two rows share a key, a row is the one of its key. -/
theorem rowOf_eq_some_iff (h : (rows.map key).Nodup) :
    rowOf key k rows = some a ↔ a ∈ rows ∧ key a = k := by
  refine ⟨rowOf_eq_some, ?_⟩
  rintro ⟨hmem, rfl⟩
  obtain ⟨b, hb⟩ : ∃ b, rowOf key (key a) rows = some b := by
    refine Option.ne_none_iff_exists'.mp fun hnone => ?_
    exact rowOf_eq_none.mp hnone (List.mem_map_of_mem hmem)
  obtain ⟨hbmem, hbkey⟩ := rowOf_eq_some hb
  rw [hb, List.inj_on_of_nodup_map h hbmem hmem hbkey]

@[simp] theorem rowOf_upsert :
    rowOf key k (upsert key a rows) = if key a = k then some a else rowOf key k rows := by
  induction rows with
  | nil =>
    rw [upsert, rowOf_cons]
  | cons b rows ih =>
    rw [upsert]
    split
    next hsame =>
      rw [rowOf_cons, rowOf_cons, hsame]
      split_ifs <;> rfl
    next hother =>
      rw [rowOf_cons, rowOf_cons, ih]
      by_cases hb : key b = k
      · rw [if_pos hb, if_pos hb, if_neg fun ha => hother (hb.trans ha.symm)]
      · rw [if_neg hb, if_neg hb]

theorem mem_keys_upsert :
    k ∈ (upsert key a rows).map key ↔ k = key a ∨ k ∈ rows.map key := by
  induction rows with
  | nil => simp [upsert]
  | cons b rows ih =>
    rw [upsert]
    split
    next hsame => simp [hsame]
    next hother =>
      rw [List.map_cons, List.mem_cons, ih, List.map_cons, List.mem_cons]
      exact or_left_comm

theorem nodup_upsert (h : (rows.map key).Nodup) : ((upsert key a rows).map key).Nodup := by
  induction rows with
  | nil => exact List.nodup_singleton _
  | cons b rows ih =>
    obtain ⟨hnew, hrest⟩ := List.nodup_cons.mp (by simpa only [List.map_cons] using h)
    rw [upsert]
    split
    next hsame =>
      rw [List.map_cons, List.nodup_cons]
      exact ⟨hsame ▸ hnew, hrest⟩
    next hother =>
      rw [List.map_cons, List.nodup_cons, mem_keys_upsert, not_or]
      exact ⟨⟨hother, hnew⟩, ih hrest⟩

theorem of_mem_upsert (h : b ∈ upsert key a rows) : b = a ∨ b ∈ rows := by
  induction rows with
  | nil => exact .inl (List.mem_singleton.mp h)
  | cons c rows ih =>
    rw [upsert] at h
    split at h
    · obtain rfl | hmem := List.mem_cons.mp h
      · exact .inl rfl
      · exact .inr (List.mem_cons_of_mem _ hmem)
    · obtain rfl | hmem := List.mem_cons.mp h
      · exact .inr List.mem_cons_self
      · exact (ih hmem).imp_right (List.mem_cons_of_mem _)

/-- Rows of which no two share a key. -/
structure KeyTable (key : α → κ) where
  rows : List α
  nodup : (rows.map key).Nodup

namespace KeyTable

variable (t : KeyTable key)

def get? (k : κ) : Option α := rowOf key k t.rows

/-- A row written under its key. -/
def write (a : α) : KeyTable key := ⟨upsert key a t.rows, nodup_upsert t.nodup⟩

/-- The rows that a condition keeps. -/
def keep (p : α → Bool) : KeyTable key :=
  ⟨t.rows.filter p, t.nodup.sublist (List.filter_sublist.map key)⟩

instance : EmptyCollection (KeyTable key) := ⟨⟨[], List.nodup_nil⟩⟩

variable {t}

theorem get?_eq_some : t.get? k = some a ↔ a ∈ t.rows ∧ key a = k := rowOf_eq_some_iff t.nodup

@[simp] theorem get?_write : (t.write a).get? k = if key a = k then some a else t.get? k :=
  rowOf_upsert

/-- Of the rows of one key there is at most one. -/
theorem filter_key_eq (k : κ) : t.rows.filter (fun a => key a = k) = (t.get? k).toList := by
  obtain ⟨rows, nodup⟩ := t
  unfold get?
  induction rows with
  | nil => rfl
  | cons b rows ih =>
    obtain ⟨hnew, hrest⟩ := List.nodup_cons.mp (by simpa only [List.map_cons] using nodup)
    have htail := ih hrest
    rw [rowOf_cons]
    dsimp only at htail ⊢
    by_cases hb : key b = k
    · subst hb
      rw [rowOf_eq_none.mpr hnew] at htail
      rw [List.filter_cons_of_pos (by simp), htail, if_pos rfl]
      rfl
    · rw [List.filter_cons_of_neg (by simpa using hb), htail, if_neg hb]

/-- What a key holds after any writes: what was last written to it, or else what it held. -/
theorem get?_foldl_write (writes : List α) :
    (writes.foldl write t).get? k =
      ((writes.filter (fun a => key a = k)).getLast?).or (t.get? k) := by
  induction writes using List.reverseRecOn with
  | nil => rfl
  | append_singleton writes a ih =>
    rw [List.foldl_append, List.foldl_cons, List.foldl_nil, get?_write, ih, List.filter_append]
    by_cases hkey : key a = k <;> simp [hkey]

end KeyTable

end FinylDcp.Tables
