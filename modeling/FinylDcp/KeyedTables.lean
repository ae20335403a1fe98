import Mathlib.Data.List.Nodup
import Mathlib.Data.List.Pairwise

/-!
# Tables with generated keys

Rows under keys that are drawn from a sequence. Rows can be deleted; a key that was drawn is
not drawn again.
-/
namespace FinylDcp.Tables

/-- The rows with their keys, and the next key of the sequence. -/
structure Keyed (α : Type*) where
  rows : List (ℕ × α)
  next : ℕ
  drawn : ∀ x ∈ rows, x.1 < next
  nodup : (rows.map Prod.fst).Nodup

namespace Keyed

variable {α : Type*} (t : Keyed α)

/-- The row under a key. -/
def get? (key : ℕ) : Option α := (t.rows.find? (fun x => x.1 = key)).map Prod.snd

/-- A new row under the next key. -/
def insert (a : α) : Keyed α where
  rows := t.rows ++ [(t.next, a)]
  next := t.next + 1
  drawn x hx := by
    obtain hold | hnew := List.mem_append.mp hx
    · have := t.drawn x hold
      omega
    · obtain rfl := List.mem_singleton.mp hnew
      exact Nat.lt_succ_self _
  nodup := by
    rw [List.map_append, List.nodup_append']
    refine ⟨t.nodup, List.nodup_singleton _, fun key hold hnew => ?_⟩
    obtain ⟨x, hx, rfl⟩ := List.mem_map.mp hold
    have hlt := t.drawn x hx
    have heq : x.1 = t.next := by simpa using hnew
    omega

/-- The rows that a condition keeps. -/
def keep (p : ℕ → α → Bool) : Keyed α where
  rows := t.rows.filter (fun x => p x.1 x.2)
  next := t.next
  drawn x hx := t.drawn x (List.mem_of_mem_filter hx)
  nodup := t.nodup.sublist (List.filter_sublist.map Prod.fst)

/-- The rows changed in place, each with its key in view. -/
def change (f : ℕ → α → α) : Keyed α where
  rows := t.rows.map (fun x => (x.1, f x.1 x.2))
  next := t.next
  drawn x hx := by
    obtain ⟨y, hy, rfl⟩ := List.mem_map.mp hx
    exact t.drawn y hy
  nodup := by
    rw [List.map_map]
    exact t.nodup

/-- The row under one key changed in place. -/
def update (key : ℕ) (f : α → α) : Keyed α := t.change (fun k a => if k = key then f a else a)

variable {t}

theorem mem_rows {key : ℕ} {a : α} : (key, a) ∈ t.rows ↔ t.get? key = some a := by
  constructor
  · intro hmem
    have hfound : (t.rows.find? (fun x => x.1 = key)).isSome := by
      rw [List.find?_isSome]
      exact ⟨(key, a), hmem, by simp⟩
    obtain ⟨x, hx⟩ := Option.isSome_iff_exists.mp hfound
    have hkey : x.1 = key := by simpa using List.find?_some hx
    have hsame : x = (key, a) :=
      List.inj_on_of_nodup_map t.nodup (List.mem_of_find?_eq_some hx) hmem hkey
    rw [get?, hx, hsame]
    rfl
  · intro hget
    obtain ⟨x, hx, rfl⟩ := Option.map_eq_some_iff.mp hget
    have hkey : x.1 = key := by simpa using List.find?_some hx
    rw [← hkey]
    exact List.mem_of_find?_eq_some hx

theorem lt_next {key : ℕ} {a : α} (h : t.get? key = some a) : key < t.next :=
  t.drawn (key, a) (mem_rows.mpr h)

@[simp] theorem get?_insert (a : α) (key : ℕ) :
    (t.insert a).get? key = if key = t.next then some a else t.get? key := by
  split_ifs with hkey
  · rw [← mem_rows, hkey]
    exact List.mem_append_right _ (List.mem_singleton_self _)
  · simp [get?, insert, List.find?_append, Ne.symm hkey]

@[simp] theorem get?_keep (p : ℕ → α → Bool) (key : ℕ) :
    (t.keep p).get? key = (t.get? key).filter (p key) := by
  apply Option.ext
  intro a
  rw [← mem_rows, Option.filter_eq_some_iff, ← mem_rows]
  exact List.mem_filter

@[simp] theorem get?_change (f : ℕ → α → α) (key : ℕ) :
    (t.change f).get? key = (t.get? key).map (f key) := by
  simp only [get?, change, List.find?_map, Option.map_map]
  cases hfound : t.rows.find?
    ((fun x : ℕ × α => decide (x.1 = key)) ∘ fun x => (x.1, f x.1 x.2)) with
  | none =>
    have hnone : t.rows.find? (fun x => x.1 = key) = none := hfound
    rw [hnone]
    rfl
  | some x =>
    have hsome : t.rows.find? (fun x => x.1 = key) = some x := hfound
    have hkey : x.1 = key := by simpa using List.find?_some hsome
    rw [hsome]
    simp [hkey]

@[simp] theorem get?_update (key : ℕ) (f : α → α) (k : ℕ) :
    (t.update key f).get? k = if k = key then (t.get? k).map f else t.get? k := by
  rw [update, get?_change]
  split_ifs with hkey
  · rfl
  · exact Option.map_id'

@[simp] theorem next_insert (a : α) : (t.insert a).next = t.next + 1 := rfl

@[simp] theorem next_keep (p : ℕ → α → Bool) : (t.keep p).next = t.next := rfl

@[simp] theorem next_update (key : ℕ) (f : α → α) : (t.update key f).next = t.next := rfl

end Keyed

end FinylDcp.Tables
