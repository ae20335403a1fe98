import Mathlib.Data.Nat.Notation
import Mathlib.Tactic.Cases

/-!
# Fields of a fixed width

A record of fixed width is a row of fields, each filled up with one symbol that also stands
between the words of a field; a pair of fillers parts two groups of words. A field is read back at
its place, and the groups of words are read back from what they are written as.
-/
namespace FinylDcp.FilledFields

variable {α : Type*}

/-- The first `n` symbols, filled up from the right. -/
def fill (filler : α) (n : ℕ) (cs : List α) : List α := (cs ++ List.replicate n filler).take n

/-- The symbols from one place up to another. -/
def slice (start stop : ℕ) (cs : List α) : List α := (cs.take stop).drop start

section Places

variable {filler : α} {n start stop : ℕ} {cs pre rest : List α}

theorem fill_of_length_le (h : cs.length ≤ n) :
    fill filler n cs = cs ++ List.replicate (n - cs.length) filler := by
  rw [fill, List.take_append, List.take_of_length_le h, List.take_replicate,
    Nat.min_eq_left (Nat.sub_le _ _)]

theorem fill_of_length_eq (h : cs.length = n) : fill filler n cs = cs := by
  rw [fill_of_length_le (Nat.le_of_eq h), h, Nat.sub_self, List.replicate_zero, List.append_nil]

@[simp] theorem length_fill : (fill filler n cs).length = n := by
  rw [fill, List.length_take, List.length_append, List.length_replicate]
  omega

theorem mem_fill {c : α} (h : c ∈ fill filler n cs) : c ∈ cs ∨ c = filler := by
  have hmem := List.mem_of_mem_take h
  exact (List.mem_append.mp hmem).imp_right List.eq_of_mem_replicate

/-- Without its fillers a filled field is what was written. -/
theorem filter_fill [DecidableEq α] (hlength : cs.length ≤ n) (hcs : filler ∉ cs) :
    (fill filler n cs).filter (· ≠ filler) = cs := by
  have hkeep : cs.filter (· ≠ filler) = cs := by
    apply List.filter_eq_self.mpr
    intro c hc
    have hne : c ≠ filler := fun h => hcs (h ▸ hc)
    exact decide_eq_true hne
  rw [fill_of_length_le hlength, List.filter_append, hkeep]
  simp

/-- What lies before the field does not count. -/
theorem slice_append_right (h : pre.length ≤ start) :
    slice start stop (pre ++ rest) = slice (start - pre.length) (stop - pre.length) rest := by
  rw [slice, slice, List.take_append, List.drop_append]
  have hbefore : (pre.take stop).length ≤ start := by
    rw [List.length_take]
    omega
  rw [List.drop_eq_nil_of_le hbefore, List.nil_append, List.length_take]
  by_cases hstop : pre.length ≤ stop
  · rw [Nat.min_eq_right hstop]
  · have hnone : stop - pre.length = 0 := by omega
    simp [hnone]

/-- The field at the front. -/
theorem slice_append_left (h : pre.length = stop) : slice 0 stop (pre ++ rest) = pre := by
  rw [slice, List.drop_zero, List.take_append, ← h, Nat.sub_self, List.take_zero,
    List.append_nil, List.take_length]

end Places

/-- A group of words with a filler between any two. -/
def spelled (filler : α) (ws : List (List α)) : List α := [filler].intercalate ws

/-- Two groups of words with a pair of fillers between them, if there is a second one. -/
def identifiers (filler : α) (primary secondary : List (List α)) : List α :=
  if secondary = [] then spelled filler primary
  else spelled filler primary ++ filler :: filler :: spelled filler secondary

section Spelled

variable {filler : α} {c : α} {ws : List (List α)}

theorem spelled_singleton (w : List α) : spelled filler [w] = w := by
  rw [spelled, List.intercalate_singleton]

theorem spelled_cons_cons (w v : List α) (ws : List (List α)) :
    spelled filler (w :: v :: ws) = w ++ filler :: spelled filler (v :: ws) := by
  simp [spelled]

theorem mem_spelled (h : c ∈ spelled filler ws) : c = filler ∨ ∃ w ∈ ws, c ∈ w := by
  induction ws with
  | nil => exact absurd h List.not_mem_nil
  | cons w ws ih =>
    cases ws with
    | nil =>
      rw [spelled_singleton] at h
      exact .inr ⟨w, List.mem_cons_self, h⟩
    | cons v ws =>
      rw [spelled_cons_cons, List.mem_append, List.mem_cons] at h
      obtain hw | hfiller | hrest := h
      · exact .inr ⟨w, List.mem_cons_self, hw⟩
      · exact .inl hfiller
      · exact (ih hrest).imp_right fun ⟨u, hu, hc⟩ => ⟨u, List.mem_cons_of_mem _ hu, hc⟩

theorem mem_identifiers {primary secondary : List (List α)}
    (h : c ∈ identifiers filler primary secondary) :
    c = filler ∨ ∃ w ∈ primary ++ secondary, c ∈ w := by
  have hprimary : c ∈ spelled filler primary → c = filler ∨ ∃ w ∈ primary ++ secondary, c ∈ w :=
    fun hc => (mem_spelled hc).imp_right fun ⟨w, hw, hmem⟩ =>
      ⟨w, List.mem_append_left _ hw, hmem⟩
  unfold identifiers at h
  split at h
  · exact hprimary h
  · rw [List.mem_append, List.mem_cons, List.mem_cons] at h
    obtain hc | hc | hc | hc := h
    · exact hprimary hc
    · exact .inl hc
    · exact .inl hc
    · exact (mem_spelled hc).imp_right fun ⟨w, hw, hmem⟩ =>
        ⟨w, List.mem_append_right _ hw, hmem⟩

end Spelled

variable [DecidableEq α]

/-- The words between the fillers. -/
def words (filler : α) (cs : List α) : List (List α) := (cs.splitOn filler).filter (· ≠ [])

/-- What stands before and after the first pair of fillers. -/
def partitionPair (filler : α) : List α → List α × List α
  | [] => ([], [])
  | [c] => ([c], [])
  | c :: d :: rest =>
    if c = filler ∧ d = filler then ([], rest)
    else (c :: (partitionPair filler (d :: rest)).1, (partitionPair filler (d :: rest)).2)

section Words

variable {filler : α} {c : α} {w cs : List α} {ws : List (List α)}

theorem words_append_filler (xs ys : List α) :
    words filler (xs ++ filler :: ys) = words filler xs ++ words filler ys := by
  rw [words, List.splitOn_append_cons_self, List.filter_append]
  rfl

theorem words_replicate (n : ℕ) : words filler (List.replicate n filler) = [] := by
  induction n with
  | zero => simp [words]
  | succ n ih =>
    have hsplit := @words_append_filler α _ filler [] (List.replicate n filler)
    rw [List.nil_append] at hsplit
    rw [List.replicate_succ, hsplit, ih]
    simp [words]

theorem words_eq_singleton (hne : w ≠ []) (hw : filler ∉ w) : words filler w = [w] := by
  rw [words, List.splitOn_eq_singleton hw]
  simp [hne]

theorem words_append_replicate (cs : List α) (n : ℕ) :
    words filler (cs ++ List.replicate n filler) = words filler cs := by
  cases n with
  | zero => rw [List.replicate_zero, List.append_nil]
  | succ n => rw [List.replicate_succ, words_append_filler, words_replicate, List.append_nil]

/-- The words of a group are read back. -/
theorem words_spelled (hws : ∀ w ∈ ws, w ≠ [] ∧ filler ∉ w) :
    words filler (spelled filler ws) = ws := by
  induction ws with
  | nil => simp [spelled, words]
  | cons w ws ih =>
    have hw := hws w List.mem_cons_self
    have hrest := ih (fun v hv => hws v (List.mem_cons_of_mem _ hv))
    cases ws with
    | nil =>
      rw [spelled_singleton]
      exact words_eq_singleton hw.1 hw.2
    | cons v ws =>
      rw [spelled_cons_cons, words_append_filler, hrest, words_eq_singleton hw.1 hw.2]
      rfl

theorem partitionPair_pair (rest : List α) :
    partitionPair filler (filler :: filler :: rest) = ([], rest) := by
  rw [partitionPair, if_pos ⟨rfl, rfl⟩]

theorem partitionPair_cons_of_ne (h : c ≠ filler) (cs : List α) :
    partitionPair filler (c :: cs) =
      (c :: (partitionPair filler cs).1, (partitionPair filler cs).2) := by
  cases cs with
  | nil => rfl
  | cons d rest => rw [partitionPair, if_neg (fun hpair => h hpair.1)]

/-- A filler before another symbol is no pair. -/
theorem partitionPair_filler_cons (h : c ≠ filler) (cs : List α) :
    partitionPair filler (filler :: c :: cs) =
      (filler :: (partitionPair filler (c :: cs)).1, (partitionPair filler (c :: cs)).2) := by
  rw [partitionPair, if_neg (fun hpair => h hpair.2)]

theorem partitionPair_append (hw : filler ∉ w) (cs : List α) :
    partitionPair filler (w ++ cs) =
      (w ++ (partitionPair filler cs).1, (partitionPair filler cs).2) := by
  induction w with
  | nil => rfl
  | cons c w ih =>
    have hc : c ≠ filler := fun h => hw (h ▸ List.mem_cons_self)
    rw [List.cons_append, partitionPair_cons_of_ne hc,
      ih (fun h => hw (List.mem_cons_of_mem _ h))]
    rfl

/-- A group of words has no pair of fillers in it, nor a filler at its end. -/
theorem partitionPair_spelled_append (hws : ∀ w ∈ ws, w ≠ [] ∧ filler ∉ w) (cs : List α) :
    partitionPair filler (spelled filler ws ++ cs) =
      (spelled filler ws ++ (partitionPair filler cs).1, (partitionPair filler cs).2) := by
  induction ws with
  | nil => rfl
  | cons w ws ih =>
    have hw := hws w List.mem_cons_self
    have hrest := ih (fun v hv => hws v (List.mem_cons_of_mem _ hv))
    cases ws with
    | nil =>
      rw [spelled_singleton]
      exact partitionPair_append hw.2 cs
    | cons v ws =>
      have hv := hws v (List.mem_cons_of_mem _ List.mem_cons_self)
      obtain ⟨c, u, rfl⟩ := List.exists_cons_of_ne_nil hv.1
      have hc : c ≠ filler := fun h => hv.2 (h ▸ List.mem_cons_self)
      obtain ⟨tail, htail⟩ : ∃ tail, spelled filler ((c :: u) :: ws) = c :: tail := by
        cases ws <;> exact ⟨_, by simp [spelled]; rfl⟩
      rw [spelled_cons_cons, List.append_assoc, partitionPair_append hw.2, List.cons_append]
      rw [htail] at hrest ⊢
      rw [List.cons_append] at hrest ⊢
      rw [partitionPair_filler_cons hc, hrest]
      simp

theorem partitionPair_replicate (n : ℕ) : ∃ a b, partitionPair filler (List.replicate n filler) =
    (List.replicate a filler, List.replicate b filler) := by
  match n with
  | 0 => exact ⟨0, 0, rfl⟩
  | 1 => exact ⟨1, 0, rfl⟩
  | n + 2 => exact ⟨0, n, partitionPair_pair _⟩

/-- Both groups are read back from a field that they fit. -/
theorem words_partitionPair_fill {primary secondary : List (List α)} {n : ℕ}
    (hprimary : ∀ w ∈ primary, w ≠ [] ∧ filler ∉ w)
    (hsecondary : ∀ w ∈ secondary, w ≠ [] ∧ filler ∉ w)
    (hfits : (identifiers filler primary secondary).length ≤ n) :
    words filler (partitionPair filler (fill filler n (identifiers filler primary secondary))).1 =
        primary ∧
      words filler (partitionPair filler (fill filler n (identifiers filler primary secondary))).2 =
        secondary := by
  rw [fill_of_length_le hfits]
  generalize n - (identifiers filler primary secondary).length = k
  by_cases hnone : secondary = []
  · obtain ⟨a, b, hfillers⟩ := @partitionPair_replicate α _ filler k
    rw [identifiers, if_pos hnone, partitionPair_spelled_append hprimary, hfillers]
    exact ⟨by rw [words_append_replicate, words_spelled hprimary],
      by rw [words_replicate, hnone]⟩
  · rw [identifiers, if_neg hnone, List.append_assoc, partitionPair_spelled_append hprimary,
      List.cons_append, List.cons_append, partitionPair_pair, List.append_nil]
    exact ⟨words_spelled hprimary, by rw [words_append_replicate, words_spelled hsecondary]⟩

end Words

end FinylDcp.FilledFields
