import Mathlib.Data.List.Nodup
import Mathlib.Data.List.Pairwise
import Mathlib.Data.List.Basic
import Mathlib.Data.List.Forall2
import Mathlib.Data.List.Sort
import Mathlib.Algebra.BigOperators.Group.List.Basic
import Mathlib.Tactic.Linarith

/-!
# Tables as lists

A table whose rows are never deleted is a list and a row's key is its position.
What changes when one row is changed in place, and what a unique index says about
sums over the rows.
-/
namespace FinylDcp.Tables

variable {α β κ : Type*}

/-- The row at the first index that fits is the first row that fits. -/
theorem find?_of_findIdx? {p : α → Bool} {l : List α} {i : ℕ} {x : α} (hi : l.findIdx? p = some i)
    (hx : l[i]? = some x) : l.find? p = some x := by
  obtain ⟨hlt, hp, hbefore⟩ := List.findIdx?_eq_some_iff_getElem.mp hi
  obtain ⟨_, rfl⟩ := List.getElem?_eq_some_iff.mp hx
  exact List.find?_eq_some_iff_getElem.mpr
    ⟨hp, i, hlt, rfl, fun j hj => by simpa using hbefore j hj⟩

/-- Changing a row in place leaves a projection alone that the change respects on it. -/
theorem map_modify_of_row (g : α → β) {f : α → α} {l : List α} {i : ℕ}
    (h : ∀ x, l[i]? = some x → g (f x) = g x) : (l.modify i f).map g = l.map g := by
  apply List.ext_getElem?
  intro j
  simp only [List.getElem?_map, List.getElem?_modify, Option.map_eq_map, Option.map_map]
  by_cases hij : i = j
  · subst hij
    cases hx : l[i]? with
    | none => rfl
    | some x => simpa using h x hx
  · simp [hij, Function.comp_def]

theorem map_modify_of_eq (g : α → β) {f : α → α} (h : ∀ x, g (f x) = g x) (l : List α) (i : ℕ) :
    (l.modify i f).map g = l.map g :=
  map_modify_of_row g fun x _ => h x

/-- Changing one row changes a sum by what it changes for that row. -/
theorem sum_map_modify (w : α → ℤ) (f : α → α) {l : List α} {i : ℕ} {x : α} (h : l[i]? = some x) :
    ((l.modify i f).map w).sum = (l.map w).sum - w x + w (f x) := by
  induction l generalizing i with
  | nil => simp at h
  | cons y l ih =>
    cases i with
    | zero =>
      obtain rfl : y = x := by simpa using h
      simp only [List.modify_zero_cons, List.map_cons, List.sum_cons]
      omega
    | succ i =>
      have hrest : l[i]? = some x := by simpa using h
      simp only [List.modify_succ_cons, List.map_cons, List.sum_cons, ih hrest]
      omega

/-- Changing one row changes a count by what it changes for that row. -/
theorem length_filter_modify (p : α → Bool) (f : α → α) {l : List α} {i : ℕ} {x : α}
    (h : l[i]? = some x) : ((l.modify i f).filter p).length + (if p x then 1 else 0) =
      (l.filter p).length + (if p (f x) then 1 else 0) := by
  induction l generalizing i with
  | nil => simp at h
  | cons y l ih =>
    cases i with
    | zero =>
      obtain rfl : y = x := by simpa using h
      simp only [List.modify_zero_cons, List.filter_cons]
      cases p y <;> cases p (f y) <;> simp
    | succ i =>
      have hrest : l[i]? = some x := by simpa using h
      have hcount := ih hrest
      simp only [List.modify_succ_cons, List.filter_cons]
      by_cases hy : p y = true
      · rw [if_pos hy, if_pos hy, List.length_cons, List.length_cons]
        omega
      · rw [if_neg hy, if_neg hy]
        exact hcount

/-- Changing a row that does not fit, and does not come to fit, leaves those that fit. -/
theorem filter_modify_of_not {p : α → Bool} {f : α → α} {l : List α} {i : ℕ}
    (h : ∀ x, l[i]? = some x → p x = false ∧ p (f x) = false) :
    (l.modify i f).filter p = l.filter p := by
  induction l generalizing i with
  | nil => simp
  | cons y l ih =>
    cases i with
    | zero =>
      obtain ⟨hy, hfy⟩ := h y rfl
      simp [hy, hfy]
    | succ i =>
      have hrest := ih (i := i) fun x hx => h x (by simpa using hx)
      simp only [List.modify_succ_cons, List.filter_cons, hrest]

/-- Changing the row that came in last. -/
theorem modify_append_row (f : α → α) (l : List α) (x : α) :
    (l ++ [x]).modify l.length f = l ++ [f x] := by
  induction l with
  | nil => rfl
  | cons y l ih => simp [List.modify_succ_cons, ih]

theorem set_append_row (l : List α) (x y : α) : (l ++ [x]).set l.length y = l ++ [y] := by
  rw [List.set_append_right _ _ (le_refl _), Nat.sub_self, List.set_cons_zero]

/-- Rows that fit one of two exclusive conditions. -/
theorem length_filter_or {p q : α → Bool} (h : ∀ x, p x = true → q x = false) (l : List α) :
    (l.filter (fun x => p x || q x)).length = (l.filter p).length + (l.filter q).length := by
  induction l with
  | nil => rfl
  | cons x l ih =>
    simp only [List.filter_cons]
    cases hp : p x
    · cases hq : q x
      · simpa using ih
      · simp [ih]
        omega
    · simp [h x hp, ih]
      omega

/-- A row that fits is counted. -/
theorem one_le_length_filter {p : α → Bool} {l : List α} {i : ℕ} {x : α} (hx : l[i]? = some x)
    (hp : p x = true) : 1 ≤ (l.filter p).length :=
  List.length_pos_of_mem (List.mem_filter.mpr ⟨List.mem_of_getElem? hx, hp⟩)

/-- Two rows that fit are counted twice. -/
theorem two_le_length_filter {p : α → Bool} {l : List α} {i j : ℕ} {x y : α} (hij : i ≠ j)
    (hx : l[i]? = some x) (hy : l[j]? = some y) (hpx : p x = true) (hpy : p y = true) :
    2 ≤ (l.filter p).length := by
  induction l generalizing i j with
  | nil => simp at hx
  | cons z l ih =>
    cases i with
    | zero =>
      obtain rfl : z = x := by simpa using hx
      obtain _ | j := j
      · exact absurd rfl hij
      · have := one_le_length_filter (l := l) (by simpa using hy) hpy
        rw [List.filter_cons_of_pos hpx, List.length_cons]
        omega
    | succ i =>
      obtain _ | j := j
      · obtain rfl : z = y := by simpa using hy
        have := one_le_length_filter (l := l) (by simpa using hx) hpx
        rw [List.filter_cons_of_pos hpy, List.length_cons]
        omega
      · have hrest := ih (fun h => hij (congrArg (· + 1) h)) (by simpa using hx) (by simpa using hy)
        have hle := (List.sublist_cons_self z l).filter p |>.length_le
        omega

/-- Rows that fit at one position only are at most one. -/
theorem length_filter_le_one_of_index {p : α → Bool} {l : List α} {k : ℕ}
    (h : ∀ i x, l[i]? = some x → p x = true → i = k) : (l.filter p).length ≤ 1 := by
  induction l generalizing k with
  | nil => simp
  | cons y l ih =>
    by_cases hy : p y = true
    · have hzero : 0 = k := h 0 y rfl hy
      have hrest : l.filter p = [] := by
        rw [List.filter_eq_nil_iff]
        intro x hx hpx
        obtain ⟨i, hi⟩ := List.mem_iff_getElem?.mp hx
        have := h (i + 1) x (by simpa using hi) hpx
        omega
      simp [hy, hrest]
    · have hrest : (l.filter p).length ≤ 1 := ih (k := k - 1) fun i x hx hpx => by
        have := h (i + 1) x (by simpa using hx) hpx
        omega
      simpa [List.filter_cons, hy] using hrest

/-- Taking a row out takes it out of the count. -/
theorem length_filter_eraseIdx {p : α → Bool} {l : List α} {n : ℕ} {x : α} (hx : l[n]? = some x) :
    ((l.eraseIdx n).filter p).length + (if p x then 1 else 0) = (l.filter p).length := by
  induction l generalizing n with
  | nil => simp at hx
  | cons y l ih =>
    cases n with
    | zero =>
      obtain rfl : y = x := by simpa using hx
      rw [List.eraseIdx_cons_zero, List.filter_cons]
      split <;> simp
    | succ n =>
      have hrest := ih (n := n) (by simpa using hx)
      rw [List.eraseIdx_cons_succ, List.filter_cons, List.filter_cons]
      split
      · rw [List.length_cons, List.length_cons]
        omega
      · exact hrest

/-- Rows that all weigh nothing sum to nothing. -/
theorem sum_map_eq_zero {w : α → ℤ} {l : List α} (h : ∀ x ∈ l, w x = 0) : (l.map w).sum = 0 := by
  rw [List.map_congr_left h]
  simp

/-- Under a unique key, rows of one key are one row. -/
theorem eq_of_unique {key : α → Option κ} {l : List α} (hunique : (l.filterMap key).Nodup)
    {x y : α} (hx : x ∈ l) (hy : y ∈ l) {k : κ} (hkx : key x = some k) (hky : key y = some k) :
    x = y := by
  by_contra hne
  have : Std.Symm fun a b => ∀ k, key a = some k → ∀ k', key b = some k' → k ≠ k' :=
    ⟨fun _ _ hab k hk k' hk' => (hab k' hk' k hk).symm⟩
  exact (List.pairwise_filterMap.mp hunique).forall hx hy hne k hkx k hky rfl

/-- Under a unique key, one key is at one position. -/
theorem index_eq_of_unique {key : α → Option κ} {l : List α} (hunique : (l.filterMap key).Nodup)
    {i j : ℕ} {x y : α} (hx : l[i]? = some x) (hy : l[j]? = some y) {k : κ} (hkx : key x = some k)
    (hky : key y = some k) : i = j := by
  obtain ⟨hi, rfl⟩ := List.getElem?_eq_some_iff.mp hx
  obtain ⟨hj, rfl⟩ := List.getElem?_eq_some_iff.mp hy
  have hpairwise := List.pairwise_iff_getElem.mp (List.pairwise_filterMap.mp hunique)
  obtain hlt | heq | hlt := lt_trichotomy i j
  · exact absurd rfl (hpairwise i j hi hj hlt k hkx k hky)
  · exact heq
  · exact absurd rfl (hpairwise j i hj hi hlt k hky k hkx)

/-- Under a unique key, at most one row has a key. -/
theorem length_filter_le_one {key : α → Option κ} {l : List α} (hunique : (l.filterMap key).Nodup)
    {p : α → Bool} {k : κ} (hp : ∀ x, p x = true → key x = some k) : (l.filter p).length ≤ 1 := by
  by_contra hlength
  match hrows : l.filter p with
  | [] => simp [hrows] at hlength
  | [x] => simp [hrows] at hlength
  | x :: y :: rest =>
    have hkey : ∀ z ∈ l.filter p, key z = some k := fun z hz => hp z (List.mem_filter.mp hz).2
    have hx := hkey x (by simp [hrows])
    have hy := hkey y (by simp [hrows])
    have htwo := (List.filter_sublist (p := p) (l := l)).filterMap key |>.nodup hunique
    simp [hrows, hx, hy] at htwo

/-- Under a unique key, what is summed over the rows of one key is that of its row. -/
theorem sum_eq_of_unique {key : α → Option κ} {l : List α} (hunique : (l.filterMap key).Nodup)
    {x : α} (hx : x ∈ l) {k : κ} (hk : key x = some k) {w : α → ℤ}
    (hw : ∀ y ∈ l, key y ≠ some k → w y = 0) : (l.map w).sum = w x := by
  induction l with
  | nil => cases hx
  | cons y l ih =>
    simp only [List.map_cons, List.sum_cons]
    have hkey : ∀ z ∈ l, key z = some k → k ∈ l.filterMap key :=
      fun z hz hkz => List.mem_filterMap.mpr ⟨z, hz, hkz⟩
    by_cases hy : key y = some k
    · rw [List.filterMap_cons_some hy, List.nodup_cons] at hunique
      obtain rfl | hxl := List.mem_cons.mp hx
      · rw [sum_map_eq_zero fun z hz => hw z (List.mem_cons_of_mem _ hz)
          fun hkz => hunique.1 (hkey z hz hkz), add_zero]
      · exact absurd (hkey x hxl hk) hunique.1
    · obtain rfl | hxl := List.mem_cons.mp hx
      · exact absurd hk hy
      · have htail : (l.filterMap key).Nodup := by
          cases hky : key y with
          | none => rwa [List.filterMap_cons_none hky] at hunique
          | some k' =>
            rw [List.filterMap_cons_some hky, List.nodup_cons] at hunique
            exact hunique.2
        rw [hw y (List.mem_cons_self ..) hy, zero_add,
          ih htail hxl fun z hz => hw z (List.mem_cons_of_mem _ hz)]

/-- Changing a row in place leaves the keys alone that the change respects. -/
theorem filterMap_modify_of_eq {key : α → Option κ} {f : α → α} (h : ∀ x, key (f x) = key x)
    (l : List α) (i : ℕ) : (l.modify i f).filterMap key = l.filterMap key := by
  have hkeys : ∀ xs : List α, xs.filterMap key = (xs.map key).filterMap id := by
    intro xs
    rw [List.filterMap_map]
    rfl
  rw [hkeys, hkeys, map_modify_of_eq key h]

/-- Under a unique key, a row may take a key that no row has. -/
theorem nodup_modify {key : α → Option κ} {f : α → α} {l : List α} {i : ℕ}
    (h : (l.filterMap key).Nodup)
    (hfree : ∀ x, l[i]? = some x → ∀ k, key (f x) = some k → ∀ y ∈ l, key y ≠ some k) :
    ((l.modify i f).filterMap key).Nodup := by
  induction l generalizing i with
  | nil => simp
  | cons y l ih =>
    have htail : (l.filterMap key).Nodup := by
      cases hy : key y with
      | none => rwa [List.filterMap_cons_none hy] at h
      | some k => exact (List.nodup_cons.mp (by rwa [List.filterMap_cons_some hy] at h)).2
    cases i with
    | zero =>
      rw [List.modify_zero_cons]
      cases hfy : key (f y) with
      | none => rwa [List.filterMap_cons_none hfy]
      | some k =>
        rw [List.filterMap_cons_some hfy, List.nodup_cons]
        refine ⟨fun hk => ?_, htail⟩
        obtain ⟨z, hz, hkey⟩ := List.mem_filterMap.mp hk
        exact hfree y rfl k hfy z (List.mem_cons_of_mem _ hz) hkey
    | succ i =>
      have hrest := ih htail (i := i) fun x hx k hk z hz =>
        hfree x (by simpa using hx) k hk z (List.mem_cons_of_mem _ hz)
      rw [List.modify_succ_cons]
      cases hy : key y with
      | none => rwa [List.filterMap_cons_none hy]
      | some k =>
        rw [List.filterMap_cons_some hy, List.nodup_cons] at h ⊢
        refine ⟨fun hk => ?_, hrest⟩
        obtain ⟨z, hz, hkey⟩ := List.mem_filterMap.mp hk
        obtain ⟨j, hj⟩ := List.mem_iff_getElem?.mp hz
        rw [List.getElem?_modify, Option.map_eq_map, Option.map_eq_some_iff] at hj
        obtain ⟨x, hx, rfl⟩ := hj
        split_ifs at hkey with hij
        · exact hfree x (by simpa [hij] using hx) k hkey y (List.mem_cons_self ..) hy
        · exact h.1 (List.mem_filterMap.mpr ⟨x, List.mem_of_getElem? hx, hkey⟩)

/-- Under a unique key, a row with a key that no row has may come in. -/
theorem nodup_append_row {key : α → Option κ} {l : List α} {x : α} (h : (l.filterMap key).Nodup)
    (hfree : ∀ k, key x = some k → ∀ y ∈ l, key y ≠ some k) : ((l ++ [x]).filterMap key).Nodup := by
  rw [List.filterMap_append]
  cases hx : key x with
  | none => simpa [hx] using h
  | some k =>
    refine List.nodup_append.mpr ⟨h, by simp [hx], fun a ha b hb => ?_⟩
    obtain ⟨y, hy, hkey⟩ := List.mem_filterMap.mp ha
    obtain rfl : b = k := by simpa [hx] using hb
    rintro rfl
    exact hfree _ hx y hy hkey

/-- Row by row a relation holds when it holds of the row that is changed. -/
theorem forall₂_modify {R : α → α → Prop} (hrefl : ∀ x, R x x) {f : α → α} {i : ℕ} {l : List α}
    (hf : ∀ x ∈ l[i]?, R x (f x)) : List.Forall₂ R l (l.modify i f) := by
  induction l generalizing i with
  | nil => simp
  | cons x l ih =>
    cases i with
    | zero => simpa using ⟨hf x rfl, fun y _ => hrefl y⟩
    | succ i => simpa using ⟨hrefl x, ih hf⟩

theorem forall₂_set {R : α → α → Prop} (hrefl : ∀ x, R x x) {i : ℕ} {l : List α} {x y : α}
    (hx : l[i]? = some x) (h : R x y) : List.Forall₂ R l (l.set i y) := by
  rw [List.set_eq_modify]
  refine forall₂_modify hrefl fun z hz => ?_
  obtain rfl := Option.some.inj (hx.symm.trans hz)
  exact h

theorem getElem?_of_forall₂ {R : α → α → Prop} {l l' : List α} {i : ℕ} {x' : α}
    (h : List.Forall₂ R l l') (hx : l'[i]? = some x') : ∃ x, l[i]? = some x ∧ R x x' := by
  induction h generalizing i with
  | nil => cases hx
  | cons hhead htail ih =>
    cases i with
    | zero =>
      obtain rfl := Option.some.inj hx
      exact ⟨_, rfl, hhead⟩
    | succ i => exact ih hx

/-- Every row of before is a row of after. -/
theorem forall₂_getElem? {R : α → α → Prop} {l l' : List α} {i : ℕ} {x : α}
    (h : List.Forall₂ R l l') (hx : l[i]? = some x) : ∃ x', l'[i]? = some x' ∧ R x x' :=
  getElem?_of_forall₂ h.flip hx

/-- Among the rows that are not `mine` nothing changed: each stands where it stood, and no
other came. -/
def SameElsewhere (mine : α → Bool) (before after : List α) : Prop :=
  ∀ i : ℕ, (after[i]?).filter (fun x => !mine x) = (before[i]?).filter (fun x => !mine x)

section SameElsewhere

variable {mine : α → Bool} {l l' l'' : List α}

theorem SameElsewhere.refl (l : List α) : SameElsewhere mine l l := fun _ => rfl

theorem SameElsewhere.trans (h : SameElsewhere mine l l') (h' : SameElsewhere mine l' l'') :
    SameElsewhere mine l l'' := fun i => (h' i).trans (h i)

/-- New rows of mine. -/
theorem SameElsewhere.append (l : List α) {new : List α} (h : ∀ x ∈ new, mine x = true) :
    SameElsewhere mine l (l ++ new) := by
  intro i
  rw [List.getElem?_append]
  by_cases hi : i < l.length
  · rw [if_pos hi]
  · rw [if_neg hi, List.getElem?_eq_none (Nat.le_of_not_lt hi), Option.filter_none,
      Option.filter_eq_none_iff]
    intro x hx
    have hmine := h x (List.mem_of_getElem? hx)
    simp only [hmine, Bool.not_true, Bool.false_eq_true, not_false_iff]

/-- A row of mine that is changed and stays mine. -/
theorem SameElsewhere.set {i : ℕ} {x y : α} (hx : l[i]? = some x) (hmine : mine x = true)
    (hy : mine y = true) : SameElsewhere mine l (l.set i y) := by
  intro j
  rw [List.getElem?_set]
  by_cases hij : i = j
  · subst hij
    have hi : i < l.length := (List.getElem?_eq_some_iff.mp hx).1
    rw [if_pos rfl, if_pos hi, hx, Option.filter_some_neg (by simp [hy]),
      Option.filter_some_neg (by simp [hmine])]
  · rw [if_neg hij]

end SameElsewhere

/-- The rows that fit one of two conditions, of which no row fits both. -/
theorem filter_or_perm {p q : α → Bool} {l : List α} (h : ∀ x ∈ l, p x = true → q x = false) :
    (l.filter (fun x => p x || q x)).Perm (l.filter p ++ l.filter q) := by
  induction l with
  | nil => exact .refl _
  | cons x l ih =>
    have hrest := ih fun y hy => h y (List.mem_cons_of_mem x hy)
    cases hp : p x with
    | true =>
      have hq := h x List.mem_cons_self hp
      simpa [hp, hq] using hrest
    | false =>
      cases hq : q x with
      | true => simpa [hp, hq] using (hrest.cons x).trans List.perm_middle.symm
      | false => simpa [hp, hq] using hrest

section Order

variable {r : α → α → Prop} [DecidableRel r] {x : α}

theorem orderedInsert_append_left {l l' : List α} (h : ∀ y ∈ l', r x y) :
    (l ++ l').orderedInsert r x = l.orderedInsert r x ++ l' := by
  induction l with
  | nil =>
    cases l' with
    | nil => rfl
    | cons y l' => exact List.orderedInsert_cons_of_le _ _ (h y List.mem_cons_self)
  | cons y l ih =>
    by_cases hxy : r x y
    · simp [hxy]
    · simp [hxy, ih]

theorem orderedInsert_append_right {l l' : List α} (h : ∀ y ∈ l, ¬ r x y) :
    (l ++ l').orderedInsert r x = l ++ l'.orderedInsert r x := by
  induction l with
  | nil => rfl
  | cons y l ih =>
    have hrest := ih fun z hz => h z (List.mem_cons_of_mem y hz)
    simp [h y List.mem_cons_self, hrest]

/-- The rows that fit one of two conditions in order, when those of the first come before. -/
theorem insertionSort_filter_or {p q : α → Bool} {l : List α}
    (h : ∀ x y, p x = true → q y = true → r x y ∧ ¬ r y x) :
    (l.filter (fun x => p x || q x)).insertionSort r =
      (l.filter p).insertionSort r ++ (l.filter q).insertionSort r := by
  induction l with
  | nil => rfl
  | cons x l ih =>
    cases hp : p x with
    | true =>
      have hq : q x = false := by
        by_contra hq
        obtain ⟨hle, hnot⟩ := h x x hp (by simpa using hq)
        exact hnot hle
      have hbefore : ∀ y ∈ (l.filter q).insertionSort r, r x y := fun y hy =>
        (h x y hp (List.mem_filter.mp ((List.mem_insertionSort r).mp hy)).2).1
      simp [hp, hq, ih, orderedInsert_append_left hbefore]
    | false =>
      cases hq : q x with
      | true =>
        have hafter : ∀ y ∈ (l.filter p).insertionSort r, ¬ r x y := fun y hy =>
          (h y x (List.mem_filter.mp ((List.mem_insertionSort r).mp hy)).2 hq).2
        simp [hp, hq, ih, orderedInsert_append_right hafter]
      | false => simpa [hp, hq] using ih

end Order

end FinylDcp.Tables
