import Mathlib.Data.List.Chain
import Mathlib.Data.List.Sort

/-!
# Sorted listings

A listing from which repeats are dropped and which is then sorted by a key, with equals left in
their order. Of each two neighbours in the outcome nothing that was kept comes between.
-/
namespace FinylDcp.Listings

variable {α β K : Type*}

section Repeats

variable [DecidableEq K]

/-- The elements whose key was not seen before. -/
def firstOf (key : α → K) : List K → List α → List α
  | _, [] => []
  | seen, a :: l =>
    if key a ∈ seen then firstOf key seen l else a :: firstOf key (key a :: seen) l

variable {key : α → K} {seen : List K} {l : List α}

theorem firstOf_sublist : (firstOf key seen l).Sublist l := by
  induction l generalizing seen with
  | nil => exact List.Sublist.slnil
  | cons a l ih =>
    rw [firstOf]
    split
    next => exact ih.cons _
    next => exact ih.cons_cons _

theorem firstOf_map (key : β → K) (f : α → β) :
    firstOf key seen (l.map f) = (firstOf (fun a => key (f a)) seen l).map f := by
  induction l generalizing seen with
  | nil => rfl
  | cons a l ih =>
    rw [List.map_cons, firstOf, firstOf]
    split
    next => exact ih
    next => rw [ih, List.map_cons]

/-- What is kept of a listing is what repeats nothing listed before. -/
theorem mem_firstOf {before : α → α → Prop} (hasymm : ∀ a b, before a b → ¬ before b a)
    (hl : l.Pairwise before) {a : α} :
    a ∈ firstOf key seen l ↔
      a ∈ l ∧ key a ∉ seen ∧ ∀ b ∈ l, before b a → key b ≠ key a := by
  induction l generalizing seen with
  | nil => simp [firstOf]
  | cons c l ih =>
    obtain ⟨hc, hl⟩ := List.pairwise_cons.mp hl
    have hirrefl : ¬ before c c := fun h => hasymm c c h h
    rw [firstOf]
    split
    next hseen =>
      rw [ih hl, List.mem_cons, List.forall_mem_cons]
      constructor
      · rintro ⟨ha, hnew, hfirst⟩
        exact ⟨.inr ha, hnew, fun _ heq => hnew (heq ▸ hseen), hfirst⟩
      · rintro ⟨rfl | ha, hnew, -, hfirst⟩
        · exact absurd hseen hnew
        · exact ⟨ha, hnew, hfirst⟩
    next hseen =>
      rw [List.mem_cons, ih hl, List.mem_cons, List.forall_mem_cons, List.mem_cons, not_or]
      constructor
      · rintro (rfl | ⟨ha, ⟨hne, hnew⟩, hfirst⟩)
        · exact ⟨.inl rfl, hseen, fun h => absurd h hirrefl,
            fun b hb hba => absurd hba (hasymm _ _ (hc b hb))⟩
        · exact ⟨.inr ha, hnew, fun _ => Ne.symm hne, hfirst⟩
      · rintro ⟨rfl | ha, hnew, hne, hfirst⟩
        · exact .inl rfl
        · exact .inr ⟨ha, ⟨Ne.symm (hne (hc a ha)), hnew⟩, hfirst⟩

end Repeats

section Sorted

variable [LinearOrder K] (key : α → K) (before : α → α → Prop)

/-- The lesser key comes first, and of equals what is listed first. -/
def Precedes (a b : α) : Prop := key a < key b ∨ key a = key b ∧ before a b

variable {key before} {l : List α}

theorem Precedes.asymm (hasymm : ∀ a b, before a b → ¬ before b a) {a b : α}
    (h : Precedes key before a b) : ¬ Precedes key before b a := by
  rintro (hlt | ⟨heq, hba⟩)
  · obtain hlt' | ⟨heq', -⟩ := h
    · exact lt_asymm hlt hlt'
    · exact hlt.ne heq'.symm
  · obtain hlt' | ⟨-, hab⟩ := h
    · exact hlt'.ne heq.symm
    · exact hasymm a b hab hba

theorem pairwise_orderedInsert_precedes {a : α} (hl : l.Pairwise (Precedes key before))
    (ha : ∀ b ∈ l, before a b) :
    (l.orderedInsert (fun a b => key a ≤ key b) a).Pairwise (Precedes key before) := by
  induction l with
  | nil => exact List.pairwise_singleton _ _
  | cons b l ih =>
    obtain ⟨hb, hl'⟩ := List.pairwise_cons.mp hl
    rw [List.orderedInsert]
    split
    next hle =>
      refine List.pairwise_cons.mpr ⟨fun c hc => ?_, hl⟩
      have hac : key a ≤ key c := by
        obtain rfl | hc := List.mem_cons.mp hc
        · exact hle
        · exact hle.trans ((hb c hc).elim le_of_lt fun h => h.1.le)
      exact hac.lt_or_eq.imp_right fun heq => ⟨heq, ha c hc⟩
    next hlt =>
      refine List.pairwise_cons.mpr
        ⟨fun c hc => ?_, ih hl' fun c hc => ha c (List.mem_cons_of_mem _ hc)⟩
      obtain rfl | hc := List.mem_cons.mp ((List.perm_orderedInsert _ a l).mem_iff.mp hc)
      · exact .inl (not_le.mp hlt)
      · exact hb c hc

/-- The sort of a listing by a key leaves equals in their order. -/
theorem pairwise_insertionSort_precedes (hl : l.Pairwise before) :
    (l.insertionSort (fun a b => key a ≤ key b)).Pairwise (Precedes key before) := by
  induction l with
  | nil => exact List.Pairwise.nil
  | cons a l ih =>
    obtain ⟨ha, hl⟩ := List.pairwise_cons.mp hl
    exact pairwise_orderedInsert_precedes (ih hl) fun b hb =>
      ha b ((List.perm_insertionSort _ l).mem_iff.mp hb)

end Sorted

section Neighbours

variable {R P : α → α → Prop} {l : List α}

/-- A list in strict order is a chain when each two of its elements with none between them are
related. -/
theorem isChain_iff_neighbours (hasymm : ∀ a b, R a b → ¬ R b a) (hl : l.Pairwise R) :
    l.IsChain P ↔
      ∀ a ∈ l, ∀ b ∈ l, R a b → (∀ c ∈ l, R a c → ¬ R c b) → P a b := by
  have hirrefl : ∀ a, ¬ R a a := fun a h => hasymm a a h h
  induction l with
  | nil => simp
  | cons a l ih =>
    obtain ⟨ha, htail⟩ := List.pairwise_cons.mp hl
    rw [List.isChain_cons]
    refine (and_congr_right' (ih htail)).trans ?_
    constructor
    · rintro ⟨hhead, hrest⟩ x hx y hy hxy hnone
      have hyl : y ∈ l := by
        obtain rfl | hy := List.mem_cons.mp hy
        · obtain rfl | hx := List.mem_cons.mp hx
          · exact absurd hxy (hirrefl _)
          · exact absurd hxy (hasymm _ _ (ha x hx))
        · exact hy
      obtain rfl | hx := List.mem_cons.mp hx
      · cases l with
        | nil => exact absurd hyl List.not_mem_nil
        | cons b l =>
          obtain rfl | hyl := List.mem_cons.mp hyl
          · exact hhead y (by simp)
          · exact absurd ((List.pairwise_cons.mp htail).1 y hyl)
              (hnone b (by simp) (ha b List.mem_cons_self))
      · exact hrest x hx y hyl hxy fun c hc => hnone c (List.mem_cons_of_mem _ hc)
    · intro h
      refine ⟨fun b hb => ?_, fun x hx y hy hxy hnone => ?_⟩
      · obtain ⟨rest, rfl⟩ := List.head?_eq_some_iff.mp hb
        refine h a List.mem_cons_self b (by simp) (ha b List.mem_cons_self) fun c hc hac hcb => ?_
        obtain rfl | hc := List.mem_cons.mp hc
        · exact hirrefl _ hac
        obtain rfl | hc := List.mem_cons.mp hc
        · exact hirrefl _ hcb
        · exact hasymm _ _ hcb ((List.pairwise_cons.mp htail).1 c hc)
      · refine h x (List.mem_cons_of_mem _ hx) y (List.mem_cons_of_mem _ hy) hxy fun c hc hxc => ?_
        obtain rfl | hc := List.mem_cons.mp hc
        · exact absurd hxc (hasymm _ _ (ha x hx))
        · exact hnone c hc hxc

end Neighbours

end FinylDcp.Listings
