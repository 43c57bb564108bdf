import MetadataAudit.Search

/-! # What search by halving finds

What is found compares as equal, whatever the list is.  Where nothing is found in a list that ascends, the
index that comes out cuts the list in two, with the lesser elements before it and the greater ones behind
(`Search.exists_cut_of_locate`).
-/
namespace MetadataAudit

/-- What is inserted where a list was cut stands between its two parts. -/
theorem insertIdx_length_append {α : Type} (before after : List α) (x : α) :
    (before ++ after).insertIdx before.length x = before ++ x :: after := by
  induction before with
  | nil => exact List.insertIdx_zero
  | cons a before ih =>
    rw [List.cons_append, List.length_cons, List.insertIdx_succ_cons, ih]
    rfl

namespace Search

variable {α : Type} {order : α → Ordering} {xs : List α}

/-- As seen from what is looked for, an element that is not less is followed by greater ones only. -/
def Ascends (order : α → Ordering) (xs : List α) : Prop :=
  xs.Pairwise fun a b => order a ≠ .lt → order b = .gt

theorem Ascends.getElem_eq_gt (h : Ascends order xs) {i j : Nat} (hi : i < xs.length)
    (hj : j < xs.length) (hij : i < j) (hne : order xs[i] ≠ .lt) : order xs[j] = .gt :=
  List.pairwise_iff_getElem.mp h i j hi hj hij hne

/-- All elements behind an index are greater, and the one at it is not, unless it is the first. -/
structure LeavesAt (order : α → Ordering) (xs : List α) (i : Fin xs.length) : Prop where
  behind : ∀ j : Fin xs.length, i < j → order (xs.get j) = .gt
  atIndex : i.val = 0 ∨ order (xs.get i) ≠ .gt

/-- **What is given up is greater**, or has an element behind it that is left and not greater. -/
theorem leavesAt_narrow (h : Ascends order xs) {base size : Nat} (hpos : 0 < size)
    (hfits : base + size ≤ xs.length)
    (hbehind : ∀ j (hj : j < xs.length), base + size ≤ j → order xs[j] = .gt)
    (hbase : ∀ hb : base < xs.length, base = 0 ∨ order xs[base] ≠ .gt) :
    LeavesAt order xs (narrow order xs base size hpos hfits) := by
  fun_induction narrow order xs base size hpos hfits with
  | case1 base hpos hfits =>
    exact ⟨fun j hlt => hbehind j j.isLt hlt, hbase hfits⟩
  | case2 base size hpos hfits hone hmiddle hgt ih =>
    refine ih (fun j hj hle => ?_) hbase
    -- the middle is the last element that is left, or the first that is given up
    rcases Nat.lt_or_ge (base + size / 2) j with hlt | hge
    · exact h.getElem_eq_gt hmiddle hj hlt (by simp [hgt])
    · have hj' : j = base + size / 2 := by omega
      subst hj'
      exact hgt
  | case3 base size hpos hfits hone hmiddle hgt ih =>
    refine ih (fun j hj hle => hbehind j hj ?_) fun _ => Or.inr hgt
    omega

/-- Whatever comes before an index that is left is less. -/
theorem LeavesAt.lt_of_lt (h : Ascends order xs) {i j : Fin xs.length} (hi : LeavesAt order xs i)
    (hij : j < i) : order (xs.get j) = .lt := by
  rcases hi.atIndex with hzero | hne
  · omega
  · exact Decidable.byContradiction fun hj => hne (h.getElem_eq_gt j.isLt i.isLt hij hj)

/-- What comes out is settled at an index that is left, if there is any element. -/
theorem exists_settle_of_ne_nil (h : Ascends order xs) (hne : xs ≠ []) :
    ∃ i, LeavesAt order xs i ∧ locate order xs = settle order xs i := by
  have hpos : 0 < xs.length := List.length_pos_iff.mpr hne
  refine ⟨narrow order xs 0 xs.length hpos (Nat.le_of_eq (Nat.zero_add _)), ?_, ?_⟩
  · exact leavesAt_narrow h hpos _ (fun j hj hle => by omega) fun _ => Or.inl rfl
  · rw [locate, dif_neg hne]

theorem settle_eq_found {i : Fin xs.length} {n : Nat} (hsettle : settle order xs i = .found n) :
    order (xs.get i) = .eq := by
  rw [settle] at hsettle
  split at hsettle
  · assumption
  · cases hsettle
  · cases hsettle

theorem settle_eq_missing {i : Fin xs.length} {n : Nat} (hsettle : settle order xs i = .missing n) :
    (order (xs.get i) = .lt ∧ n = i + 1) ∨ (order (xs.get i) = .gt ∧ n = i) := by
  rw [settle] at hsettle
  split at hsettle
  · cases hsettle
  · cases hsettle
    exact Or.inl ⟨‹_›, rfl⟩
  · cases hsettle
    exact Or.inr ⟨‹_›, rfl⟩

/-- What is missing belongs behind the element that is left if that is less, and else before all. -/
theorem LeavesAt.cut (h : Ascends order xs) {i : Fin xs.length} {n : Nat} (hi : LeavesAt order xs i)
    (hsettle : settle order xs i = .missing n) :
    n ≤ xs.length ∧ (∀ j : Fin xs.length, j < n → order (xs.get j) = .lt) ∧
      ∀ j : Fin xs.length, n ≤ j → order (xs.get j) = .gt := by
  rcases settle_eq_missing hsettle with ⟨hlt, rfl⟩ | ⟨hgt, rfl⟩
  · refine ⟨i.isLt, fun j hj => ?_, fun j hj => hi.behind j hj⟩
    rcases Nat.lt_or_eq_of_le (Nat.le_of_lt_succ hj) with hbefore | heq
    · exact hi.lt_of_lt h hbefore
    · rw [Fin.ext heq]
      exact hlt
  · refine ⟨Nat.le_of_lt i.isLt, fun j hj => hi.lt_of_lt h hj, fun j hj => ?_⟩
    rcases Nat.lt_or_eq_of_le hj with hbehind | heq
    · exact hi.behind j hbehind
    · rw [← Fin.ext heq]
      exact hgt

/-- What is found is there. -/
theorem exists_mem_of_locate (h : Ascends order xs) {n : Nat} (hlocate : locate order xs = .found n) :
    ∃ x ∈ xs, order x = .eq := by
  by_cases hne : xs = []
  · rw [locate, dif_pos hne] at hlocate
    cases hlocate
  · obtain ⟨i, -, hsettle⟩ := exists_settle_of_ne_nil h hne
    exact ⟨xs.get i, List.get_mem xs i, settle_eq_found (hsettle ▸ hlocate)⟩

/-- **What is missing belongs at the cut** between the lesser elements and the greater ones. -/
theorem exists_cut_of_locate (h : Ascends order xs) {n : Nat} (hlocate : locate order xs = .missing n) :
    ∃ before after, xs = before ++ after ∧ before.length = n ∧
      (∀ x ∈ before, order x = .lt) ∧ ∀ x ∈ after, order x = .gt := by
  by_cases hne : xs = []
  · rw [locate, dif_pos hne] at hlocate
    cases hlocate
    exact ⟨[], [], hne, rfl, by simp, by simp⟩
  · obtain ⟨i, hi, hsettle⟩ := exists_settle_of_ne_nil h hne
    obtain ⟨hn, hless, hgreater⟩ := hi.cut h (hsettle ▸ hlocate)
    refine ⟨xs.take n, xs.drop n, (List.take_append_drop n xs).symm, List.length_take_of_le hn, ?_, ?_⟩
    · intro x hx
      obtain ⟨j, hj, rfl⟩ := List.mem_take_iff_getElem.mp hx
      exact hless ⟨j, Nat.lt_of_lt_of_le hj (Nat.min_le_right _ _)⟩
        (Nat.lt_of_lt_of_le hj (Nat.min_le_left _ _))
    · intro x hx
      obtain ⟨j, hj, rfl⟩ := List.mem_drop_iff_getElem.mp hx
      exact hgreater ⟨n + j, by omega⟩ (Nat.le_add_right n j)

end Search
end MetadataAudit
