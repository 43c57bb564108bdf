import Mathlib.Data.List.Forall2
import Mathlib.Data.List.Pairwise
import MetadataAudit.Proofs.Check.Offer

/-! # What a scan of a grid reports

A scan offers every cell of a grid, so what holds of the answer to each offer holds of the answers of
the scan (`Kind.forall₂_offerAll`).  As every answer is about the cell that was offered, the violations
of a scan are about cells of the grid and stand row by row (`Kind.pairwise_scan`).
-/
namespace MetadataAudit

namespace Outcome

variable {P : Location → Outcome → Prop} {ls : List Location} {outcomes : List Outcome}

/-- A violation among the answers to several offers is in the answer to one of them. -/
theorem exists_of_mem_flatMap (h : List.Forall₂ P ls outcomes) {v : Violation}
    (hv : v ∈ outcomes.flatMap violations) : ∃ l ∈ ls, ∃ o, P l o ∧ v ∈ o.violations := by
  induction h with
  | nil => cases hv
  | @cons l o ls outcomes hhead htail ih =>
    rw [List.flatMap_cons, List.mem_append] at hv
    rcases hv with hv | hv
    · exact ⟨l, List.mem_cons_self, o, hhead, hv⟩
    · obtain ⟨m, hm, p, hp, hvp⟩ := ih hv
      exact ⟨m, List.mem_cons_of_mem l hm, p, hp, hvp⟩

/-- Answers to offers made row by row report row by row. -/
theorem pairwise_flatMap_violations (hls : ls.Pairwise Location.Before)
    (h : List.Forall₂ (fun l o => ∀ v ∈ o.violations, v.location = l) ls outcomes) :
    (outcomes.flatMap violations).Pairwise fun v w => v.location.le w.location = true := by
  induction h with
  | nil => exact .nil
  | @cons l o ls outcomes hhead htail ih =>
    obtain ⟨hfirst, hrest⟩ := List.pairwise_cons.mp hls
    rw [List.flatMap_cons, List.pairwise_append]
    refine ⟨?_, ih hrest, ?_⟩
    · -- one offer is answered for one cell
      refine List.pairwise_of_forall_mem_list ?_
      intro v hv w hw
      rw [hhead v hv, hhead w hw]
      exact Location.le_refl l
    · intro v hv w hw
      obtain ⟨m, hm, p, hp, hwp⟩ := exists_of_mem_flatMap htail hw
      rw [hhead v hv, hp w hwp]
      exact (hfirst m hm).le

end Outcome

namespace Kind

variable {k : Kind} {ctx : Context} {profile : String} {g : Grid}

theorem offerAll_cons (k : Kind) (ctx : Context) (memo : Memo) (o : Offer) (os : List Offer) :
    k.offerAll ctx memo (o :: os) =
      ((k.offer ctx memo o).1 :: (k.offerAll ctx (k.offer ctx memo o).2 os).1,
        (k.offerAll ctx (k.offer ctx memo o).2 os).2) :=
  rfl

/-- A run goes on with what is remembered of its first part. -/
theorem offerAll_append (k : Kind) (ctx : Context) (memo : Memo) (os os' : List Offer) :
    k.offerAll ctx memo (os ++ os') =
      ((k.offerAll ctx memo os).1 ++ (k.offerAll ctx (k.offerAll ctx memo os).2 os').1,
        (k.offerAll ctx (k.offerAll ctx memo os).2 os').2) := by
  induction os generalizing memo with
  | nil => rfl
  | cons o os ih => rw [List.cons_append, offerAll_cons, ih, offerAll_cons, List.cons_append]

theorem length_offerAll (k : Kind) (ctx : Context) (memo : Memo) (os : List Offer) :
    (k.offerAll ctx memo os).1.length = os.length := by
  induction os generalizing memo with
  | nil => rfl
  | cons o os ih => exact congrArg (· + 1) (ih _)

theorem offerAll_append_singleton (k : Kind) (ctx : Context) (memo : Memo) (os : List Offer)
    (o : Offer) :
    k.offerAll ctx memo (os ++ [o]) =
      ((k.offerAll ctx memo os).1 ++ [(k.offer ctx (k.offerAll ctx memo os).2 o).1],
        (k.offer ctx (k.offerAll ctx memo os).2 o).2) :=
  k.offerAll_append ctx memo os [o]

/-- The answer to an offer stands in a run at the place of the offer. -/
theorem getElem?_offerAll (k : Kind) (ctx : Context) (memo : Memo) (before : List Offer) (o : Offer)
    (after : List Offer) :
    (k.offerAll ctx memo (before ++ o :: after)).1[before.length]? =
      some (k.offer ctx (k.offerAll ctx memo before).2 o).1 := by
  have hlength := k.length_offerAll ctx memo before
  rw [offerAll_append, List.getElem?_append_right (by rw [hlength]), hlength, Nat.sub_self]
  rfl

/-- **From one offer to a run.**  What holds of the answer to each offer, whatever is remembered,
holds of all answers of a run. -/
theorem forall₂_offerAll {P : Offer → Outcome → Prop} {os : List Offer}
    (h : ∀ o ∈ os, ∀ memo, P o (k.offer ctx memo o).1) (memo : Memo) :
    List.Forall₂ P os (k.offerAll ctx memo os).1 := by
  induction os generalizing memo with
  | nil => exact .nil
  | cons o os ih =>
    rw [List.forall_mem_cons] at h
    exact .cons (h.1 memo) (ih h.2 _)

theorem forall₂_ofGrid {P : Location → Outcome → Prop}
    (h : ∀ l, (∃ value, g.get? l = some value) → ∀ memo, P l (k.offer ctx memo ⟨profile, l, g⟩).1)
    (memo : Memo) : List.Forall₂ P g.locations (k.offerAll ctx memo (Offer.ofGrid profile g)).1 := by
  have hrun : List.Forall₂ (fun o => P o.location) (Offer.ofGrid profile g)
      (k.offerAll ctx memo (Offer.ofGrid profile g)).1 := by
    refine forall₂_offerAll (fun o ho => ?_) memo
    obtain ⟨l, hl, rfl⟩ := List.mem_map.mp ho
    exact h l (Grid.mem_locations_iff.mp hl)
  rw [Offer.ofGrid, List.forall₂_map_left_iff] at hrun
  exact hrun

theorem violations_scan : (k.scan ctx profile g).violations =
    (k.offerAll ctx {} (Offer.ofGrid profile g)).1.flatMap Outcome.violations :=
  Outcome.violations_join _

/-- What a scan reports is part of the answer to an offer of some cell. -/
theorem exists_offer_of_mem_scan {v : Violation} (hv : v ∈ (k.scan ctx profile g).violations) :
    ∃ l, g.check l profile = .ok () ∧
      ∃ memo, v ∈ (k.offer ctx memo ⟨profile, l, g⟩).1.violations := by
  rw [violations_scan] at hv
  have hrun : List.Forall₂ (fun l o => g.check l profile = .ok () ∧
      ∃ memo, o = (k.offer ctx memo ⟨profile, l, g⟩).1)
      g.locations (k.offerAll ctx {} (Offer.ofGrid profile g)).1 :=
    forall₂_ofGrid (fun l hl memo => ⟨Grid.check_eq_ok_iff.mpr hl, memo, rfl⟩) {}
  obtain ⟨l, -, o, ⟨hcell, memo, rfl⟩, hvo⟩ := Outcome.exists_of_mem_flatMap hrun hv
  exact ⟨l, hcell, memo, hvo⟩

/-- What a scan reports are problems of its kind. -/
theorem ofKind_of_mem_scan {v : Violation} (hv : v ∈ (k.scan ctx profile g).violations) :
    v.OfKind k profile v.location := by
  obtain ⟨l, hcell, memo, hvo⟩ := exists_offer_of_mem_scan hv
  have hkind := reports_offer k ctx memo (o := ⟨profile, l, g⟩) hcell v hvo
  rw [hkind.address.1]
  exact hkind

/-- What a scan reports is about cells of the grid and the profile, and about the header row only if
the kind judges that. -/
theorem address_of_mem_scan {v : Violation} (hv : v ∈ (k.scan ctx profile g).violations) :
    (∃ value, g.get? v.location = some value) ∧ v.profile = profile ∧
      (v.location.row = 0 → k.JudgesHeader v.location) := by
  obtain ⟨l, hcell, memo, hvo⟩ := exists_offer_of_mem_scan hv
  obtain ⟨rfl, hprofile⟩ := about_offer k ctx memo ⟨profile, l, g⟩ v hvo
  refine ⟨Grid.check_eq_ok_iff.mp hcell, hprofile, fun hrow => ?_⟩
  exact judgesHeader_of_offer hcell hrow hvo

/-- **A scan reports row by row.** -/
theorem pairwise_scan (k : Kind) (ctx : Context) (profile : String) (g : Grid) :
    (k.scan ctx profile g).violations.Pairwise fun v w => v.location.le w.location = true := by
  rw [violations_scan]
  refine Outcome.pairwise_flatMap_violations g.pairwise_locations ?_
  exact forall₂_ofGrid (fun l _ memo v hv => (about_offer k ctx memo ⟨profile, l, g⟩ v hv).1) {}

end Kind
end MetadataAudit
