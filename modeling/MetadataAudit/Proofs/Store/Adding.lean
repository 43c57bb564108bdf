import MetadataAudit.Proofs.Audit.Kinds
import MetadataAudit.Proofs.Store.Acceptance
import MetadataAudit.Proofs.Store.Editing

/-! # Checks that are added to a profile

There are two ways to add checks: to a profile that is there they are added one by one, and for one
that is not there a profile is made of them.  What comes of it is the same, and does not depend on the
order of the checks or on how often one is named: what was listed stays as it was, and each kind that
was not is listed with its description (`Edit.adds_leaves`).  Nothing is added if one of the checks is
unknown or if the profile has no name (`Edit.exists_apply_add_iff`).
-/
namespace MetadataAudit
namespace Edit

variable {s : Store} {now : Timestamp} {profile : String} {checks : List String} {ks : List Kind}
  {ps : Dictionary Profile} {v : Validation}

/-- The validations under a name; none where there is no profile. -/
def listed (ps : Dictionary Profile) (profile : String) : List Validation :=
  ((ps.get? profile).map Profile.validations).getD []

/-- What some profiles have become when checks were added to one of them. -/
structure Adds (profile : String) (checks : List String) (before after : Dictionary Profile) :
    Prop where
  /-- All other profiles are as they were. -/
  others (n : String) (hn : n ≠ profile) : after.get? n = before.get? n
  /-- The profile lists what it listed before, and the checks of which it listed none of that name. -/
  named : ∃ p, after.get? profile = some p ∧ p.name = profile ∧
    (p.validations.map Validation.name).Pairwise (· < ·) ∧
      ∀ v, v ∈ p.validations ↔ v ∈ listed before profile ∨
        (∀ w ∈ listed before profile, w.name ≠ v.name) ∧ ∃ k : Kind, k.name ∈ checks ∧
          v = k.toValidation

/-! ### What is listed -/

theorem name_withKinds (ks : List Kind) (now : Timestamp) (p : Profile) :
    (withKinds ks now p).name = p.name := by
  induction ks generalizing p with
  | nil => rfl
  | cons k ks ih =>
    rw [withKinds, List.foldl_cons, ← withKinds, ih]
    exact Store.name_addValidation p k.name k.description now

theorem checks_withKinds (ks : List Kind) (now : Timestamp) (p : Profile) :
    (withKinds ks now p).checks = (ks.map fun k => (k.name, k.description)).foldl
      (fun d e => d.insertNew e.1 e.2) p.checks := by
  induction ks generalizing p with
  | nil => rfl
  | cons k ks ih =>
    rw [withKinds, List.foldl_cons, ← withKinds, ih, Store.checks_addValidation]
    rfl

theorem lookup_kinds_iff :
    (ks.map fun k => (k.name, k.description)).lookup v.name = some v.description ↔
      ∃ k ∈ ks, v = k.toValidation := by
  induction ks with
  | nil => simp
  | cons k ks ih =>
    rw [List.map_cons, List.lookup_cons]
    by_cases hname : v.name = k.name
    · rw [beq_iff_eq.mpr hname]
      constructor
      · intro h
        cases v
        cases hname
        cases h
        exact ⟨k, List.mem_cons_self, rfl⟩
      -- no other kind has this name
      · rintro ⟨j, -, rfl⟩
        cases Kind.name_injective hname
        rfl
    · have hne : v ≠ k.toValidation := fun h => hname (congrArg Validation.name h)
      rw [beq_eq_false_iff_ne.mpr hname, ih]
      simp only [List.exists_mem_cons_iff, hne, false_or]

theorem mem_listed_iff : v ∈ listed ps profile ↔
    ((ps.get? profile).getD ⟨profile, now, .empty⟩).checks.get? v.name = some v.description := by
  rw [listed]
  cases ps.get? profile with
  | none => simp
  | some p => exact Profile.mem_validations_iff

theorem not_listed_iff {n : String} : (∀ w ∈ listed ps profile, w.name ≠ n) ↔
    ((ps.get? profile).getD ⟨profile, now, .empty⟩).checks.get? n = none := by
  constructor
  · intro h
    rw [Option.eq_none_iff_forall_ne_some]
    intro description hget
    exact h ⟨n, description⟩ (mem_listed_iff.mpr hget) rfl
  · rintro h w hw rfl
    cases (mem_listed_iff.mp hw).symm.trans h

/-- **What adding checks leaves** of the profiles of a store. -/
theorem adds_leaves (hs : s.Sound) (profile : String) (checks : List String) (now : Timestamp) :
    Adds profile checks s.view ((add profile checks).leaves now s.view) := by
  refine ⟨fun n hn => by rw [leaves, Dictionary.get?_insert, if_neg hn], ?_⟩
  refine ⟨_, by rw [leaves, Dictionary.get?_insert, if_pos rfl], ?_, Profile.validations_ascending _,
    fun v => ?_⟩
  · rw [name_withKinds]
    cases hp : s.view.get? profile with
    | none => rfl
    | some p => exact (Store.name_of_get?_view hs hp).1
  · have hkinds : (∃ k ∈ checks.filterMap Kind.ofName?, v = k.toValidation) ↔
        ∃ k : Kind, k.name ∈ checks ∧ v = k.toValidation := by
      refine exists_congr fun k => and_congr_left fun _ => ?_
      rw [List.mem_filterMap]
      simp only [Kind.ofName?_eq_some_iff, exists_eq_right]
    rw [Profile.mem_validations_iff, checks_withKinds, Dictionary.get?_foldl_insertNew,
      Option.or_eq_some_iff, mem_listed_iff, not_listed_iff, lookup_kinds_iff, hkinds]

/-! ### What is refused -/

theorem exists_kinds_iff {names : List String} :
    (∃ ks, kinds names = .ok ks) ↔ ∀ n ∈ names, Kind.ofName? n ≠ none := by
  induction names with
  | nil => simp [kinds]
  | cons name names ih =>
    rw [kinds, List.forall_mem_cons, ← ih]
    cases Kind.ofName? name with
    | none => simp
    | some k => simp [map_eq_ok_iff]

theorem exists_addKinds_iff (hs : s.Sound) :
    (∃ edited, addKinds profile ks s now = .ok edited) ↔ profile ≠ "" := by
  rw [addKinds]
  cases hfind : s.find? profile with
  | some h => simp [hs.nonempty hfind]
  | none =>
    by_cases hname : profile = ""
    · simp [Profile.create, hname, bind, Except.bind]
    · simp [Profile.create, hname, bind, Except.bind, Store.set]

/-- Checks can be added exactly if all of them are known and the profile has a name. -/
theorem exists_apply_add_iff (hs : s.Sound) :
    (∃ edited, (add profile checks).apply s now = .ok edited) ↔
      (∀ n ∈ checks, Kind.ofName? n ≠ none) ∧ profile ≠ "" := by
  rw [← exists_kinds_iff]
  constructor
  · rintro ⟨edited, h⟩
    obtain ⟨ks, hks, hadd⟩ := bind_eq_ok_iff.mp h
    exact ⟨⟨ks, hks⟩, (exists_addKinds_iff hs).mp ⟨edited, hadd⟩⟩
  · rintro ⟨⟨ks, hks⟩, hname⟩
    obtain ⟨edited, hadd⟩ : ∃ edited, addKinds profile ks s now = .ok edited :=
      (exists_addKinds_iff hs).mpr hname
    exact ⟨edited, bind_eq_ok_iff.mpr ⟨ks, hks, hadd⟩⟩

end Edit
end MetadataAudit
