import MetadataAudit.Proofs.Store.View
import MetadataAudit.Proofs.Outcome
import MetadataAudit.Store.Edit

/-! # Edits by what they leave

What a person means by an edit is a change to profiles that stand under names (`Edit.leaves`): checks
are added one by one to the profile of a name, which begins without any when there is none, or the
profile goes.  An edit that is not refused does exactly that to what the store shows
(`Edit.view_apply`).
-/
namespace MetadataAudit
namespace Edit

variable {s : Store} {now : Timestamp} {profile : String} {ks : List Kind} {h : Handle} {p : Profile}

/-- A profile with further checks; of two with one name the first stays. -/
def withKinds (ks : List Kind) (now : Timestamp) (p : Profile) : Profile :=
  ks.foldl (fun p k => (p.addValidation k.name k.description now).2) p

/-- The profiles that an edit leaves of some. -/
def leaves (edit : Edit) (now : Timestamp) (ps : Dictionary Profile) : Dictionary Profile :=
  match edit with
  | add profile checks =>
    ps.insert profile (withKinds (checks.filterMap Kind.ofName?) now
      ((ps.get? profile).getD ⟨profile, now, .empty⟩))
  | remove profile => ps.erase profile

theorem kinds_eq_ok {names : List String} (hk : kinds names = .ok ks) :
    ks = names.filterMap Kind.ofName? := by
  induction names generalizing ks with
  | nil =>
    cases hk
    rfl
  | cons name names ih =>
    rw [kinds] at hk
    split at hk
    · rename_i k hname
      obtain ⟨rest, hrest, rfl⟩ := map_eq_ok_iff.mp hk
      rw [List.filterMap_cons, hname, ih hrest]
    · cases hk

theorem store_addKind (e : Edited) (k : Kind) :
    (addKind profile h now e k).store = (e.store.addValidation h k.name k.description now).2 := by
  rw [addKind]
  split
  · rename_i store heq
    rw [heq]
  · rename_i store heq
    rw [heq]

/-- Checks that are added through the handle of a name show under that name. -/
theorem view_foldl_addKind (e : Edited) (hs : e.store.Sound) (hh : e.store.find? profile = some h)
    (hp : e.store.view.get? profile = some p) :
    (ks.foldl (addKind profile h now) e).store.Sound ∧
      (ks.foldl (addKind profile h now) e).store.path = e.store.path ∧
        (ks.foldl (addKind profile h now) e).store.view =
          e.store.view.insert profile (withKinds ks now p) := by
  induction ks generalizing e p with
  | nil => exact ⟨hs, rfl, (Dictionary.insert_eq_self hp).symm⟩
  | cons k ks ih =>
    have hstore : (addKind profile h now e k).store =
        e.store.modify h fun p => (p.addValidation k.name k.description now).2 := by
      rw [store_addKind, Store.addValidation_eq]
    have hview := Store.view_modify hs (f := fun p => (p.addValidation k.name k.description now).2)
      hh hp
    rw [← hstore] at hview
    have hsound : (addKind profile h now e k).store.Sound := by
      rw [store_addKind]
      exact hs.addValidation
    have hfind : (addKind profile h now e k).store.find? profile = some h := by
      rw [hstore]
      exact hh
    have hget : (addKind profile h now e k).store.view.get? profile =
        some (p.addValidation k.name k.description now).2 := by
      rw [hview, Dictionary.get?_insert, if_pos rfl]
    -- the handle still leads to the name, so the rest is added to the same entry
    obtain ⟨h1, h2, h3⟩ := ih _ hsound hfind hget
    refine ⟨h1, ?_, ?_⟩
    · rw [List.foldl_cons, h2, hstore]
      rfl
    · rw [List.foldl_cons, h3, hview, Dictionary.insert_insert]
      rfl

/-- A profile is made with the checks that would be added to one without any. -/
theorem withKinds_new (ks : List Kind) (name : String) (now : Timestamp) :
    withKinds ks now ⟨name, now, .empty⟩ =
      ⟨name, now, Profile.gather (ks.map Kind.toValidation)⟩ := by
  suffices key : ∀ d : Dictionary String, withKinds ks now ⟨name, now, d⟩ = ⟨name, now,
      (ks.map Kind.toValidation).foldl (fun d v => d.insertNew v.name v.description) d⟩ from
    key .empty
  induction ks with
  | nil => exact fun d => rfl
  | cons k ks ih =>
    intro d
    have hstep : ((⟨name, now, d⟩ : Profile).addValidation k.name k.description now).2 =
        ⟨name, now, d.insertNew k.name k.description⟩ := by
      rw [Profile.addValidation, Dictionary.insertNew]
      split <;> rfl
    rw [withKinds, List.foldl_cons, hstep, ← withKinds, ih]
    rfl

theorem find?_eq_none_of_view (hg : s.find? profile = none) : s.view.get? profile = none := by
  rw [Store.get?_view, hg]
  rfl

theorem get?_view_of_find? (hs : s.Sound) (hh : s.find? profile = some h) :
    ∃ p, s.view.get? profile = some p := by
  obtain ⟨p, hp, -⟩ := hs.named hh
  exact ⟨p, by rw [Store.get?_view, hh, Option.map_some, hp]; rfl⟩

/-- **What an edit does to a store** is what it does to the profiles the store shows. -/
theorem view_apply {edit : Edit} {edited : Edited} (hs : s.Sound)
    (he : edit.apply s now = .ok edited) :
    edited.store.Sound ∧ edited.store.path = s.path ∧
      edited.store.view = edit.leaves now s.view := by
  cases edit with
  | remove profile =>
    have hview := Store.view_remove s profile now
    have hsound : (s.remove profile now).2.Sound := hs.remove
    rw [apply] at he
    split at he
    · rename_i h store heq
      cases he
      rw [heq] at hview hsound
      refine ⟨hsound, ?_, hview⟩
      rw [Store.remove] at heq
      split at heq
      · cases heq
        rfl
      · cases heq
    · cases he
  | add profile checks =>
    obtain ⟨ks, hks, hadd⟩ := bind_eq_ok_iff.mp he
    have hkinds := kinds_eq_ok hks
    subst hkinds
    rw [addKinds] at hadd
    split at hadd
    · rename_i h hh
      cases hadd
      obtain ⟨p, hp⟩ := get?_view_of_find? hs hh
      rw [leaves, hp]
      exact view_foldl_addKind { store := s } hs hh hp
    · rename_i hno
      split at hadd
      · cases hadd
      · rename_i store hstore
        cases hadd
        obtain ⟨p, hcreate, hset⟩ := bind_eq_ok_iff.mp hstore
        rw [Profile.create] at hcreate
        split at hcreate
        · cases hcreate
        · cases hcreate
          refine ⟨hs.set hset, ?_, ?_⟩
          · obtain ⟨-, rfl⟩ := Store.set_eq_ok_iff.mp hset
            rfl
          · rw [Store.view_set hs hset, leaves, find?_eq_none_of_view hno, Option.getD_none,
              withKinds_new]

end Edit
end MetadataAudit
