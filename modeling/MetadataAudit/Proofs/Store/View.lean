import Mathlib.Data.List.Nodup
import MetadataAudit.Proofs.Dictionary
import MetadataAudit.Store.Persist

/-! # Stores by the profiles they show

Callers see a store as a dictionary of profiles (`view`).  Objects are shared, so what is done
through a handle might show under several names, or under none.  A store is `Sound` when every name
leads to an object that bears it.  An object bears one name, so it is then stored once at most
(`Sound.apart`), and a change through a handle shows in the one entry that leads to it.  Each
operation keeps stores sound, and equations say what storing, removing and changing do to the view.
-/
namespace MetadataAudit
namespace Store

variable {s s' : Store} {name : String} {h : Handle} {now : Timestamp}

/-- The stored profiles by name. -/
def view (s : Store) : Dictionary Profile :=
  s.index.map fun _ h => (s.object? h).getD default

/-- Every name leads to an object that bears it, and is not empty. -/
structure Sound (s : Store) : Prop where
  nonempty : ∀ {name h}, s.find? name = some h → name ≠ ""
  named : ∀ {name h}, s.find? name = some h → ∃ p, s.object? h = some p ∧ p.name = name

namespace Sound

/-- No object is stored under two names. -/
theorem apart (hs : s.Sound) {m n : String} (hm : s.find? m = some h) (hn : s.find? n = some h) :
    m = n := by
  obtain ⟨p, hp, rfl⟩ := hs.named hm
  obtain ⟨q, hq, rfl⟩ := hs.named hn
  rw [hp] at hq
  cases hq
  rfl

theorem entry (hs : s.Sound) {n : String} (hn : s.find? n = some h) :
    n ≠ "" ∧ ∃ p, s.object? h = some p ∧ p.name = n :=
  ⟨hs.nonempty hn, hs.named hn⟩

theorem of_entries (hall : ∀ n h, s.find? n = some h →
    n ≠ "" ∧ ∃ p, s.object? h = some p ∧ p.name = n) : s.Sound :=
  ⟨fun hn => (hall _ _ hn).1, fun hn => (hall _ _ hn).2⟩

end Sound

theorem get?_view (s : Store) (n : String) :
    s.view.get? n = (s.find? n).map fun h => (s.object? h).getD default :=
  Dictionary.get?_map _ _ _

/-- In a sound store the view holds what look-ups give. -/
theorem get?_view_eq_get? (hs : s.Sound) (n : String) : s.view.get? n = s.get? n := by
  rw [get?_view, get?]
  cases hf : s.find? n with
  | none => rfl
  | some h =>
    obtain ⟨p, hp, -⟩ := hs.named hf
    simp [hp]

theorem name_of_get?_view (hs : s.Sound) {n : String} {p : Profile} (hp : s.view.get? n = some p) :
    p.name = n ∧ n ≠ "" := by
  rw [get?_view, Option.map_eq_some_iff] at hp
  obtain ⟨h, hf, rfl⟩ := hp
  obtain ⟨q, hq, hqn⟩ := hs.named hf
  rw [hq]
  exact ⟨hqn, hs.nonempty hf⟩

theorem toDocument_profiles (s : Store) :
    s.toDocument.profiles = s.view.map fun _ p => p.toDocument := by
  refine Dictionary.ext_get? fun n => ?_
  simp only [toDocument, view, Dictionary.get?_map, Option.map_map, Function.comp_def]

theorem size_view (s : Store) : s.view.size = s.count := by
  simp [view, count, Dictionary.size, Dictionary.map]

/-! ### Objects -/

theorem object?_modify (s : Store) (h : Handle) (f : Profile → Profile) (k : Handle) :
    (s.modify h f).object? k = if h = k then (s.object? k).map f else s.object? k := by
  rw [object?, modify, List.getElem?_modify, object?]
  split <;> simp

theorem object?_append {ps : List Profile} {p : Profile} {t : Store}
    (ht : t.objects = s.objects ++ ps) (hp : s.object? h = some p) : t.object? h = some p := by
  rw [object?, ht]
  exact List.getElem?_append_left (List.getElem?_eq_some_iff.mp hp).1 ▸ hp

/-! ### An empty store -/

theorem sound_empty (path : Option Path) (now : Timestamp) : (empty path now).Sound where
  nonempty hf := by cases hf
  named hf := by cases hf

/-! ### Storing and removing -/

theorem set_eq_ok_iff {p : Profile} :
    s.set p now = .ok s' ↔ p.name ≠ "" ∧ s' = { s with
      objects := s.objects ++ [p]
      index := s.index.insert p.name s.objects.length
      lastUpdate := now } := by
  rw [set]
  split
  · rename_i hname
    simp [hname]
  · rename_i hname
    simp only [Except.ok.injEq, ne_eq, hname, not_false_eq_true, true_and]
    exact eq_comm

theorem Sound.set {p : Profile} (hs : s.Sound) (hset : s.set p now = .ok s') : s'.Sound := by
  obtain ⟨hname, rfl⟩ := set_eq_ok_iff.mp hset
  refine .of_entries fun n h hf => ?_
  rw [find?, Dictionary.get?_insert] at hf
  split at hf
  · rename_i hn
    cases hf
    exact ⟨hn ▸ hname, p, by simp [object?], hn.symm⟩
  -- older handles lead where they led before
  · obtain ⟨hne, q, hq, hqn⟩ := hs.entry hf
    exact ⟨hne, q, object?_append rfl hq, hqn⟩

/-- A profile that is stored stands in the view under its name. -/
theorem view_set {p : Profile} (hs : s.Sound) (hset : s.set p now = .ok s') :
    s'.view = s.view.insert p.name p := by
  obtain ⟨-, rfl⟩ := set_eq_ok_iff.mp hset
  refine Dictionary.ext_get? fun n => ?_
  rw [get?_view, find?, Dictionary.get?_insert, Dictionary.get?_insert]
  split
  · simp [object?]
  · rw [get?_view, find?]
    refine Option.map_congr fun h hf => ?_
    -- the handle is older than the new object
    obtain ⟨q, hq, -⟩ := hs.named hf
    rw [object?_append rfl hq, hq]

theorem Sound.remove (hs : s.Sound) : (s.remove name now).2.Sound := by
  rw [Store.remove]
  split
  · refine .of_entries fun n h hf => ?_
    rw [find?, Dictionary.get?_erase] at hf
    split at hf
    · cases hf
    · exact hs.entry hf
  · exact hs

theorem view_remove (s : Store) (name : String) (now : Timestamp) :
    (s.remove name now).2.view = s.view.erase name := by
  rw [Store.remove]
  cases hf : s.find? name with
  | none =>
    have hnone : s.view.get? name = none := by
      rw [get?_view, hf]
      rfl
    rw [Dictionary.erase_eq_self hnone]
  | some h =>
    refine Dictionary.ext_get? fun n => ?_
    rw [Dictionary.get?_erase, get?_view, get?_view, find?, Dictionary.get?_erase]
    by_cases hn : n = name
    · rw [if_pos hn, if_pos hn]
      rfl
    · rw [if_neg hn, if_neg hn]
      rfl

/-! ### Changes to one object -/

theorem modify_modify (s : Store) (h : Handle) (f g : Profile → Profile) :
    (s.modify h f).modify h g = s.modify h (g ∘ f) := by
  simp only [modify, List.modify_modify_eq]

theorem modify_congr {f g : Profile → Profile} (hfg : ∀ p, s.object? h = some p → f p = g p) :
    s.modify h f = s.modify h g := by
  have hobjects : s.objects.modify h f = s.objects.modify h g := by
    refine List.ext_getElem? fun k => ?_
    rw [List.getElem?_modify, List.getElem?_modify]
    refine Option.map_congr fun p hp => ?_
    split
    · rename_i hk
      exact hfg p (hk ▸ hp)
    · rfl
  rw [modify, hobjects, modify]

/-- A change that leaves the object as it is leaves the store as it is. -/
theorem modify_eq_self {f : Profile → Profile} (hf : ∀ p, s.object? h = some p → f p = p) : s.modify h f = s := by
  rw [modify_congr (g := id) hf, modify, List.modify_id]

theorem Sound.modify (hs : s.Sound) {f : Profile → Profile} (hf : ∀ p, (f p).name = p.name) :
    (s.modify h f).Sound := by
  refine .of_entries fun n k hk => ?_
  obtain ⟨hne, p, hp, hpn⟩ := hs.entry hk
  rw [object?_modify, hp]
  split
  · exact ⟨hne, f p, rfl, (hf p).trans hpn⟩
  · exact ⟨hne, p, rfl, hpn⟩

/-- A change to an object shows under the names that lead to it and nowhere else. -/
theorem get?_view_modify (hs : s.Sound) (f : Profile → Profile) (n : String) :
    (s.modify h f).view.get? n =
      if s.find? n = some h then (s.view.get? n).map f else s.view.get? n := by
  have hfind : (s.modify h f).find? n = s.find? n := rfl
  rw [get?_view, get?_view, hfind]
  cases hf : s.find? n with
  | none => simp
  | some k =>
    obtain ⟨p, hp, -⟩ := hs.named hf
    simp only [Option.map_some, object?_modify, hp, Option.some.injEq]
    by_cases hk : k = h
    · simp [hk]
    · simp [hk, Ne.symm hk]

/-- A change to the object under a name shows there. -/
theorem view_modify (hs : s.Sound) {f : Profile → Profile} {p : Profile}
    (hh : s.find? name = some h) (hp : s.view.get? name = some p) :
    (s.modify h f).view = s.view.insert name (f p) := by
  refine Dictionary.ext_get? fun n => ?_
  rw [get?_view_modify hs, Dictionary.get?_insert]
  by_cases hn : n = name
  · subst hn
    simp [hh, hp]
  -- no other name leads to this object
  · have hne : s.find? n ≠ some h := fun hf => hn (hs.apart hf hh)
    simp [hn, hne]

theorem addValidation_eq (s : Store) (h : Handle) (check description : String) (now : Timestamp) :
    (s.addValidation h check description now).2 =
      s.modify h fun p => (p.addValidation check description now).2 := by
  rw [addValidation]
  split
  · rfl
  · rename_i hnone
    have hout : s.objects.length ≤ h := List.getElem?_eq_none_iff.mp hnone
    rw [modify, List.modify_eq_self hout]

theorem name_addValidation (p : Profile) (check description : String) (now : Timestamp) :
    (p.addValidation check description now).2.name = p.name := by
  rw [Profile.addValidation]
  split <;> rfl

theorem checks_addValidation (p : Profile) (check description : String) (now : Timestamp) :
    (p.addValidation check description now).2.checks = p.checks.insertNew check description := by
  rw [Profile.addValidation, Dictionary.insertNew]
  split <;> rfl

theorem Sound.addValidation (hs : s.Sound) {check description : String} :
    (s.addValidation h check description now).2.Sound := by
  rw [addValidation_eq]
  exact hs.modify fun p => name_addValidation p check description now

theorem Sound.setValidations (hs : s.Sound) {vs : List Validation} :
    (s.setValidations h vs now).Sound :=
  hs.modify fun _ => rfl

/-! ### Renaming -/

theorem rename_eq_ok {old new : String} (hr : s.rename old new now = .ok s') :
    (old = new ∧ s' = s) ∨
      (old ≠ new ∧ new ≠ "" ∧ s.find? new = none ∧ ∃ h, s.find? old = some h ∧
        s' = { s.modify h (·.rename new now) with
          index := (s.index.erase old).insert new h
          lastUpdate := now }) := by
  rw [rename] at hr
  split at hr
  · cases hr
  · rename_i hnew
    split at hr
    · rename_i heq
      split at hr
      · cases hr
        exact Or.inl ⟨heq, rfl⟩
      · cases hr
    · rename_i hne
      split at hr
      · cases hr
      · rename_i hfree
        split at hr
        · cases hr
        · rename_i h hf
          cases hr
          exact Or.inr ⟨hne, hnew, Dictionary.contains_eq_false_iff.mp (Bool.eq_false_iff.mpr hfree),
            h, hf, rfl⟩

theorem Sound.rename {old new : String} (hs : s.Sound) (hr : s.rename old new now = .ok s') :
    s'.Sound := by
  rcases rename_eq_ok hr with ⟨-, rfl⟩ | ⟨hne, hnew, hfree, h, hold, rfl⟩
  · exact hs
  refine .of_entries fun n k hf => ?_
  rw [find?, Dictionary.get?_insert] at hf
  split at hf
  · rename_i hn
    cases hf
    obtain ⟨p, hp, -⟩ := hs.named hold
    refine ⟨hn ▸ hnew, p.rename new now, ?_, hn.symm⟩
    exact (object?_modify s h _ h).trans (by rw [if_pos rfl, hp]; rfl)
  · rw [Dictionary.get?_erase] at hf
    split at hf
    · cases hf
    · rename_i hno
      -- another name leads to another object, which keeps its name
      have hk : h ≠ k := fun hk => hno (hs.apart hf (hk ▸ hold))
      obtain ⟨hne, p, hp, hpn⟩ := hs.entry hf
      exact ⟨hne, p, (object?_modify s h _ k).trans (by rw [if_neg hk, hp]), hpn⟩

end Store
end MetadataAudit
