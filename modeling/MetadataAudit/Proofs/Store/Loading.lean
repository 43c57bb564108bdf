import Mathlib.Data.List.Nodup
import MetadataAudit.Proofs.Outcome
import MetadataAudit.Proofs.Store.View

/-! # Stores that take over a document

A document is accepted when it holds a profile and its profiles have names that are not empty and
all different (`load_eq_ok_iff`).  A store that takes one over then shows its profiles under their
own names and nothing of what it held before (`view_replace`).
-/
namespace MetadataAudit

namespace Profile

/-- The profile with the content of a document; its validations are gathered by name. -/
def described (d : ProfileDocument) : Profile := ⟨d.name, d.lastUpdate, gather d.validations⟩

theorem ofDocument_eq_ok_iff {d : ProfileDocument} {p : Profile} :
    ofDocument d = .ok p ↔ d.name ≠ "" ∧ p = described d := by
  rw [ofDocument, create]
  split
  · rename_i hname
    simp [hname]
  · rename_i hname
    simp only [Except.ok.injEq, ne_eq, hname, not_false_eq_true, true_and]
    exact eq_comm

theorem mapM_ofDocument_eq_ok_iff {ds : List ProfileDocument} {ps : List Profile} :
    ds.mapM ofDocument = .ok ps ↔ (∀ d ∈ ds, d.name ≠ "") ∧ ps = ds.map described := by
  induction ds generalizing ps with
  | nil =>
    simp only [List.mapM_nil, pure, Except.pure, Except.ok.injEq, List.not_mem_nil,
      false_implies, implies_true, true_and, List.map_nil]
    exact eq_comm
  | cons d ds ih =>
    simp only [List.mapM_cons, bind_eq_ok_iff, ofDocument_eq_ok_iff, ih, pure, Except.pure,
      Except.ok.injEq, List.forall_mem_cons, List.map_cons]
    constructor
    · rintro ⟨p, ⟨hname, rfl⟩, qs, ⟨hall, rfl⟩, rfl⟩
      exact ⟨⟨hname, hall⟩, rfl⟩
    · rintro ⟨⟨hname, hall⟩, rfl⟩
      exact ⟨_, ⟨hname, rfl⟩, _, ⟨hall, rfl⟩, rfl⟩

end Profile

namespace StoreDocument

/-- The names of the profiles are not empty, and no two are the same. -/
def Named (ds : List ProfileDocument) : Prop :=
  (∀ d ∈ ds, d.name ≠ "") ∧ (ds.map ProfileDocument.name).Nodup

theorem fault?_eq_none_iff (seen : List String) (ds : List ProfileDocument) :
    fault? seen ds = none ↔ Named ds ∧ ∀ d ∈ ds, d.name ∉ seen := by
  induction ds generalizing seen with
  | nil => simp [fault?, Named]
  | cons d ds ih =>
    rw [fault?]
    split
    · rename_i hname
      simp [Named, hname]
    · rename_i hname
      split
      · rename_i hseen
        have hmem : d.name ∈ seen := List.contains_iff_mem.mp hseen
        simp [hmem]
      · rename_i hseen
        have hmem : d.name ∉ seen := fun h => hseen (List.contains_iff_mem.mpr h)
        rw [ih]
        simp only [Named, List.forall_mem_cons, List.map_cons, List.nodup_cons]
        simp only [List.mem_map, List.mem_cons, not_or, not_exists, not_and]
        constructor
        · rintro ⟨⟨hne, hnd⟩, hout⟩
          exact ⟨⟨⟨hname, hne⟩, fun x hx => (hout x hx).1, hnd⟩, hmem, fun x hx => (hout x hx).2⟩
        · rintro ⟨⟨⟨-, hne⟩, hout, hnd⟩, -, hseen'⟩
          exact ⟨⟨hne, hnd⟩, fun x hx => ⟨hout x hx, hseen' x hx⟩⟩

theorem fault?_nil_eq_none_iff {ds : List ProfileDocument} : fault? [] ds = none ↔ Named ds := by
  simp [fault?_eq_none_iff]

/-- A document that is read and decodes is judged by its profiles alone. -/
theorem load_of_decode? {t : FileTree} {path : Path} {content : Bytes} {now : Timestamp}
    {d : StoreDocument} (hread : t.read path = .ok content)
    (hdecode : (Parsed.ofBytes? content >>= decode? now) = some d) :
    load t path now = if d.profiles.size = 0 then .error (.noProfiles path)
      else match fault? [] d.profiles.values with
        | some e => .error e
        | none => .ok d := by
  rw [load, hread]
  simp only [Except.mapError, bind, Except.bind]
  simp only [bind] at hdecode
  rw [hdecode]
  by_cases hsize : d.profiles.size = 0
  · simp only [hsize, if_true]
    rfl
  · simp only [hsize, if_false, pure, Except.pure]
    cases fault? [] d.profiles.values <;> rfl

theorem exists_decode?_of_load {t : FileTree} {path : Path} {now : Timestamp} {d : StoreDocument}
    (h : load t path now = .ok d) : ∃ content d', t.read path = .ok content ∧
      (Parsed.ofBytes? content >>= decode? now) = some d' := by
  rw [load] at h
  obtain ⟨content, hread, h⟩ := bind_eq_ok_iff.mp h
  refine ⟨content, ?_⟩
  cases hdecode : Parsed.ofBytes? content >>= decode? now with
  | none =>
    rw [hdecode] at h
    cases h
  | some d' => exact ⟨d', mapError_eq_ok_iff.mp hread, rfl⟩

/-- **What is accepted.**  The file is read and decodes to a document that holds a profile and whose
profiles have names of their own. -/
theorem load_eq_ok_iff {t : FileTree} {path : Path} {now : Timestamp} {d : StoreDocument} :
    load t path now = .ok d ↔ ∃ content, t.read path = .ok content ∧
      (Parsed.ofBytes? content >>= decode? now) = some d ∧ d.profiles ≠ .empty ∧
        Named d.profiles.values := by
  constructor
  · intro h
    obtain ⟨content, d', hread, hdecode⟩ := exists_decode?_of_load h
    rw [load_of_decode? hread hdecode] at h
    split at h
    · cases h
    · rename_i hsize
      split at h
      · cases h
      · rename_i hfault
        cases h
        exact ⟨content, hread, hdecode, fun hempty => hsize (Dictionary.size_eq_zero_iff.mpr hempty),
          fault?_nil_eq_none_iff.mp hfault⟩
  · rintro ⟨content, hread, hdecode, hne, hall⟩
    rw [load_of_decode? hread hdecode, fault?_nil_eq_none_iff.mpr hall,
      if_neg fun hsize => hne (Dictionary.size_eq_zero_iff.mp hsize)]

end StoreDocument

namespace Store

variable {s s' : Store} {d : StoreDocument} {now : Timestamp}

theorem replace_eq_ok_iff :
    s.replace d = .ok s' ↔ (∀ e ∈ d.profiles.values, e.name ≠ "") ∧ s' = { s with
      objects := s.objects ++ d.profiles.values.map Profile.described
      index := .ofList (((d.profiles.values.map Profile.described).zipIdx s.objects.length).map
        fun (p, h) => (p.name, h))
      lastUpdate := d.lastUpdate } := by
  rw [replace]
  simp only [bind_eq_ok_iff, Profile.mapM_ofDocument_eq_ok_iff, pure, Except.pure, Except.ok.injEq]
  constructor
  · rintro ⟨ps, ⟨hall, rfl⟩, rfl⟩
    exact ⟨hall, rfl⟩
  · rintro ⟨hall, rfl⟩
    exact ⟨_, ⟨hall, rfl⟩, rfl⟩

/-- A name that a store took over leads past the old objects, to a profile that bears it. -/
theorem exists_of_find?_replace (hr : s.replace d = .ok s') {n : String} {h : Handle}
    (hf : s'.find? n = some h) : s.objects.length ≤ h ∧
      ∃ e ∈ d.profiles.values, e.name = n ∧ s'.object? h = some (Profile.described e) := by
  obtain ⟨-, rfl⟩ := replace_eq_ok_iff.mp hr
  obtain ⟨⟨p, k⟩, hmem, heq⟩ := List.mem_map.mp (Dictionary.mem_of_get?_ofList hf)
  cases heq
  obtain ⟨hle, hget⟩ := List.mk_mem_zipIdx_iff_le_and_getElem?_sub.mp hmem
  obtain ⟨e, he, rfl⟩ := List.mem_map.mp (List.mem_of_getElem? hget)
  exact ⟨hle, e, he, rfl, (List.getElem?_append_right hle).trans hget⟩

/-- The objects of a document that is taken over are new. -/
theorem find?_replace (hr : s.replace d = .ok s') {n : String} {h : Handle}
    (hf : s'.find? n = some h) : s.object? h = none :=
  List.getElem?_eq_none (exists_of_find?_replace hr hf).1

theorem Sound.replace (hr : s.replace d = .ok s') : s'.Sound := by
  refine .of_entries fun n h hf => ?_
  obtain ⟨-, e, he, hname, hobject⟩ := exists_of_find?_replace hr hf
  exact ⟨hname ▸ (replace_eq_ok_iff.mp hr).1 e he, _, hobject, hname⟩

/-- **A store shows what it took over**: each profile under its own name, and nothing else. -/
theorem view_replace (hr : s.replace d = .ok s') :
    s'.view = .ofList (d.profiles.values.map fun e => (e.name, Profile.described e)) := by
  obtain ⟨-, rfl⟩ := replace_eq_ok_iff.mp hr
  have hmap : d.profiles.values.map (fun e => (e.name, Profile.described e)) =
      (d.profiles.values.map Profile.described).map fun p => (p.name, p) := by
    simp [Function.comp_def, Profile.described]
  rw [view, Dictionary.map_ofList, hmap]
  generalize d.profiles.values.map Profile.described = ps
  refine congrArg Dictionary.ofList ?_
  rw [List.map_map]
  -- every handle that was handed out leads to the profile it was handed out with
  have hpair : ∀ x ∈ ps.zipIdx s.objects.length,
      (x.1.name, ((s.objects ++ ps)[x.2]?).getD default) = (x.1.name, x.1) := by
    rintro ⟨p, k⟩ hmem
    obtain ⟨hle, hget⟩ := List.mk_mem_zipIdx_iff_le_and_getElem?_sub.mp hmem
    rw [List.getElem?_append_right hle, hget]
    rfl
  refine (List.map_congr_left hpair).trans ?_
  rw [← Function.comp_def (fun p : Profile => (p.name, p)) Prod.fst, ← List.map_map,
    List.zipIdx_map_fst]

theorem refresh_eq_ok_iff {t : FileTree} :
    s.refresh t now = .ok s' ↔ ∃ path d, s.path = some path ∧
      StoreDocument.load t path now = .ok d ∧ s.replace d = .ok s' := by
  rw [refresh]
  cases hp : s.path with
  | none => simp
  | some path => simp [bind_eq_ok_iff]

theorem Sound.refresh {t : FileTree} (hr : s.refresh t now = .ok s') : s'.Sound := by
  obtain ⟨path, d, -, -, hrep⟩ := refresh_eq_ok_iff.mp hr
  exact Sound.replace hrep

end Store
end MetadataAudit
