import MetadataAudit.Proofs.Profile.Document
import MetadataAudit.Proofs.Store.Run
import MetadataAudit.Proofs.Store.Saving

/-! # Stores saved and taken over again

What a sound store is saved as is accepted again as soon as it holds a profile
(`StoreDocument.load_saved`), and it is refused when it holds none (`StoreDocument.load_saved_empty`).
A store that takes it over shows what was saved (`Store.refresh_saved`).
-/
namespace MetadataAudit

/-- The validations of a profile gather to the checks they were listed from. -/
theorem Profile.gather_validations (p : Profile) : gather p.validations = p.checks := by
  have hfold : gather p.validations =
      p.checks.entries.foldl (fun d e => d.insertNew e.1 e.2) .empty := by
    rw [gather, validations, List.foldl_map]
  rw [hfold]
  refine Dictionary.ext_get? fun n => ?_
  rw [Dictionary.get?_foldl_insertNew, Dictionary.get?_empty, Option.none_or, Dictionary.get?]

/-- A profile is what its document describes. -/
theorem Profile.described_toDocument (p : Profile) : described p.toDocument = p := by
  have hchecks := p.gather_validations
  rw [described, toDocument, hchecks]

namespace Store

variable {s fresh other : Store} {t u : FileTree} {path : Path} {now : Timestamp}

theorem values_toDocument (s : Store) :
    s.toDocument.profiles.values = s.view.entries.map fun e => e.2.toDocument := by
  rw [toDocument_profiles, Dictionary.values, Dictionary.map, List.map_map]
  rfl

theorem name_of_mem_view (hs : s.Sound) {n : String} {p : Profile} (h : (n, p) ∈ s.view.entries) :
    p.name = n ∧ n ≠ "" :=
  name_of_get?_view hs (Dictionary.get?_eq_some_iff.mpr h)

/-- The profiles of a sound store have names of their own. -/
theorem named_toDocument (hs : s.Sound) : StoreDocument.Named s.toDocument.profiles.values := by
  rw [values_toDocument]
  constructor
  · intro d hd
    obtain ⟨⟨n, p⟩, hmem, rfl⟩ := List.mem_map.mp hd
    obtain ⟨hname, hne⟩ := name_of_mem_view hs hmem
    exact hname ▸ hne
  · have hnames : (s.view.entries.map fun e => e.2.toDocument).map ProfileDocument.name =
        s.view.entries.map Prod.fst := by
      rw [List.map_map]
      exact List.map_congr_left fun e he => (name_of_mem_view hs he).1
    rw [hnames]
    exact s.view.ascending.nodup_names

theorem toDocument_profiles_eq_empty_iff : s.toDocument.profiles = .empty ↔ s.view = .empty := by
  rw [← Dictionary.size_eq_zero_iff, ← Dictionary.size_eq_zero_iff, toDocument_profiles]
  simp [Dictionary.size, Dictionary.map]

/-- A saved store is accepted when it holds a profile. -/
theorem load_saved (hs : s.Sound) (hne : s.view ≠ .empty)
    (hread : t.read path = .ok (Utf8.encode s.text)) :
    StoreDocument.load t path now = .ok s.toDocument := by
  refine StoreDocument.load_eq_ok_iff.mpr ⟨_, hread, StoreDocument.decode?_text _ now, ?_,
    named_toDocument hs⟩
  exact fun h => hne (toDocument_profiles_eq_empty_iff.mp h)

/-- A saved store is refused when it holds no profile. -/
theorem load_saved_empty (hempty : s.view = .empty)
    (hread : t.read path = .ok (Utf8.encode s.text)) :
    StoreDocument.load t path now = .error (.noProfiles path) := by
  have hsize : s.toDocument.profiles.size = 0 :=
    Dictionary.size_eq_zero_iff.mpr (toDocument_profiles_eq_empty_iff.mpr hempty)
  -- the document is read and decodes; what is refused is that it holds no profile
  rw [StoreDocument.load_of_decode? hread (StoreDocument.decode?_text s.toDocument now), if_pos hsize]

/-- A store that takes over the document of a sound store shows the same profiles. -/
theorem replace_toDocument (hs : s.Sound) (other : Store) :
    ∃ fresh, other.replace s.toDocument = .ok fresh ∧ fresh.view = s.view ∧
      fresh.lastUpdate = s.lastUpdate := by
  obtain ⟨fresh, hfresh⟩ : ∃ fresh, other.replace s.toDocument = .ok fresh :=
    ⟨_, replace_eq_ok_iff.mpr ⟨(named_toDocument hs).1, rfl⟩⟩
  refine ⟨fresh, hfresh, ?_, ?_⟩
  · have hentries : (s.toDocument.profiles.values.map fun e => (e.name, Profile.described e)) =
        s.view.entries := by
      rw [values_toDocument, List.map_map]
      refine (List.map_congr_left fun e he => ?_).trans (List.map_id _)
      have hname : e.2.toDocument.name = e.1 := (name_of_mem_view hs he).1
      rw [Function.comp_apply, hname, Profile.described_toDocument]
      rfl
    rw [view_replace hfresh, hentries, Dictionary.ofList_entries]
  · obtain ⟨-, rfl⟩ := replace_eq_ok_iff.mp hfresh
    rfl

/-- A store shows again what was saved under its path, if that is anything. -/
theorem refresh_saved (hs : s.Sound) (hne : s.view ≠ .empty) (hpath : other.path = some path)
    (hread : t.read path = .ok (Utf8.encode s.text)) (now : Timestamp) :
    ∃ fresh, other.refresh t now = .ok fresh ∧ fresh.view = s.view ∧
      fresh.lastUpdate = s.lastUpdate := by
  obtain ⟨fresh, hfresh, hview, htime⟩ := replace_toDocument hs other
  exact ⟨fresh, refresh_eq_ok_iff.mpr ⟨path, _, hpath, load_saved hs hne hread, hfresh⟩, hview,
    htime⟩

theorem save_eq_ok (hpath : s.path = some path) (hsave : s.save t = (.ok (), u)) :
    ∃ target, u.Holds path target (Utf8.encode s.text) ∧
      t.Grows u (Path.IsAbove · path) [target] := by
  rw [save, saveOn, hpath] at hsave
  exact writeOn_eq_ok hsave

end Store
end MetadataAudit
