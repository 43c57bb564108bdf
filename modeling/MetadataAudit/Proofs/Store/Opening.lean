import MetadataAudit.Proofs.Store.RoundTrip
import MetadataAudit.Store.Opening

/-! # Stores that are opened

A store can be opened when its file is accepted, or when there is none and every table of the rule
book has a name (`Store.exists_opened`).  In the one case it holds what its file says
(`Store.opened_eq_ok_iff_of_isKept`), in the other a profile without checks for each table
(`Store.view_seeded`).  Where a store was saved, the next one to be opened shows
the same profiles (`Store.opened_saved`); but when none was left, none can be opened any more
(`Store.opened_saved_empty`).  Text behind what was saved can make opening fail, and does nothing
else (`Store.view_opened_of_append`).
-/
namespace MetadataAudit
namespace Store

variable {s s' : Store} {rules : Rulebook} {t : FileTree} {path : Path} {now : Timestamp}
  {target : List String} {rest : Bytes}

theorem plant_eq_ok_iff {name : String} :
    s.plant name now = .ok s' ↔ s.set ⟨name, now, .empty⟩ now = .ok s' := by
  rw [plant, Profile.create, set]
  by_cases hname : name = ""
  · simp [hname, bind, Except.bind]
  · simp [hname, bind, Except.bind, set, Profile.gather]

theorem exists_seeded (path : Option Path) (now : Timestamp)
    (hrules : ∀ name ∈ rules.profiles, name ≠ "") : ∃ s, seeded rules path now = .ok s := by
  rw [seeded]
  generalize empty path now = s
  generalize rules.profiles = names at hrules
  induction names generalizing s with
  | nil => exact ⟨s, rfl⟩
  | cons name names ih =>
    rw [List.forall_mem_cons] at hrules
    obtain ⟨s', hs'⟩ : ∃ s', s.plant name now = .ok s' :=
      ⟨_, plant_eq_ok_iff.mpr (set_eq_ok_iff.mpr ⟨hrules.1, rfl⟩)⟩
    obtain ⟨u, hu⟩ := ih s' hrules.2
    exact ⟨u, by rw [List.foldlM_cons, hs']; exact hu⟩

theorem sound_seeded {path : Option Path} (h : seeded rules path now = .ok s) :
    s.Sound ∧ s.path = path := by
  rw [seeded] at h
  -- each profile that is planted keeps the store sound, whatever was planted before
  suffices key : ∀ start : Store, start.Sound → start.path = path →
      rules.profiles.foldlM (fun s name => s.plant name now) start = .ok s →
        s.Sound ∧ s.path = path from key _ (sound_empty path now) rfl h
  clear h
  induction rules.profiles with
  | nil =>
    intro start hstart hpath h
    cases h
    exact ⟨hstart, hpath⟩
  | cons name names ih =>
    intro start hstart hpath h
    obtain ⟨next, hnext, hrest⟩ := bind_eq_ok_iff.mp h
    have hset := plant_eq_ok_iff.mp hnext
    refine ih next (hstart.set hset) ?_ hrest
    obtain ⟨-, rfl⟩ := set_eq_ok_iff.mp hset
    exact hpath

/-- What is planted stands under its name without any checks, and the rest stays. -/
theorem get?_view_planted {names : List String} (hs : s.Sound)
    (h : names.foldlM (fun s name => s.plant name now) s = .ok s') (n : String) :
    s'.view.get? n = if n ∈ names then some ⟨n, now, .empty⟩ else s.view.get? n := by
  induction names generalizing s with
  | nil =>
    cases h
    rfl
  | cons name names ih =>
    obtain ⟨next, hnext, hrest⟩ := bind_eq_ok_iff.mp h
    have hset := plant_eq_ok_iff.mp hnext
    rw [ih (hs.set hset) hrest, view_set hs hset, Dictionary.get?_insert]
    by_cases hlater : n ∈ names
    · rw [if_pos hlater, if_pos (List.mem_cons_of_mem name hlater)]
    · by_cases hn : n = name
      · subst hn
        rw [if_neg hlater, if_pos rfl, if_pos List.mem_cons_self]
      · rw [if_neg hlater, if_neg hn, if_neg (by simp [hn, hlater])]

/-- A store begins with a profile without checks for each table, and with nothing else. -/
theorem view_seeded {path : Option Path} (h : seeded rules path now = .ok s) :
    s.view = rules.tables.map fun name _ => ⟨name, now, .empty⟩ := by
  refine Dictionary.ext_get? fun n => ?_
  rw [get?_view_planted (sound_empty path now) h, Dictionary.get?_map, Rulebook.profiles]
  cases htable : rules.tables.get? n with
  | none =>
    have hn : n ∉ rules.tables.names := fun hmem => by
      obtain ⟨table, hsome⟩ := Dictionary.mem_names_iff.mp hmem
      cases htable.symm.trans hsome
    rw [if_neg hn]
    rfl
  | some table => rw [if_pos (Dictionary.mem_names_iff.mpr ⟨table, htable⟩), Option.map_some]

theorem names_view (s : Store) : s.view.names = s.names := by
  rw [Dictionary.names, view, Dictionary.map, List.map_map]
  rfl

theorem names_seeded {path : Option Path} (h : seeded rules path now = .ok s) :
    s.names = rules.profiles := by
  rw [← names_view, view_seeded h, Dictionary.names, Dictionary.map, List.map_map]
  rfl

theorem get?_seeded {path : Option Path} (h : seeded rules path now = .ok s) {name : String}
    (hname : name ∈ rules.profiles) : s.get? name = some ⟨name, now, .empty⟩ := by
  obtain ⟨table, htable⟩ := Dictionary.mem_names_iff.mp hname
  rw [← get?_view_eq_get? (sound_seeded h).1, view_seeded h, Dictionary.get?_map, htable]
  rfl

/-- A store can begin with the tables of a rule book exactly if all of them have names. -/
theorem exists_seeded_iff {path : Option Path} :
    (∃ s, seeded rules path now = .ok s) ↔ ∀ name ∈ rules.profiles, name ≠ "" := by
  constructor
  · rintro ⟨s, hs⟩ name hname
    have hget : s.view.get? name = some ⟨name, now, .empty⟩ := by
      rw [get?_view_eq_get? (sound_seeded hs).1]
      exact get?_seeded hs hname
    exact (name_of_get?_view (sound_seeded hs).1 hget).2
  · exact exists_seeded path now

/-- There is no file to load the store from: it is kept nowhere, or nothing is at its path. -/
def NotKept (t : FileTree) (path : Option Path) : Prop := ∀ p, path = some p → isKept t p = false

/-- Where there is no file, a store begins with the tables. -/
theorem opened_of_notKept {path : Option Path} (h : NotKept t path) :
    opened rules path t now = seeded rules path now := by
  cases path with
  | none => rfl
  | some p => rw [opened, if_neg (by rw [h p rfl]; exact Bool.false_ne_true)]

/-- Where there is a file, a store is opened exactly if it is loaded from there. -/
theorem opened_eq_ok_iff_of_isKept (h : isKept t path = true) :
    opened rules (some path) t now = .ok s ↔ (empty (some path) now).refresh t now = .ok s := by
  rw [opened, if_pos h]
  cases (empty (some path) now).refresh t now <;> simp

theorem path_of_refresh (h : s.refresh t now = .ok s') : s'.path = s.path := by
  obtain ⟨_, d, -, -, hreplace⟩ := refresh_eq_ok_iff.mp h
  obtain ⟨-, rfl⟩ := replace_eq_ok_iff.mp hreplace
  rfl

theorem sound_opened (h : opened rules (some path) t now = .ok s) :
    s.Sound ∧ s.path = some path := by
  rw [opened] at h
  split at h
  · split at h
    · rename_i hrefresh
      cases h
      exact ⟨Sound.refresh hrefresh, path_of_refresh hrefresh⟩
    · cases h
  · exact sound_seeded h

/-- A store can be opened where there is no file and where its file is accepted. -/
theorem exists_opened (hrules : ∀ name ∈ rules.profiles, name ≠ "")
    (hfile : isKept t path = false ∨ ∃ s, (empty (some path) now).refresh t now = .ok s) :
    ∃ s, opened rules (some path) t now = .ok s := by
  rw [opened]
  rcases hfile with hno | ⟨s, hs⟩
  · rw [hno]
    exact exists_seeded _ now hrules
  · split
    · exact ⟨s, by rw [hs]⟩
    · exact exists_seeded _ now hrules

theorem isKept_eq_true_iff : isKept t path = true ↔ ∃ place, t.resolve path = .ok place := by
  rw [isKept, FileTree.exists?]
  cases t.resolve path with
  | ok place => simp
  | error e => cases e <;> simp

theorem isKept_of_holds {content : Bytes} (h : t.Holds path target content) :
    isKept t path = true :=
  isKept_eq_true_iff.mpr ⟨target, h.resolve⟩

/-- Where a store with profiles was saved, one that shows them can be opened. -/
theorem opened_saved (hs : s.Sound) (hne : s.view ≠ .empty)
    (h : t.Holds path target (Utf8.encode s.text)) (rules : Rulebook) (now : Timestamp) :
    ∃ fresh, opened rules (some path) t now = .ok fresh ∧ fresh.view = s.view := by
  have hpath : (empty (some path) now).path = some path := rfl
  obtain ⟨fresh, hfresh, hview, -⟩ := refresh_saved hs hne hpath h.read now
  refine ⟨fresh, ?_, hview⟩
  rw [opened, isKept_of_holds h, if_pos rfl, hfresh]

/-- Where a store without profiles was saved, none can be opened. -/
theorem opened_saved_empty (hempty : s.view = .empty)
    (h : t.Holds path target (Utf8.encode s.text)) (rules : Rulebook) (now : Timestamp) :
    opened rules (some path) t now = .error (.unloaded path (.noProfiles path)) := by
  have hrefresh : (empty (some path) now).refresh t now = .error (.noProfiles path) := by
    rw [refresh]
    simp only [empty, load_saved_empty hempty h.read]
    rfl
  rw [opened, isKept_of_holds h, if_pos rfl, hrefresh]

/-- What stands behind a saved store does not change what is opened, if that succeeds at all. -/
theorem view_opened_of_append (hs : s.Sound)
    (h : t.Holds path target (Utf8.encode s.text ++ rest))
    (ho : opened rules (some path) t now = .ok s') : s'.view = s.view ∧ s.view ≠ .empty := by
  rw [opened, isKept_of_holds h, if_pos rfl] at ho
  split at ho
  · rename_i fresh hrefresh
    cases ho
    obtain ⟨_, d, hpath, hload, hreplace⟩ := refresh_eq_ok_iff.mp hrefresh
    cases hpath
    obtain ⟨content, hread, hdecode, hne, -⟩ := StoreDocument.load_eq_ok_iff.mp hload
    obtain rfl := Except.ok.inj (h.read.symm.trans hread)
    -- the document was read although something stands behind it, so it is the saved one
    have hd := StoreDocument.eq_of_decode?_text_append hdecode
    subst hd
    obtain ⟨fresh', hfresh', hview, -⟩ := replace_toDocument hs (empty (some path) now)
    rw [hreplace] at hfresh'
    cases hfresh'
    exact ⟨hview, fun hempty => hne (toDocument_profiles_eq_empty_iff.mpr hempty)⟩
  · cases ho

end Store
end MetadataAudit
