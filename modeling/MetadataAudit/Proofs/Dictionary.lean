import Mathlib.Data.List.Nodup
import Mathlib.Data.List.Perm.Basic
import MetadataAudit.Dictionary
import MetadataAudit.Proofs.Outcome

/-! # Dictionaries by what they hold

A dictionary is determined by its look-ups (`ext_get?`), so that two ways of building one are
compared name by name.  A list of entries without repeated names is found again in the dictionary
it makes (`get?_ofList_of_nodup`), and entries that already ascend are the dictionary
(`ofList_entries`).  Where values are made of the values of a dictionary, the least name of whose value
nothing can be made decides (`mapM_eq_error_iff`).
-/
namespace MetadataAudit

/-- The first of equal names is kept, and so each is there once. -/
theorem nodup_eraseDups (names : List String) : names.eraseDups.Nodup := by
  generalize hlength : names.length = n
  induction n using Nat.strongRecOn generalizing names with
  | ind n ih =>
    cases names with
    | nil => exact List.nodup_nil
    | cons name names =>
      rw [List.eraseDups_cons, List.nodup_cons]
      constructor
      · simp
      · refine ih _ ?_ _ rfl
        have hle := List.length_filter_le (fun n => !n == name) names
        rw [List.length_cons] at hlength
        omega

namespace Entries

variable {α : Type} {es : List (String × α)}

theorem Ascending.nodup_names (h : Ascending es) : (es.map Prod.fst).Nodup :=
  List.pairwise_map.mpr (h.imp fun hlt => String.ne_of_lt hlt)

/-- Where no name is repeated, a name leads to the one value it stands with. -/
theorem lookup_eq_some_iff (h : (es.map Prod.fst).Nodup) {n : String} {v : α} :
    es.lookup n = some v ↔ (n, v) ∈ es := by
  induction es with
  | nil => simp
  | cons e es ih =>
    obtain ⟨m, w⟩ := e
    rw [List.map_cons, List.nodup_cons] at h
    by_cases hn : n = m
    · subst hn
      have hout : (n, v) ∉ es := fun hmem => h.1 (List.mem_map.mpr ⟨(n, v), hmem, rfl⟩)
      simp [List.lookup_cons_self, hout, eq_comm]
    · have hb : (n == m) = false := beq_eq_false_iff_ne.mpr hn
      rw [List.lookup_cons, hb, ih h.2]
      simp [hn]

theorem lookup_map {β : Type} (f : String → α → β) (es : List (String × α)) (n : String) :
    (es.map fun e => (e.1, f e.1 e.2)).lookup n = (es.lookup n).map (f n) := by
  induction es with
  | nil => rfl
  | cons e es ih =>
    rw [List.map_cons, List.lookup_cons, List.lookup_cons, ih]
    by_cases hn : n = e.1
    · subst hn; simp
    · simp [beq_eq_false_iff_ne.mpr hn]

/-- What stands before an entry are the entries with lesser names. -/
theorem Ascending.mem_before_iff {before after : List (String × α)} {e x : String × α}
    (h : Ascending (before ++ e :: after)) :
    x ∈ before ↔ x ∈ before ++ e :: after ∧ x.1 < e.1 := by
  obtain ⟨-, hrest, hlt⟩ := List.pairwise_append.mp h
  obtain ⟨hafter, -⟩ := List.pairwise_cons.mp hrest
  constructor
  · intro hx
    exact ⟨List.mem_append_left _ hx, hlt x hx e List.mem_cons_self⟩
  · rintro ⟨hx, hless⟩
    rcases List.mem_append.mp hx with hx | hx
    · exact hx
    · rcases List.mem_cons.mp hx with rfl | hx
      · exact absurd hless (String.lt_irrefl _)
      · exact absurd (String.lt_trans hless (hafter x hx)) (String.lt_irrefl _)

/-- A new name is put between the lesser names and the greater ones. -/
theorem put_append {name : String} {value : α} {before after : List (String × α)}
    (hbefore : ∀ e ∈ before, e.1 < name) (hafter : ∀ e ∈ after, name < e.1) :
    put name value (before ++ after) = before ++ (name, value) :: after := by
  induction before with
  | nil =>
    cases after with
    | nil => rfl
    | cons e after =>
      rw [List.nil_append, put, if_pos (hafter e List.mem_cons_self)]
      rfl
  | cons e before ih =>
    rw [List.forall_mem_cons] at hbefore
    have hnot : ¬ name < e.1 := String.lt_asymm hbefore.1
    have hne : name ≠ e.1 := (String.ne_of_lt hbefore.1).symm
    rw [List.cons_append, put, if_neg hnot, if_neg hne, ih hbefore.2]
    rfl

/-- What is made of entries stands under their names. -/
theorem of_mapM_eq_ok {β ε : Type} {f : String → α → Except ε β} {fs : List (String × β)}
    (h : (es.mapM fun (n, v) => do return (n, ← f n v)) = .ok fs) :
    fs.map Prod.fst = es.map Prod.fst ∧
      (∀ n v, es.lookup n = some v → ∃ w, fs.lookup n = some w ∧ f n v = .ok w) ∧
      ∀ n w, fs.lookup n = some w → ∃ v, es.lookup n = some v ∧ f n v = .ok w := by
  induction es generalizing fs with
  | nil =>
    cases h
    simp
  | cons e es ih =>
    obtain ⟨m, v⟩ := e
    rw [List.mapM_cons] at h
    obtain ⟨e', he', hrest⟩ := bind_eq_ok_iff.mp h
    obtain ⟨w, hw, he'⟩ := bind_eq_ok_iff.mp he'
    obtain ⟨fs', hfs', hfs⟩ := bind_eq_ok_iff.mp hrest
    cases he'
    cases hfs
    obtain ⟨hnames, hmade, hsource⟩ := ih hfs'
    refine ⟨by rw [List.map_cons, List.map_cons, hnames], fun n => ?_, fun n => ?_⟩
    · rw [List.lookup_cons, List.lookup_cons]
      by_cases hn : n = m
      · subst hn
        simpa using hw
      · simpa [beq_eq_false_iff_ne.mpr hn] using hmade n
    · rw [List.lookup_cons, List.lookup_cons]
      by_cases hn : n = m
      · subst hn
        simpa using hw
      · simpa [beq_eq_false_iff_ne.mpr hn] using hsource n

end Entries

namespace Dictionary

variable {α β : Type}

theorem get?_eq_some_iff {d : Dictionary α} {n : String} {v : α} :
    d.get? n = some v ↔ (n, v) ∈ d.entries :=
  Entries.lookup_eq_some_iff d.ascending.nodup_names

/-- **A dictionary is its look-ups.** -/
theorem ext_get? {a b : Dictionary α} (h : ∀ n, a.get? n = b.get? n) : a = b := by
  obtain ⟨es, hes⟩ := a
  obtain ⟨fs, hfs⟩ := b
  have hmem : ∀ x, x ∈ es ↔ x ∈ fs := by
    rintro ⟨n, v⟩
    rw [← Entries.lookup_eq_some_iff hes.nodup_names, ← Entries.lookup_eq_some_iff hfs.nodup_names]
    exact iff_of_eq (congrArg (· = some v) (h n))
  -- entries without repeated names that have the same members are the same but for their order
  have hperm : es.Perm fs :=
    (List.perm_ext_iff_of_nodup (hes.nodup_names.of_map _) (hfs.nodup_names.of_map _)).mpr hmem
  have heq : es = fs := by
    refine hperm.eq_of_pairwise ?_ hes hfs
    intro x y _ _ hxy hyx
    exact absurd (String.lt_trans hxy hyx) (String.lt_irrefl _)
  subst heq
  rfl

theorem mem_names_iff {d : Dictionary α} {n : String} : n ∈ d.names ↔ ∃ v, d.get? n = some v := by
  simp only [names, List.mem_map, get?_eq_some_iff]
  constructor
  · rintro ⟨⟨m, v⟩, hmem, rfl⟩
    exact ⟨v, hmem⟩
  · rintro ⟨v, hmem⟩
    exact ⟨(n, v), hmem, rfl⟩

theorem ascending_names (d : Dictionary α) : d.names.Pairwise (· < ·) :=
  List.pairwise_map.mpr d.ascending

theorem contains_eq_true_iff {d : Dictionary α} {n : String} :
    d.contains n = true ↔ ∃ v, d.get? n = some v := by
  rw [contains, Option.isSome_iff_exists]

theorem contains_eq_false_iff {d : Dictionary α} {n : String} :
    d.contains n = false ↔ d.get? n = none := by
  rw [contains, Option.isSome_eq_false_iff, Option.isNone_iff_eq_none]

@[simp] theorem get?_map (f : String → α → β) (d : Dictionary α) (n : String) :
    (d.map f).get? n = (d.get? n).map (f n) :=
  Entries.lookup_map f d.entries n

theorem insert_eq_self {d : Dictionary α} {n : String} {v : α} (h : d.get? n = some v) :
    d.insert n v = d := by
  refine ext_get? fun m => ?_
  rw [get?_insert]
  split
  · rename_i hm
    rw [hm, h]
  · rfl

/-- A name that is not there need not be taken out. -/
theorem erase_eq_self {d : Dictionary α} {n : String} (h : d.get? n = none) :
    d.erase n = d := by
  refine ext_get? fun m => ?_
  rw [get?_erase]
  split
  · rename_i hm
    rw [hm, h]
  · rfl

@[simp] theorem insert_insert (d : Dictionary α) (n : String) (v w : α) :
    (d.insert n v).insert n w = d.insert n w := by
  refine ext_get? fun m => ?_
  simp only [get?_insert]
  split <;> rfl

theorem size_eq_zero_iff {d : Dictionary α} : d.size = 0 ↔ d = empty := by
  rw [size, List.length_eq_zero_iff]
  exact ⟨fun h => by cases d; cases h; rfl, fun h => h ▸ rfl⟩

theorem size_ne_zero_iff {d : Dictionary α} : d.size ≠ 0 ↔ ∃ n, d.contains n = true := by
  constructor
  · intro hsize
    obtain ⟨⟨n, v⟩, hmem⟩ := List.exists_mem_of_length_pos (Nat.pos_of_ne_zero hsize)
    exact ⟨n, contains_eq_true_iff.mpr ⟨v, get?_eq_some_iff.mpr hmem⟩⟩
  · rintro ⟨n, hn⟩ hsize
    rw [size_eq_zero_iff.mp hsize] at hn
    cases hn

@[simp] theorem get?_insertNew (d : Dictionary α) (name : String) (value : α) (n : String) :
    (d.insertNew name value).get? n = if n = name then some ((d.get? name).getD value)
      else d.get? n := by
  rw [insertNew]
  split
  · rename_i hc
    obtain ⟨v, hv⟩ := contains_eq_true_iff.mp hc
    split
    · rename_i hn
      subst hn
      simp [hv]
    · rfl
  · rename_i hc
    have hv := contains_eq_false_iff.mp (Bool.eq_false_iff.mpr hc)
    rw [get?_insert, hv]
    rfl

/-- Of a list of entries, one under a name that the rest does not repeat stays. -/
theorem get?_foldl_insert (es : List (String × α)) (d : Dictionary α) (n : String)
    (h : (es.map Prod.fst).Nodup) :
    (es.foldl (fun d e => d.insert e.1 e.2) d).get? n = (es.lookup n).or (d.get? n) := by
  induction es generalizing d with
  | nil => simp
  | cons e es ih =>
    rw [List.map_cons, List.nodup_cons] at h
    rw [List.foldl_cons, ih _ h.2, get?_insert, List.lookup_cons]
    by_cases hn : n = e.1
    · subst hn
      have hout : es.lookup e.1 = none := by
        rw [List.lookup_eq_none_iff]
        intro p hp
        exact bne_iff_ne.mpr fun he => h.1 (List.mem_map.mpr ⟨p, hp, he.symm⟩)
      simp [hout]
    · simp [hn, beq_eq_false_iff_ne.mpr hn]

/-- Of a list of entries, the first one under a name stays unless there was one before. -/
theorem get?_foldl_insertNew (es : List (String × α)) (d : Dictionary α) (n : String) :
    (es.foldl (fun d e => d.insertNew e.1 e.2) d).get? n = (d.get? n).or (es.lookup n) := by
  induction es generalizing d with
  | nil => simp
  | cons e es ih =>
    rw [List.foldl_cons, ih, get?_insertNew, List.lookup_cons]
    by_cases hn : n = e.1
    · subst hn
      cases d.get? e.1 <;> simp
    · simp [hn, beq_eq_false_iff_ne.mpr hn]

theorem get?_ofList_of_nodup {es : List (String × α)} (h : (es.map Prod.fst).Nodup) (n : String) :
    (ofList es).get? n = es.lookup n := by
  rw [ofList, get?_foldl_insert es empty n h, get?_empty, Option.or_none]

theorem map_insert (f : String → α → β) (d : Dictionary α) (name : String) (value : α) :
    (d.insert name value).map f = (d.map f).insert name (f name value) := by
  refine ext_get? fun n => ?_
  rw [get?_map, get?_insert, get?_insert, get?_map]
  split
  · rename_i hn; subst hn; rfl
  · rfl

theorem map_ofList (f : String → α → β) (es : List (String × α)) :
    (ofList es).map f = ofList (es.map fun e => (e.1, f e.1 e.2)) := by
  suffices h : ∀ d : Dictionary α, (es.foldl (fun d e => d.insert e.1 e.2) d).map f =
      (es.map fun e => (e.1, f e.1 e.2)).foldl (fun d e => d.insert e.1 e.2) (d.map f) from h empty
  induction es with
  | nil => intro d; rfl
  | cons e es ih =>
    intro d
    rw [List.foldl_cons, ih, map_insert]
    rfl

/-- What a list leaves under a name is one of its entries. -/
theorem mem_of_get?_ofList {es : List (String × α)} {n : String} {v : α}
    (h : (ofList es).get? n = some v) : (n, v) ∈ es := by
  -- what is there after all insertions was inserted or was there from the start
  suffices key : ∀ d : Dictionary α, (es.foldl (fun d e => d.insert e.1 e.2) d).get? n = some v →
      (n, v) ∈ es ∨ d.get? n = some v by
    rcases key empty h with hmem | hempty
    · exact hmem
    · cases hempty
  clear h
  induction es with
  | nil => exact fun d h => Or.inr h
  | cons e es ih =>
    intro d h
    rcases ih _ h with hmem | hins
    · exact Or.inl (List.mem_cons_of_mem _ hmem)
    · rw [get?_insert] at hins
      split at hins
      · rename_i hn
        cases hins
        subst hn
        exact Or.inl (List.mem_cons_self ..)
      · exact Or.inr hins

/-- No name of a list is lost. -/
theorem contains_ofList {es : List (String × α)} {n : String} :
    (ofList es).contains n = true ↔ n ∈ es.map Prod.fst := by
  suffices key : ∀ d : Dictionary α, (es.foldl (fun d e => d.insert e.1 e.2) d).contains n = true ↔
      n ∈ es.map Prod.fst ∨ d.contains n = true by
    rw [ofList, key]
    exact or_iff_left Bool.false_ne_true
  induction es with
  | nil => intro d; simp
  | cons e es ih =>
    intro d
    rw [List.foldl_cons, ih, List.map_cons, List.mem_cons, contains, contains, get?_insert]
    by_cases hn : n = e.1
    · simp [hn]
    · simp [hn]

/-- No entry of a list without repeated names is lost. -/
theorem size_ofList {es : List (String × α)} (h : (es.map Prod.fst).Nodup) :
    (ofList es).size = es.length := by
  refine List.Perm.length_eq ((List.perm_ext_iff_of_nodup
    ((ofList es).ascending.nodup_names.of_map _) (h.of_map _)).mpr ?_)
  rintro ⟨n, v⟩
  rw [← get?_eq_some_iff, get?_ofList_of_nodup h, Entries.lookup_eq_some_iff h]

/-- The entries of a dictionary make the dictionary. -/
@[simp] theorem ofList_entries (d : Dictionary α) : ofList d.entries = d :=
  ext_get? fun n => get?_ofList_of_nodup d.ascending.nodup_names n

/-- A dictionary has the names of another, and its values are made of the values of that. -/
structure MadeBy {ε : Type} (f : String → α → Except ε β) (d : Dictionary α) (d' : Dictionary β) :
    Prop where
  value : ∀ n v, d.get? n = some v → ∃ w, d'.get? n = some w ∧ f n v = .ok w
  source : ∀ n w, d'.get? n = some w → ∃ v, d.get? n = some v ∧ f n v = .ok w

section MapM

variable {ε : Type} {f : String → α → Except ε β} {d : Dictionary α}

theorem MadeBy.get?_iff {d' : Dictionary β} (h : MadeBy f d d') {n : String} :
    (∃ w, d'.get? n = some w) ↔ ∃ v, d.get? n = some v := by
  constructor
  · rintro ⟨w, hw⟩
    obtain ⟨v, hv, -⟩ := h.source n w hw
    exact ⟨v, hv⟩
  · rintro ⟨v, hv⟩
    obtain ⟨w, hw, -⟩ := h.value n v hv
    exact ⟨w, hw⟩

/-- What stands under one name in both is made of the other. -/
theorem MadeBy.made {d' : Dictionary β} (h : MadeBy f d d') {n : String} {v : α} {w : β}
    (hv : d.get? n = some v) (hw : d'.get? n = some w) : f n v = .ok w := by
  obtain ⟨w', hw', hmade⟩ := h.value n v hv
  cases hw.symm.trans hw'
  exact hmade

theorem madeBy_of_mapM_eq_ok {d' : Dictionary β} (h : d.mapM f = .ok d') : MadeBy f d d' := by
  obtain ⟨es, hes, hd'⟩ := bind_eq_ok_iff.mp h
  cases hd'
  obtain ⟨hnames, hmade, hsource⟩ := Entries.of_mapM_eq_ok hes
  have hget : ∀ n, (ofList es).get? n = es.lookup n :=
    get?_ofList_of_nodup (hnames ▸ d.ascending.nodup_names)
  constructor
  · intro n v hv
    rw [hget]
    exact hmade n v hv
  · intro n w hw
    rw [hget] at hw
    exact hsource n w hw

/-- The least name of whose value nothing can be made decides. -/
theorem mapM_eq_error_iff {e : ε} :
    d.mapM f = .error e ↔ ∃ n v, d.get? n = some v ∧ f n v = .error e ∧
      ∀ m w, d.get? m = some w → m < n → ∃ b, f m w = .ok b := by
  have hstep (n : String) (v : α) :
      (do return (n, ← f n v) : Except ε (String × β)) = .error e ↔ f n v = .error e :=
    bind_pure_eq_error_iff
  rw [mapM, bind_pure_eq_error_iff, MetadataAudit.mapM_eq_error_iff]
  constructor
  · rintro ⟨before, ⟨n, v⟩, after, hsplit, hbefore, hfails⟩
    have hget : d.get? n = some v := get?_eq_some_iff.mpr (by simp [hsplit])
    refine ⟨n, v, hget, (hstep n v).mp hfails, fun m w hm hlt => ?_⟩
    have hmem := (hsplit ▸ d.ascending).mem_before_iff.mpr ⟨hsplit ▸ get?_eq_some_iff.mp hm, hlt⟩
    obtain ⟨b, hb⟩ := hbefore (m, w) hmem
    obtain ⟨c, hc, -⟩ := bind_eq_ok_iff.mp hb
    exact ⟨c, hc⟩
  · rintro ⟨n, v, hget, hfails, hlesser⟩
    obtain ⟨before, after, hsplit⟩ := List.append_of_mem (get?_eq_some_iff.mp hget)
    refine ⟨before, (n, v), after, hsplit, fun (m, w) hmem => ?_, (hstep n v).mpr hfails⟩
    obtain ⟨hm, hlt⟩ := (hsplit ▸ d.ascending).mem_before_iff.mp hmem
    obtain ⟨b, hb⟩ := hlesser m w (get?_eq_some_iff.mpr (hsplit ▸ hm)) hlt
    exact ⟨(m, b), bind_eq_ok_iff.mpr ⟨b, hb, rfl⟩⟩

theorem exists_mapM_iff :
    (∃ d', d.mapM f = .ok d') ↔ ∀ n v, d.get? n = some v → ∃ w, f n v = .ok w := by
  constructor
  · rintro ⟨d', h⟩ n v hget
    obtain ⟨w, -, hw⟩ := (madeBy_of_mapM_eq_ok h).value n v hget
    exact ⟨w, hw⟩
  · intro h
    refine exists_ok_iff.mpr fun e he => ?_
    obtain ⟨n, v, hget, hfails, -⟩ := mapM_eq_error_iff.mp he
    exact exists_ok_iff.mp (h n v hget) e hfails

end MapM

end Dictionary
end MetadataAudit
