import MetadataAudit.FileTree.Write
import MetadataAudit.Proofs.Outcome

/-! # Looking up changed file trees

A path is walked through directories only, so in a tree that keeps all directories of another one
it leads to the same place as there, if anything is at that place (`resolve_of_keeps`).
-/
namespace MetadataAudit
namespace FileTree

variable {t u : FileTree} {place start names : List String}

theorem node?_eq_lookup (hp : place ≠ []) : t.node? place = t.nodes.lookup place := by
  rw [node?, if_neg (by simpa using hp)]

/-- The root is a directory. -/
theorem ne_nil_of_ne_directory (hd : t.node? place ≠ some .directory) : place ≠ [] := by
  rintro rfl
  exact hd rfl

theorem ne_directory_of_free (hfree : t.node? place = none) : t.node? place ≠ some .directory := by
  rw [hfree]
  exact nofun

theorem ne_nil_of_free (hfree : t.node? place = none) : place ≠ [] :=
  ne_nil_of_ne_directory (ne_directory_of_free hfree)

theorem lookup_nodes_drop (t : FileTree) (names place : List String) :
    (t.drop names).nodes.lookup place = if place = names then none else t.nodes.lookup place := by
  rw [drop]
  induction t.nodes with
  | nil => simp
  | cons e es ih =>
    rw [List.filter_cons, List.lookup_cons]
    by_cases he : e.1 = names
    · rw [if_neg (by simp [he]), ih]
      by_cases hpn : place = names
      · rw [if_pos hpn, if_pos hpn]
      · rw [if_neg hpn, if_neg hpn, he, beq_eq_false_iff_ne.mpr hpn]
    · rw [if_pos (by simp [he]), List.lookup_cons, ih]
      by_cases hpe : place = e.1
      · subst hpe
        simp [he]
      · simp [beq_eq_false_iff_ne.mpr hpe]

theorem node?_put (t : FileTree) (names : List String) (node : Node) (hp : place ≠ []) :
    (t.put names node).node? place = if place = names then some node else t.node? place := by
  rw [node?_eq_lookup hp, node?_eq_lookup hp, put, List.lookup_append, lookup_nodes_drop]
  by_cases hpn : place = names
  · subst hpn
    simp
  · simp [List.lookup_cons, hpn, beq_eq_false_iff_ne.mpr hpn]

theorem node?_put_self (t : FileTree) (node : Node) (hne : names ≠ []) :
    (t.put names node).node? names = some node := by
  rw [node?_put t names node hne, if_pos rfl]

theorem node?_put_ne (t : FileTree) (node : Node) (h : place ≠ names) :
    (t.put names node).node? place = t.node? place := by
  by_cases hp : place = []
  · subst hp
    rfl
  · rw [node?_put t names node hp, if_neg h]

/-- A name that a directory can hold something under. -/
structure IsEntryName (name : String) : Prop where
  nonempty : name ≠ ""
  notHere : name ≠ "."
  notAbove : name ≠ ".."
  short : name.utf8ByteSize ≤ 255

theorem enter_eq_ok_iff {name : String} :
    t.enter start name = .ok place ↔ t.node? start = some .directory ∧
      (((name = "" ∨ name = ".") ∧ place = start) ∨
        (name = ".." ∧ place = start.dropLast) ∨
          (IsEntryName name ∧ (t.node? (start ++ [name])).isSome = true ∧
            place = start ++ [name])) := by
  rw [enter]
  by_cases hdir : t.node? start = some .directory
  · rw [if_neg (by simp [hdir])]
    by_cases hhere : name = "" ∨ name = "."
    · have hup : name ≠ ".." := by rcases hhere with rfl | rfl <;> decide
      have hno : ¬ IsEntryName name := fun h => hhere.elim h.nonempty h.notHere
      rw [if_pos hhere]
      simp only [Except.ok.injEq, hdir, hhere, hup, hno, true_and, false_and, or_false]
      exact eq_comm
    · rw [if_neg hhere]
      obtain ⟨hempty, hdot⟩ := not_or.mp hhere
      by_cases hup : name = ".."
      · have hno : ¬ IsEntryName name := fun h => h.notAbove hup
        subst hup
        simp only [Except.ok.injEq, hdir, hhere, hno, if_true, true_and, false_and, false_or,
          or_false]
        exact eq_comm
      · rw [if_neg hup]
        by_cases hlen : 255 < name.utf8ByteSize
        · have hno : ¬ IsEntryName name := fun h => absurd h.short (Nat.not_le.mpr hlen)
          simp only [hlen, hhere, hup, hno, if_true, reduceCtorEq, false_and, or_self, and_false]
        · have hname : IsEntryName name := ⟨hempty, hdot, hup, Nat.not_lt.mp hlen⟩
          rw [if_neg hlen]
          by_cases hsome : (t.node? (start ++ [name])).isSome = true
          · simp only [hsome, hdir, hhere, hup, hname, if_true, Except.ok.injEq, false_and,
              false_or, true_and]
            exact eq_comm
          · simp [hhere, hup, hsome]
  · simp [hdir]

theorem walk_cons (t : FileTree) (start : List String) (name : String) (names : List String) :
    t.walk start (name :: names) = t.enter start name >>= fun place => t.walk place names := rfl

theorem walk_append (t : FileTree) (start above names : List String) :
    t.walk start (above ++ names) = t.walk start above >>= fun place => t.walk place names := by
  induction above generalizing start with
  | nil => rfl
  | cons name above ih =>
    rw [List.cons_append, walk_cons, walk_cons]
    cases t.enter start name with
    | error e => rfl
    | ok place => exact ih place

/-- A tree with all the directories of another one. -/
def Keeps (t u : FileTree) : Prop :=
  ∀ place, t.node? place = some .directory → u.node? place = some .directory

/-- A walk goes the same way where all directories are kept, unless the place at its end is lost. -/
theorem walk_of_keeps_unless (hk : t.Keeps u) (hw : t.walk start names = .ok place)
    (hp : (t.node? place).isSome = true → (u.node? place).isSome = true) :
    u.walk start names = .ok place := by
  induction names generalizing start with
  | nil => exact hw
  | cons name names ih =>
    obtain ⟨next, hnext, hrest⟩ := bind_eq_ok_iff.mp hw
    obtain ⟨hstart, hcases⟩ := enter_eq_ok_iff.mp hnext
    have hsome : (t.node? next).isSome = true → (u.node? next).isSome = true := by
      cases names with
      | nil =>
        cases hrest
        exact hp
      | cons m names =>
        -- the walk goes on from here, so this is a directory
        obtain ⟨_, hm, -⟩ := bind_eq_ok_iff.mp hrest
        rw [hk _ (enter_eq_ok_iff.mp hm).1]
        exact fun _ => rfl
    refine bind_eq_ok_iff.mpr ⟨next, enter_eq_ok_iff.mpr ⟨hk _ hstart, ?_⟩, ih hrest⟩
    rcases hcases with h | h | ⟨hname, hthere, rfl⟩
    · exact Or.inl h
    · exact Or.inr (Or.inl h)
    · exact Or.inr (Or.inr ⟨hname, hsome hthere, rfl⟩)

/-- A walk goes the same way where all directories are kept, if there is something at its end. -/
theorem walk_of_keeps (hk : t.Keeps u) (hw : t.walk start names = .ok place)
    (hp : (u.node? place).isSome = true) : u.walk start names = .ok place :=
  walk_of_keeps_unless hk hw fun _ => hp

theorem resolve_of_keeps_unless {path : Path} (hk : t.Keeps u) (hhome : u.home = t.home)
    (hr : t.resolve path = .ok place)
    (hp : (t.node? place).isSome = true → (u.node? place).isSome = true) :
    u.resolve path = .ok place := by
  rw [resolve] at hr ⊢
  obtain ⟨⟨⟩, hadm, hw⟩ := bind_eq_ok_iff.mp hr
  have hstart : u.start path = t.start path := by rw [FileTree.start, FileTree.start, hhome]
  rw [hadm, hstart]
  exact walk_of_keeps_unless hk hw hp

theorem resolve_of_keeps {path : Path} (hk : t.Keeps u) (hhome : u.home = t.home)
    (hr : t.resolve path = .ok place) (hp : (u.node? place).isSome = true) :
    u.resolve path = .ok place :=
  resolve_of_keeps_unless hk hhome hr fun _ => hp

end FileTree
end MetadataAudit
