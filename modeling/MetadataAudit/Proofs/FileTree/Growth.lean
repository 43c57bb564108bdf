import MetadataAudit.Proofs.FileTree.Write

/-! # Directories that are made

Directories are made one below the other, and those that were made stay when a later one fails.  Either
way the tree has grown by directories to which the paths lead that were to be made, and nothing else has
changed (`Grows`).  That is so for one directory (`grows_makeDirectory`), and hence for a path with all
that lead to it (`grows_makeLineage`).  Where a path leads to a directory none is made
(`makeDirectory_of_resolve`, `makeLineage_of_exists`).
-/
namespace MetadataAudit

/-- A path is the parent of another one, or the parent of that, and so on. -/
def Path.IsAbove (d p : Path) : Prop :=
  Relation.TransGen (fun p d => Path.parent? p = some d) p d

theorem Path.isAbove_of_mem_go {n : Nat} {d p q : Path} (hq : p.parent? = some q)
    (h : d ∈ Path.lineage.go n q) : IsAbove d p := by
  induction n generalizing p q with
  | zero => cases h
  | succ n ih =>
    rw [lineage.go] at h
    split at h
    · cases h
    · rcases List.mem_cons.mp h with rfl | h
      · exact .single hq
      · split at h
        · rename_i next hnext
          exact .trans (.single hq) (ih hnext h)
        · cases h

/-- The lineage of a parent stands above the path. -/
theorem Path.isAbove_of_mem_lineage {d p : Path} (h : d ∈ lineage (p.parent?.getD "")) :
    IsAbove d p := by
  cases hp : p.parent? with
  | none =>
    rw [hp] at h
    cases h
  | some q =>
    rw [hp] at h
    exact isAbove_of_mem_go hp h

namespace FileTree

variable {t u v : FileTree} {path : Path} {place names target : List String} {node : Node}
  {content : Bytes} {paths : Path → Prop} {but : List (List String)}

/-- What one tree has become of another one when nothing but directories was made, at places to which
some paths lead, apart from the files under the names in `but`. -/
structure Grows (t u : FileTree) (paths : Path → Prop) (but : List (List String) := []) : Prop where
  home : u.home = t.home
  files : ∀ names, names ∉ but → ∀ content,
    u.node? names = some (.file content) ↔ t.node? names = some (.file content)
  kept : t.Keeps u
  made : ∀ names, u.node? names = some .directory →
    t.node? names = some .directory ∨ ∃ p, paths p ∧ u.resolve p = .ok names

namespace Grows

theorem refl (t : FileTree) (paths : Path → Prop) : t.Grows t paths where
  home := rfl
  files _ _ _ := Iff.rfl
  kept _ h := h
  made _ h := Or.inl h

theorem trans {but' : List (List String)} (h : t.Grows u paths but) (h' : u.Grows v paths but') :
    t.Grows v paths (but ++ but') where
  home := h'.home.trans h.home
  files names hnot content := by
    rw [List.mem_append, not_or] at hnot
    exact (h'.files names hnot.2 content).trans (h.files names hnot.1 content)
  kept place hd := h'.kept place (h.kept place hd)
  made names hd := by
    rcases h'.made names hd with hu | hp
    · rcases h.made names hu with ht | ⟨p, hp, hr⟩
      · exact Or.inl ht
      · -- what led to the directory when it was made leads to it still
        exact Or.inr ⟨p, hp, resolve_of_keeps h'.kept h'.home hr (by rw [hd]; rfl)⟩
    · exact Or.inr hp

theorem mono {paths' : Path → Prop} (h : t.Grows u paths but) (hp : ∀ p, paths p → paths' p) :
    t.Grows u paths' but where
  home := h.home
  files := h.files
  kept := h.kept
  made names hd := (h.made names hd).imp_right fun ⟨p, hpaths, hr⟩ => ⟨p, hp p hpaths, hr⟩

/-- A tree that has grown spares what was there. -/
theorem spares (h : t.Grows u paths [names]) : t.Spares u names where
  home := h.home
  node {place node} hp hn := by
    cases node with
    | file content => exact (h.files place (by simpa using hp) content).mpr hn
    | directory => exact h.kept place hn

/-- A file that is put where no directory is changes nothing else. -/
theorem put (hd : t.node? target ≠ some .directory) (content : Bytes) (paths : Path → Prop) :
    t.Grows (t.put target (.file content)) paths [target] where
  home := rfl
  files names hnot content' := by
    rw [node?_put_ne t _ (by simpa using hnot)]
  kept := (Spares.put t target _).keeps hd
  made names hdir := by
    by_cases hn : names = target
    · subst hn
      have hne := ne_nil_of_ne_directory hd
      rw [node?_put_self t _ hne] at hdir
      cases hdir
    · rw [node?_put_ne t _ hn] at hdir
      exact Or.inl hdir

end Grows

/-! ### Making directories -/

theorem exists_dropTrailing_append (names : List String) :
    ∃ k, names = dropTrailing names ++ List.replicate k "" := by
  have hall : ∀ n ∈ names.reverse.takeWhile fun n => decide (n = ""), n = "" := fun n hn =>
    of_decide_eq_true (List.all_eq_true.mp List.all_takeWhile n hn)
  have hsplit := congrArg List.reverse
    (List.takeWhile_append_dropWhile (p := fun n => decide (n = "")) (l := names.reverse))
  rw [List.eq_replicate_of_mem hall, List.reverse_append, List.reverse_replicate,
    List.reverse_reverse] at hsplit
  exact ⟨_, hsplit.symm⟩

/-- What slashes leave at the end of a path leads nowhere. -/
theorem walk_replicate_empty (hd : t.node? place = some .directory) (k : Nat) :
    t.walk place (List.replicate k "") = .ok place := by
  induction k with
  | zero => rfl
  | succ k ih =>
    have henter : t.enter place "" = .ok place :=
      enter_eq_ok_iff.mpr ⟨hd, Or.inl ⟨Or.inl rfl, rfl⟩⟩
    rw [List.replicate_succ, walk_cons, henter]
    exact ih

/-- A path leads to the entry that its last name has got in the directory of the names before it. -/
theorem resolve_of_enclosed {above : List String} {name : String}
    (hadm : admissible path = .ok ()) (hnames : dropTrailing path.names = above ++ [name])
    (hwalk : t.walk (t.start path) above = .ok place) (hdir : t.node? place = some .directory)
    (hname : IsEntryName name) (hk : t.Keeps u) (hhome : u.home = t.home)
    (hnew : u.node? (place ++ [name]) = some .directory) :
    u.resolve path = .ok (place ++ [name]) := by
  obtain ⟨k, hsplit⟩ := exists_dropTrailing_append path.names
  have hplace : u.node? place = some .directory := hk place hdir
  have habove : u.walk (t.start path) above = .ok place :=
    walk_of_keeps hk hwalk (by rw [hplace]; rfl)
  have hlast : u.enter place name = .ok (place ++ [name]) :=
    enter_eq_ok_iff.mpr ⟨hplace, Or.inr (Or.inr ⟨hname, by rw [hnew]; rfl, rfl⟩)⟩
  have hstart : u.start path = t.start path := by rw [start, start, hhome]
  rw [resolve, hadm, hsplit, hnames, List.append_assoc, hstart]
  refine bind_eq_ok_iff.mpr ⟨(), rfl, ?_⟩
  rw [walk_append, habove]
  refine bind_eq_ok_iff.mpr ⟨place, rfl, ?_⟩
  rw [List.singleton_append, walk_cons, hlast]
  exact walk_replicate_empty hnew k

/-- A directory is made where nothing was, and its path leads to it then. -/
theorem makeDirectory_eq_ok (h : t.makeDirectory path = .ok u) :
    ∃ place, t.node? place = none ∧ u = t.put place .directory ∧ u.resolve path = .ok place := by
  rw [makeDirectory] at h
  obtain ⟨⟨⟩, hadm, h⟩ := bind_eq_ok_iff.mp h
  split at h
  · cases h
  · rename_i above name hsplit
    obtain ⟨place, henc, h⟩ := bind_eq_ok_iff.mp h
    obtain ⟨hwalk, hdir⟩ := enclosing_eq_ok_iff.mp henc
    dsimp only at h
    by_cases hname : name = "." ∨ name = ".."
    · rw [if_pos hname] at h
      cases h
    · rw [if_neg hname] at h
      by_cases hlen : 255 < name.utf8ByteSize
      · rw [if_pos hlen] at h
        cases h
      · rw [if_neg hlen] at h
        by_cases hnode : (t.node? (place ++ [name])).isSome = true
        · rw [if_pos hnode] at h
          cases h
        · rw [if_neg hnode] at h
          cases h
          have hfree := Option.not_isSome_iff_eq_none.mp hnode
          have hnames := splitLast?_eq_some_iff.mp hsplit
          have hentry : IsEntryName name :=
            ⟨last_ne_empty hnames, (not_or.mp hname).1, (not_or.mp hname).2, Nat.not_lt.mp hlen⟩
          have hnew : (t.put (place ++ [name]) .directory).node? (place ++ [name]) =
              some .directory := node?_put_self t .directory (by simp)
          exact ⟨_, hfree, rfl, resolve_of_enclosed hadm hnames hwalk hdir hentry
            (keeps_put_new hfree _) rfl hnew⟩

/-- A directory that is made is all that is new. -/
theorem grows_makeDirectory (h : t.makeDirectory path = .ok u) : t.Grows u (· = path) := by
  obtain ⟨place, hnew, rfl, hresolve⟩ := makeDirectory_eq_ok h
  have hne := ne_nil_of_free hnew
  refine ⟨rfl, fun names _ content => ?_, keeps_put_new hnew _, fun names hd => ?_⟩
  · by_cases hn : names = place
    · subst hn
      rw [node?_put_self t _ hne, hnew]
      simp
    · rw [node?_put_ne t _ hn]
  · by_cases hn : names = place
    · exact Or.inr ⟨path, rfl, hn ▸ hresolve⟩
    · rw [node?_put_ne t _ hn] at hd
      exact Or.inl hd

/-- Whether or not all directories of a list come to be made, they are all that is new. -/
theorem grows_makeLineage {make : FileTree → Path → Except OsError FileTree}
    (hmake : ∀ t p u, make t p = .ok u → t.Grows u (· = p)) (t : FileTree) (ps : List Path) :
    t.Grows (t.makeLineage make ps).2 (· ∈ ps) := by
  induction ps with
  | nil => exact Grows.refl t _
  | cons p above ih =>
    have hfirst {v w : FileTree} (h : make v p = .ok w) : v.Grows w (· ∈ p :: above) :=
      (hmake v p w h).mono fun _ hq => hq ▸ List.mem_cons_self
    have hrest : t.Grows (t.makeLineage make above).2 (· ∈ p :: above) :=
      ih.mono fun _ hq => List.mem_cons_of_mem p hq
    -- a directory is made at once, or after those above it, or not at all
    rw [makeLineage]
    split
    · rename_i u hmade
      exact hfirst hmade
    · split
      · rename_i u habove
        rw [habove] at hrest
        exact hrest
      · rename_i u habove
        rw [habove] at hrest
        split
        · rename_i v hmade
          exact hrest.trans (hfirst hmade)
        · split <;> exact hrest
    · split <;> exact Grows.refl t _

/-! ### Directories that are there -/

/-- No directory is made where a path leads to something. -/
theorem makeDirectory_of_resolve (h : t.resolve path = .ok place) :
    t.makeDirectory path = .error .alreadyExists := by
  rw [resolve] at h
  obtain ⟨⟨⟩, hadm, hwalk⟩ := bind_eq_ok_iff.mp h
  rw [makeDirectory, hadm]
  cases hsplit : splitLast? (dropTrailing path.names) with
  | none => rfl
  | some split =>
    obtain ⟨above, name⟩ := split
    have hnames := splitLast?_eq_some_iff.mp hsplit
    obtain ⟨k, htrailing⟩ := exists_dropTrailing_append path.names
    -- the path leads on through its last name
    rw [htrailing, hnames, List.append_assoc, walk_append] at hwalk
    obtain ⟨above', habove, hrest⟩ := bind_eq_ok_iff.mp hwalk
    obtain ⟨there, hlast, -⟩ := bind_eq_ok_iff.mp hrest
    obtain ⟨hdir, hcases⟩ := enter_eq_ok_iff.mp hlast
    have henc : t.enclosing path above = .ok above' := enclosing_eq_ok_iff.mpr ⟨habove, hdir⟩
    dsimp only
    rw [henc]
    change (if name = "." ∨ name = ".." then _ else _) = _
    by_cases hname : name = "." ∨ name = ".."
    · rw [if_pos hname]
      rfl
    · rw [if_neg hname]
      rcases hcases with ⟨hhere, -⟩ | ⟨hup, -⟩ | ⟨hentry, hsome, -⟩
      · exact absurd (hhere.resolve_right fun h => hname (Or.inl h)) (last_ne_empty hnames)
      · exact absurd (Or.inr hup) hname
      · rw [if_neg (Nat.not_lt.mpr hentry.short), if_pos hsome]
        rfl

/-- Nothing is made where all of it is there. -/
theorem makeLineage_of_exists {make : FileTree → Path → Except OsError FileTree} {p : Path}
    (hmake : make t p = .error .alreadyExists) (hd : t.isDirectory p = true) (above : List Path) :
    t.makeLineage make (p :: above) = (.ok (), t) := by
  rw [makeLineage, hmake]
  exact if_pos hd

end FileTree
end MetadataAudit
