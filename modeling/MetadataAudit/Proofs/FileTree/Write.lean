import MetadataAudit.Proofs.FileTree.Lookup
import MetadataAudit.Store.Persist

/-! # Files that were written

A path keeps its file under its last name, in the directory that the names before it lead to
(`fileTarget_eq_ok`), and the file is found there as long as all directories are kept
(`resolve_of_fileTarget`).  To extend a file keeps the directories, and so does to put a new one
(`keeps_extend`, `keeps_put_new`), so all paths lead where they led before (`Holds.of_keeps`).
-/
namespace MetadataAudit
namespace FileTree

variable {t u v : FileTree} {path : Path} {place names target : List String} {node : Node}
  {content : Bytes}

theorem splitLast?_eq_some_iff {above : List String} {name : String} :
    splitLast? names = some (above, name) ↔ names = above ++ [name] := by
  rw [splitLast?]
  constructor
  · intro h
    split at h
    · rename_i heq
      cases h
      rw [← List.reverse_reverse names, heq, List.reverse_cons]
    · cases h
  · rintro rfl
    simp

theorem last_ne_empty {above : List String} {name : String}
    (h : dropTrailing names = above ++ [name]) : name ≠ "" := by
  have hdrop : (names.reverse.dropWhile fun n => decide (n = "")) = name :: above.reverse := by
    rw [dropTrailing, List.reverse_eq_iff, List.reverse_append] at h
    exact h
  have hhead := List.head?_dropWhile_not (fun n => decide (n = "")) names.reverse
  rw [hdrop] at hhead
  simpa using hhead

theorem enclosing_eq_ok_iff {above : List String} :
    t.enclosing path above = .ok place ↔
      t.walk (t.start path) above = .ok place ∧ t.node? place = some .directory := by
  rw [enclosing, bind_eq_ok_iff]
  constructor
  · rintro ⟨place', hwalk, h⟩
    by_cases hdir : t.node? place' = some .directory
    · rw [if_pos hdir] at h
      cases h
      exact ⟨hwalk, hdir⟩
    · rw [if_neg hdir] at h
      cases h
  · rintro ⟨hwalk, hdir⟩
    exact ⟨place, hwalk, if_pos hdir⟩

/-- Where a path keeps its file: under its last name, in the directory that the names before it lead
to. -/
structure Placed (t : FileTree) (path : Path) (above : List String) (name : String)
    (place : List String) : Prop where
  admissible : admissible path = .ok ()
  names : path.names = above ++ [name]
  entry : IsEntryName name
  walk : t.walk (t.start path) above = .ok place
  directory : t.node? place = some .directory
  free : t.node? (place ++ [name]) ≠ some .directory

/-- The directory of a file is still reached where all directories are kept. -/
theorem Placed.reached_of_keeps {above : List String} {name : String}
    (h : t.Placed path above name place) (hk : t.Keeps u) (hhome : u.home = t.home) :
    u.walk (u.start path) above = .ok place ∧ u.node? place = some .directory := by
  have hdir : u.node? place = some .directory := hk _ h.directory
  have hstart : u.start path = t.start path := by rw [start, start, hhome]
  rw [hstart]
  exact ⟨walk_of_keeps hk h.walk (by rw [hdir]; rfl), hdir⟩

theorem fileTarget_eq_ok (h : t.fileTarget path = .ok target) :
    ∃ above name place, t.Placed path above name place ∧ target = place ++ [name] := by
  rw [fileTarget] at h
  obtain ⟨⟨⟩, hadm, h⟩ := bind_eq_ok_iff.mp h
  split at h
  · cases h
  · rename_i above name hsplit
    obtain ⟨place, henc, h⟩ := bind_eq_ok_iff.mp h
    obtain ⟨hwalk, hdir⟩ := enclosing_eq_ok_iff.mp henc
    dsimp only at h
    by_cases hname : dropTrailing path.names ≠ path.names ∨ name = "." ∨ name = ".."
    · rw [if_pos hname] at h
      cases h
    · rw [if_neg hname] at h
      by_cases hlen : 255 < name.utf8ByteSize
      · rw [if_pos hlen] at h
        cases h
      · rw [if_neg hlen] at h
        by_cases hnode : t.node? (place ++ [name]) = some .directory
        · rw [if_pos hnode] at h
          cases h
        · rw [if_neg hnode] at h
          cases h
          obtain ⟨hwhole, hnot⟩ := not_or.mp hname
          obtain ⟨hdot, hup⟩ := not_or.mp hnot
          have hnames := splitLast?_eq_some_iff.mp hsplit
          have hsame := Decidable.not_not.mp hwhole
          -- no slash stands at the end, so the last name is not empty
          have hempty : name ≠ "" := last_ne_empty hnames
          exact ⟨above, name, place, ⟨hadm, hsame ▸ hnames,
            ⟨hempty, hdot, hup, Nat.not_lt.mp hlen⟩, hwalk, hdir, hnode⟩, rfl⟩

theorem fileTarget_of_placed {above : List String} {name : String}
    (h : t.Placed path above name place) : t.fileTarget path = .ok (place ++ [name]) := by
  have hwhole : dropTrailing path.names = path.names := by
    rw [h.names, dropTrailing, List.reverse_append, List.reverse_singleton, List.singleton_append,
      List.dropWhile_cons_of_neg (by simpa using h.entry.nonempty), List.reverse_cons,
      List.reverse_reverse]
  have hsplit : splitLast? (dropTrailing path.names) = some (above, name) := by
    rw [hwhole, h.names]
    exact splitLast?_eq_some_iff.mpr rfl
  have hnot : ¬ (dropTrailing path.names ≠ path.names ∨ name = "." ∨ name = "..") := by
    simp [hwhole, h.entry.notHere, h.entry.notAbove]
  rw [fileTarget, h.admissible]
  refine bind_eq_ok_iff.mpr ⟨(), rfl, ?_⟩
  rw [hsplit]
  refine bind_eq_ok_iff.mpr ⟨place, enclosing_eq_ok_iff.mpr ⟨h.walk, h.directory⟩, ?_⟩
  rw [if_neg hnot, if_neg (Nat.not_lt.mpr h.entry.short), if_neg h.free]
  rfl

theorem target_ne_nil (h : t.fileTarget path = .ok target) : target ≠ [] := by
  obtain ⟨above, name, place, -, rfl⟩ := fileTarget_eq_ok h
  simp

theorem node?_target_ne_directory (h : t.fileTarget path = .ok target) :
    t.node? target ≠ some .directory := by
  obtain ⟨above, name, place, hplaced, rfl⟩ := fileTarget_eq_ok h
  exact hplaced.free

/-- A path leads to its file where the directories are kept and something is there. -/
theorem resolve_of_fileTarget (h : t.fileTarget path = .ok target) (hk : t.Keeps u)
    (hhome : u.home = t.home) (hn : (u.node? target).isSome = true) :
    u.resolve path = .ok target := by
  obtain ⟨above, name, place, hplaced, rfl⟩ := fileTarget_eq_ok h
  obtain ⟨hwalk, hdir⟩ := hplaced.reached_of_keeps hk hhome
  have hlast : u.walk place [name] = .ok (place ++ [name]) := by
    rw [walk_cons, enter_eq_ok_iff.mpr ⟨hdir, Or.inr (Or.inr ⟨hplaced.entry, hn, rfl⟩)⟩]
    rfl
  rw [resolve, hplaced.admissible, hplaced.names, walk_append, hwalk]
  exact hlast

/-- A path keeps its file at the same place as long as the directories are kept. -/
theorem fileTarget_of_keeps (h : t.fileTarget path = .ok target) (hk : t.Keeps u)
    (hhome : u.home = t.home) (hn : u.node? target ≠ some .directory) :
    u.fileTarget path = .ok target := by
  obtain ⟨above, name, place, hplaced, rfl⟩ := fileTarget_eq_ok h
  obtain ⟨hwalk, hdir⟩ := hplaced.reached_of_keeps hk hhome
  exact fileTarget_of_placed { hplaced with walk := hwalk, directory := hdir, free := hn }

/-- A path leads to a file with a content. -/
structure Holds (t : FileTree) (path : Path) (target : List String) (content : Bytes) : Prop where
  resolve : t.resolve path = .ok target
  node : t.node? target = some (.file content)

theorem Holds.read (h : t.Holds path target content) : t.read path = .ok content := by
  rw [FileTree.read, find, h.resolve]
  simp only [bind, Except.bind, h.node]
  rfl

/-! ### What stays -/

/-- All nodes of a tree, but perhaps the one under some names, are in the other one as well. -/
structure Spares (t u : FileTree) (names : List String) : Prop where
  home : u.home = t.home
  node {place : List String} {node : Node} (hp : place ≠ names) (hn : t.node? place = some node) :
    u.node? place = some node

namespace Spares

theorem keeps (h : t.Spares u names) (hn : t.node? names ≠ some .directory) : t.Keeps u := by
  intro place hd
  refine h.node ?_ hd
  rintro rfl
  exact hn hd

theorem put (t : FileTree) (names : List String) (node : Node) :
    t.Spares (t.put names node) names := by
  refine ⟨rfl, fun hp hn => ?_⟩
  rw [node?_put_ne t node hp]
  exact hn

end Spares

theorem keeps_put_new (hfree : t.node? names = none) (node : Node) : t.Keeps (t.put names node) :=
  (Spares.put t names node).keeps (ne_directory_of_free hfree)

/-! ### Extending files -/

theorem extend_eq_put (t : FileTree) (names : List String) (more : Bytes) :
    ∃ old, t.extend names more = t.put names (.file (old ++ more)) ∧
      ∀ content, t.node? names = some (.file content) → old = content := by
  rw [extend]
  split
  · rename_i old hold
    refine ⟨old, rfl, fun content h => ?_⟩
    rw [hold] at h
    cases h
    rfl
  · rename_i hno
    exact ⟨[], rfl, fun content h => absurd h (hno content)⟩

theorem node?_extend (t : FileTree) (more : Bytes) (hd : t.node? names ≠ some .directory) :
    ∃ content, (t.extend names more).node? names = some (.file content) := by
  have hne := ne_nil_of_ne_directory hd
  obtain ⟨old, hput, -⟩ := extend_eq_put t names more
  exact ⟨old ++ more, by rw [hput, node?_put_self t _ hne]⟩

theorem node?_extend_of_file (more : Bytes) (h : t.node? names = some (.file content)) :
    (t.extend names more).node? names = some (.file (content ++ more)) := by
  have hne : names ≠ [] := ne_nil_of_ne_directory (by rw [h]; exact nofun)
  obtain ⟨old, hput, hold⟩ := extend_eq_put t names more
  rw [hput, node?_put_self t _ hne, hold content h]

theorem node?_extend_ne (t : FileTree) (more : Bytes) (h : place ≠ names) :
    (t.extend names more).node? place = t.node? place := by
  obtain ⟨old, hput, -⟩ := extend_eq_put t names more
  rw [hput, node?_put_ne t _ h]

theorem keeps_extend (t : FileTree) (more : Bytes) (hd : t.node? names ≠ some .directory) :
    t.Keeps (t.extend names more) := by
  obtain ⟨old, hput, -⟩ := extend_eq_put t names more
  rw [hput]
  exact (Spares.put t names _).keeps hd

theorem home_extend (t : FileTree) (names : List String) (more : Bytes) :
    (t.extend names more).home = t.home := by
  obtain ⟨old, hput, -⟩ := extend_eq_put t names more
  rw [hput]
  rfl

/-- A path leads to its file as long as all directories are kept, whatever its content becomes. -/
theorem Holds.of_keeps {more : Bytes} (h : t.Holds path target content) (hk : t.Keeps u)
    (hhome : u.home = t.home) (hn : u.node? target = some (.file more)) :
    u.Holds path target more :=
  ⟨resolve_of_keeps hk hhome h.resolve (by rw [hn]; rfl), hn⟩

/-- A file that was added to is under its path. -/
theorem append_eq_ok {more : Bytes} (h : t.append path more = .ok u) :
    ∃ target, t.fileTarget path = .ok target ∧ t.node? target ≠ some .directory ∧
      u = t.extend target more ∧ u.resolve path = .ok target := by
  rw [append] at h
  obtain ⟨target, htarget, h⟩ := bind_eq_ok_iff.mp h
  cases h
  have hd := node?_target_ne_directory htarget
  obtain ⟨content, hnode⟩ := node?_extend t more hd
  refine ⟨target, htarget, hd, rfl, ?_⟩
  refine resolve_of_fileTarget htarget (keeps_extend t more hd) (home_extend t target more) ?_
  rw [hnode]
  rfl

end FileTree
end MetadataAudit
