import MetadataAudit.Proofs.FileTree.Growth

/-! # Stores written to their files

A write makes directories, creates a temporary file, fills it and moves it to its place, and the device
may refuse any of these steps.  The temporary file is under a name that was free, so the tree is the one
of before when it is dropped (`drop_put_new`), and it leaves nothing but the content at its place when it
is moved (`deliver_eq_ok`).  What else is new are directories above the path, whether or not the write
came to its end (`writeOn_cases`).  It does where the tree has room for the file and nothing is refused
(`writeOn_of_offers`).
-/
namespace MetadataAudit
namespace FileTree

variable {t u : FileTree} {path : Path} {place names target : List String} {node : Node}
  {content : Bytes}

/-! ### Temporary files -/

theorem drop_of_free (hfree : t.node? names = none) : t.drop names = t := by
  have hne := ne_nil_of_free hfree
  rw [node?_eq_lookup hne, List.lookup_eq_none_iff] at hfree
  rw [drop, List.filter_eq_self.mpr fun e he => ?_]
  exact bne_iff_ne.mpr fun heq => by simpa [heq] using hfree e he

theorem drop_put (t : FileTree) (names : List String) (node : Node) :
    (t.put names node).drop names = t.drop names := by
  simp [put, drop]

/-- A node under a name that was free is dropped again without a trace. -/
theorem drop_put_new (hfree : t.node? names = none) (node : Node) :
    (t.put names node).drop names = t := by
  rw [drop_put, drop_of_free hfree]

theorem put_put (t : FileTree) (names : List String) (node other : Node) :
    (t.put names node).put names other = t.put names other := by
  rw [put, drop_put]
  rfl

theorem node?_of_freeName? {n : Nat} {name : String} (h : t.freeName? place n = some name) :
    t.node? (place ++ [name]) = none := by
  induction n with
  | zero => cases h
  | succ n ih =>
    rw [freeName?] at h
    split at h
    · rename_i hfree
      cases h
      exact Option.isNone_iff_eq_none.mp hfree
    · exact ih h

theorem stage_eq_ok (h : t.stage path content = .ok (u, names)) :
    t.node? names = none ∧ u = t.put names (.file content) := by
  rw [stage] at h
  obtain ⟨⟨⟩, -, h⟩ := bind_eq_ok_iff.mp h
  dsimp only at h
  by_cases hlen : 4095 < path.utf8ByteSize + 1 + temporaryLength
  · rw [if_pos hlen] at h
    cases h
  · rw [if_neg hlen] at h
    obtain ⟨place, -, h⟩ := bind_eq_ok_iff.mp h
    by_cases hdir : t.node? place ≠ some .directory
    · rw [if_pos hdir] at h
      cases h
    · rw [if_neg hdir] at h
      cases hfree : t.freeName? place attempts with
      | none =>
        rw [hfree] at h
        cases h
      | some name =>
        rw [hfree] at h
        cases h
        exact ⟨node?_of_freeName? hfree, rfl⟩

theorem move_eq_ok (h : t.move names path = .ok u) :
    ∃ target node, t.fileTarget path = .ok target ∧ t.node? names = some node ∧
      u = (t.drop names).put target node := by
  rw [move] at h
  obtain ⟨target, htarget, h⟩ := bind_eq_ok_iff.mp h
  split at h
  · rename_i node hnode
    cases h
    exact ⟨target, node, htarget, hnode, rfl⟩
  · cases h

/-- A file that was under a free name is moved to where the path leads then, and nothing else differs
from the tree that it was put into. -/
theorem move_put_eq_ok (hfree : t.node? names = none)
    (h : (t.put names (.file content)).move names path = .ok u) :
    ∃ target, t.node? target ≠ some .directory ∧ u = t.put target (.file content) ∧
      u.resolve path = .ok target := by
  obtain ⟨target, node, htarget, hnode, rfl⟩ := move_eq_ok h
  have hne := ne_nil_of_free hfree
  rw [node?_put_self t _ hne] at hnode
  cases hnode
  -- the directories are the same with the temporary file as without it
  have hdirs : (t.put names (.file content)).Keeps t := by
    intro place hd
    have hother : place ≠ names := by
      rintro rfl
      rw [node?_put_self t _ hne] at hd
      cases hd
    rwa [node?_put_ne t _ hother] at hd
  have hplace : t.node? target ≠ some .directory := fun hd =>
    node?_target_ne_directory htarget (keeps_put_new hfree _ target hd)
  rw [drop_put_new hfree]
  refine ⟨target, hplace, rfl, resolve_of_fileTarget htarget ?_ rfl ?_⟩
  · exact fun place hd => (Spares.put t target _).keeps hplace place (hdirs place hd)
  · rw [node?_put_self t _ (target_ne_nil htarget)]
    rfl

/-! ### Trees with room for a file -/

theorem exists_freeName? {n m : Nat} (hn : n < m)
    (hfree : t.node? (place ++ [temporaryName n]) = none) :
    ∃ name, t.freeName? place m = some name := by
  induction m with
  | zero => cases hn
  | succ m ih =>
    rw [freeName?]
    split
    · exact ⟨_, rfl⟩
    · rename_i htaken
      have hne : n ≠ m := by
        rintro rfl
        exact htaken (Option.isNone_iff_eq_none.mpr hfree)
      exact ih (Nat.lt_of_le_of_ne (Nat.le_of_lt_succ hn) hne)

/-- What a file of this path needs to be written through a temporary file. -/
structure Offers (t : FileTree) (path : Path) (place target : List String) : Prop where
  resolve : t.resolve path.directory = .ok place
  directory : t.node? place = some .directory
  target : t.fileTarget path = .ok target
  short : path.directory.utf8ByteSize + 1 + temporaryLength ≤ 4095
  free : ∃ n < attempts, t.node? (place ++ [temporaryName n]) = none

theorem Offers.isDirectory (h : t.Offers path place target) :
    t.isDirectory path.directory = true := by
  have hfind : t.find path.directory = .ok .directory := by
    rw [find, h.resolve]
    simp only [bind, Except.bind, h.directory]
    rfl
  rw [FileTree.isDirectory, hfind]

theorem Offers.stage_eq_ok (h : t.Offers path place target) (content : Bytes) :
    ∃ names, t.stage path.directory content = .ok (t.put names (.file content), names) := by
  obtain ⟨n, hn, hfree⟩ := h.free
  obtain ⟨name, hname⟩ := exists_freeName? hn hfree
  have hresolve := h.resolve
  rw [FileTree.resolve] at hresolve
  obtain ⟨⟨⟩, hadm, -⟩ := bind_eq_ok_iff.mp hresolve
  refine ⟨place ++ [name], ?_⟩
  rw [stage, hadm]
  change (if 4095 < path.directory.utf8ByteSize + 1 + temporaryLength then _ else _) = _
  rw [if_neg (Nat.not_lt.mpr h.short), h.resolve]
  change (if t.node? place ≠ some .directory then _ else _) = _
  rw [if_neg fun hne => hne h.directory, hname]
  rfl

/-- A file under a free name can be moved to where the path leads. -/
theorem move_put_of_fileTarget (hfree : t.node? names = none) (h : t.fileTarget path = .ok target) :
    (t.put names (.file content)).move names path = .ok (t.put target (.file content)) := by
  have hne := ne_nil_of_free hfree
  have hplace : (t.put names (.file content)).node? target ≠ some .directory := by
    by_cases heq : target = names
    · rw [heq, node?_put_self t _ hne]
      simp
    · rw [node?_put_ne t _ heq]
      exact node?_target_ne_directory h
  rw [move, fileTarget_of_keeps h (keeps_put_new hfree _) rfl hplace]
  simp only [bind, Except.bind, node?_put_self t _ hne]
  rw [drop_put_new hfree]
  rfl

end FileTree

/-! ### Devices -/

namespace Device

variable {d : Device} {t u : FileTree} {path : Path} {names : List String} {content : Bytes}

theorem grant_eq_ok {α : Type} {step : DeviceStep} {a b : α} (h : d.grant t step a = .ok b) :
    a = b := by
  rw [grant] at h
  split at h
  · cases h
  · exact Except.ok.inj h

theorem grows_makeDirectory (h : d.makeDirectory t path = .ok u) : t.Grows u (· = path) := by
  obtain ⟨v, hv, h⟩ := bind_eq_ok_iff.mp h
  exact FileTree.grows_makeDirectory (grant_eq_ok h ▸ hv)

theorem createTemporary_eq_ok (h : d.createTemporary t path = .ok (u, names)) :
    t.node? names = none ∧ u = t.put names (.file []) := by
  obtain ⟨v, hv, h⟩ := bind_eq_ok_iff.mp (mapError_eq_ok_iff.mp h)
  exact FileTree.stage_eq_ok (grant_eq_ok h ▸ hv)

theorem writeContent_eq_ok (h : d.writeContent t names content = .ok u) :
    u = t.put names (.file content) :=
  (grant_eq_ok h).symm

theorem moveFile_eq_ok (h : d.moveFile t names path = .ok u) : t.move names path = .ok u := by
  obtain ⟨v, hv, h⟩ := bind_eq_ok_iff.mp h
  exact grant_eq_ok h ▸ hv

end Device

/-! ### Writes -/

namespace Store

open FileTree

variable {d : Device} {t u : FileTree} {path : Path} {temporary place target : List String}
  {text : String} {content : Bytes} {e : ProfileError}

theorem deliver_eq_ok (hfree : t.node? temporary = none)
    (h : deliver d (t.put temporary (.file [])) temporary path content = .ok u) :
    ∃ target, t.node? target ≠ some .directory ∧ u = t.put target (.file content) ∧
      u.resolve path = .ok target := by
  rw [deliver] at h
  obtain ⟨filled, hfilled, h⟩ := bind_eq_ok_iff.mp h
  obtain ⟨⟨⟩, -, hmoved⟩ := bind_eq_ok_iff.mp h
  have hcontent := Device.writeContent_eq_ok (mapError_eq_ok_iff.mp hfilled)
  rw [put_put] at hcontent
  rw [hcontent] at hmoved
  exact move_put_eq_ok hfree (Device.moveFile_eq_ok (mapError_eq_ok_iff.mp hmoved))

theorem deliver_ne (d : Device) (t : FileTree) (temporary : List String) (path : Path)
    (content : Bytes) : deliver d t temporary path content ≠ .error .pathNotConfigured := by
  intro h
  rw [deliver] at h
  -- each step has an error of its own
  rcases bind_eq_error_iff.mp h with h | ⟨filled, -, h⟩
  · obtain ⟨e, -, he⟩ := mapError_eq_error_iff.mp h
    cases he
  · rcases bind_eq_error_iff.mp h with h | ⟨_, -, h⟩
    · obtain ⟨e, -, he⟩ := mapError_eq_error_iff.mp h
      cases he
    · obtain ⟨e, -, he⟩ := mapError_eq_error_iff.mp h
      cases he

theorem grows_makeParents (d : Device) (t : FileTree) (path : Path) :
    t.Grows (t.makeLineage d.makeDirectory (Path.lineage (path.parent?.getD ""))).2
      (Path.IsAbove · path) :=
  (grows_makeLineage (fun _ _ _ => Device.grows_makeDirectory) t _).mono fun _ =>
    Path.isAbove_of_mem_lineage

/-- **How a write goes.**  It makes directories, and if it fails then that is all; otherwise it puts the
text where the path leads then. -/
theorem writeOn_cases (d : Device) (t : FileTree) (path : Path) (text : String) :
    ∃ made, t.Grows made (Path.IsAbove · path) ∧
      ((∃ e, e ≠ .pathNotConfigured ∧ writeOn d t path text = (.error e, made)) ∨
        ∃ target, made.node? target ≠ some .directory ∧
          (made.put target (.file (Utf8.encode text))).resolve path = .ok target ∧
          writeOn d t path text = (.ok (), made.put target (.file (Utf8.encode text)))) := by
  have hmade := grows_makeParents d t path
  rw [writeOn]
  cases hlineage : t.makeLineage d.makeDirectory (Path.lineage (path.parent?.getD "")) with
  | mk result made =>
    rw [hlineage] at hmade
    refine ⟨made, hmade, ?_⟩
    cases result with
    | error e => exact Or.inl ⟨.file .createDirectory (path.parent?.getD "") e, nofun, rfl⟩
    | ok =>
      dsimp only
      cases hstaged : d.createTemporary made path.directory with
      | error e => exact Or.inl ⟨.file .createTemporary path.directory e, nofun, rfl⟩
      | ok staged =>
        obtain ⟨staged, temporary⟩ := staged
        obtain ⟨hfree, rfl⟩ := Device.createTemporary_eq_ok hstaged
        dsimp only
        cases hdelivered : deliver d (made.put temporary (.file [])) temporary path
            (Utf8.encode text) with
        | error e =>
          refine Or.inl ⟨e, ?_, ?_⟩
          · rintro rfl
            exact deliver_ne _ _ _ _ _ hdelivered
          · -- the temporary file is dropped again
            dsimp only
            rw [drop_put_new hfree]
        | ok moved =>
          obtain ⟨target, hplace, rfl, hresolve⟩ := deliver_eq_ok hfree hdelivered
          exact Or.inr ⟨target, hplace, hresolve, rfl⟩

theorem writeOn_ne (d : Device) (t : FileTree) (path : Path) (text : String) :
    (writeOn d t path text).1 ≠ .error .pathNotConfigured := by
  obtain ⟨made, -, ⟨e, hne, h⟩ | ⟨target, -, -, h⟩⟩ := writeOn_cases d t path text
  · rw [h]
    exact fun heq => hne (Except.error.inj heq)
  · rw [h]
    exact nofun

/-- A write that comes to its end has put the text under the path, and else made directories. -/
theorem writeOn_eq_ok (h : writeOn d t path text = (.ok (), u)) :
    ∃ target, u.Holds path target (Utf8.encode text) ∧
      t.Grows u (Path.IsAbove · path) [target] := by
  obtain ⟨made, hmade, ⟨e, -, hwrite⟩ | ⟨target, hplace, hresolve, hwrite⟩⟩ :=
    writeOn_cases d t path text
  · cases hwrite.symm.trans h
  · cases hwrite.symm.trans h
    have hne := ne_nil_of_ne_directory hplace
    exact ⟨target, ⟨hresolve, node?_put_self made _ hne⟩, hmade.trans (Grows.put hplace _ _)⟩

/-- A write that fails has made directories. -/
theorem grows_of_writeOn_eq_error (h : writeOn d t path text = (.error e, u)) :
    t.Grows u (Path.IsAbove · path) := by
  obtain ⟨made, hmade, ⟨e', -, hwrite⟩ | ⟨target, -, -, hwrite⟩⟩ := writeOn_cases d t path text
  · cases hwrite.symm.trans h
    exact hmade
  · cases hwrite.symm.trans h

theorem makeParents_of_offers (h : t.Offers path place target) :
    t.makeLineage (Device.makeDirectory .sound) (Path.lineage (path.parent?.getD "")) =
      (.ok (), t) := by
  have hresolve := h.resolve
  have hd := h.isDirectory
  rw [Path.directory] at hresolve hd
  cases hparent : path.parent? with
  | none => rfl
  | some parent =>
    simp only [hparent] at hresolve hd
    by_cases hempty : parent.isEmpty = true
    · rw [Option.getD_some, Path.lineage, Path.lineage.go, if_pos hempty]
      rfl
    · rw [if_neg hempty] at hresolve hd
      rw [Option.getD_some, Path.lineage, Path.lineage.go, if_neg hempty]
      refine makeLineage_of_exists ?_ hd _
      rw [Device.makeDirectory, makeDirectory_of_resolve hresolve]
      rfl

/-- A file is written where the tree offers what it needs and nothing is refused. -/
theorem writeOn_of_offers (h : t.Offers path place target) (text : String) :
    writeOn .sound t path text = (.ok (), t.put target (.file (Utf8.encode text))) := by
  obtain ⟨temporary, hstage⟩ := h.stage_eq_ok []
  have hcreated : Device.createTemporary .sound t path.directory =
      .ok (t.put temporary (.file []), temporary) := by
    rw [Device.createTemporary, hstage]
    rfl
  have hdelivered : deliver .sound (t.put temporary (.file [])) temporary path
      (Utf8.encode text) = .ok (t.put target (.file (Utf8.encode text))) := by
    have hmoved : Device.moveFile .sound ((t.put temporary (.file [])).put temporary
        (.file (Utf8.encode text))) temporary path =
          .ok (t.put target (.file (Utf8.encode text))) := by
      rw [put_put, Device.moveFile, move_put_of_fileTarget (FileTree.stage_eq_ok hstage).1 h.target]
      rfl
    exact mapError_eq_ok_iff.mpr hmoved
  rw [writeOn, makeParents_of_offers h]
  dsimp only
  rw [hcreated]
  dsimp only
  rw [hdelivered]

/-- **A store is written to its file as a whole or not at all.**  Whatever the files are, and whichever
steps a device refuses, when a store has been written then the path of its file leads to exactly the text
of the store, and when it has not then every file is as it was and there is no new one.  All other files
are as they were in either case, and the directories that are new stand above the path.  A store is
written if the tree offers what its file needs and no step is refused. -/
theorem files_of_saveOn (s : Store) (d : Device) (t : FileTree) :
    (s.path = none → s.saveOn d t = (.error .pathNotConfigured, t)) ∧
    ∀ path, s.path = some path →
      (∀ u, s.saveOn d t = (.ok (), u) → ∃ target,
        u.Holds path target (Utf8.encode s.text) ∧ t.Grows u (Path.IsAbove · path) [target]) ∧
      (∀ e u, s.saveOn d t = (.error e, u) → t.Grows u (Path.IsAbove · path)) ∧
      ∀ place target, t.Offers path place target →
        s.save t = (.ok (), t.put target (.file (Utf8.encode s.text))) := by
  constructor
  · intro hpath
    rw [saveOn, hpath]
  · intro path hpath
    refine ⟨?_, ?_, ?_⟩
    · intro u h
      rw [saveOn, hpath] at h
      exact writeOn_eq_ok h
    · intro e u h
      rw [saveOn, hpath] at h
      exact grows_of_writeOn_eq_error h
    · intro place target h
      rw [save, saveOn, hpath]
      exact writeOn_of_offers h s.text

/-- A write to a directory that has to be made, where nothing is refused and on a full device, and one to
the current directory. -/
theorem files_of_saveOn_new_directory :
    let full : Device := fun _ step => match step with
      | .writeContent _ => some .noSpace
      | _ => none
    let s := empty (some "kept/store.json") .epoch
    (∃ u, s.saveOn .sound {} = (.ok (), u) ∧ ∃ target,
      u.Holds "kept/store.json" target (Utf8.encode s.text) ∧
        ({} : FileTree).Grows u (Path.IsAbove · "kept/store.json") [target]) ∧
    (∃ e u, s.saveOn full {} = (.error e, u) ∧ u.nodes = [(["kept"], .directory)] ∧
      ({} : FileTree).Grows u (Path.IsAbove · "kept/store.json")) ∧
    (empty (some "store.json") .epoch).save {} = (.ok (), ({} : FileTree).put ["store.json"]
      (.file (Utf8.encode (empty (some "store.json") .epoch).text))) := by
  intro full s
  have hsound : s.saveOn .sound {} = (.ok (), (s.saveOn .sound {}).2) := Prod.ext rfl rfl
  have hfull : s.saveOn full {} = (.error (.file .write "/kept/.tmp165535"
      (.atPath .noSpace "/kept/.tmp165535")), (s.saveOn full {}).2) := Prod.ext rfl rfl
  have hoffers : ({} : FileTree).Offers "store.json" [] ["store.json"] :=
    ⟨rfl, rfl, rfl, by decide, 0, by decide, rfl⟩
  exact ⟨⟨_, hsound, ((files_of_saveOn s .sound {}).2 _ rfl).1 _ hsound⟩,
    ⟨_, _, hfull, rfl, ((files_of_saveOn s full {}).2 _ rfl).2.1 _ _ hfull⟩,
    ((files_of_saveOn (empty (some "store.json") .epoch) .sound {}).2 _ rfl).2.2 _ _ hoffers⟩

end Store
end MetadataAudit
