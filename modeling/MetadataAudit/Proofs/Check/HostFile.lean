import MetadataAudit.Proofs.Check.Offer
import MetadataAudit.Proofs.FileTree.Place
import MetadataAudit.Proofs.Text.Span

/-! # Files below the host directory

The file of a file name lies where the names of the file name lead from the host directory, once the
mount point in front is dropped (`HostFile.ofPath_resolve`).  Slashes lead nowhere, wherever they stand,
but names may go up: the check looks for a file below the host directory exactly if the names that go
up are followed by those of the directories they left (`HostFile.inside_iff_returns`).
-/
namespace MetadataAudit
namespace HostFile

variable {ctx : Context} {memo : Memo} {profile value : String} {g : Grid} {l : Location}
  {hostDir : Path}

/-- The names of a file name, without the mount point that it may begin with. -/
def steps (value : String) : List String :=
  if mountPoint <+: value.toList then (Path.names value).tail else Path.names value

/-- Where a file name leads by itself. -/
def way (value : String) : Place := Place.here.walk (steps value)

/-! ## Where a file is looked for -/

theorem walk_dropWhile_slash (p : Place) (cs : List Char) :
    p.walk (Path.names (String.ofList (cs.dropWhile (· = '/')))) =
      p.walk (Path.names (String.ofList cs)) := by
  induction cs with
  | nil => rfl
  | cons c cs ih =>
    by_cases hslash : c = '/'
    · subst hslash
      have hnames : Path.names (String.ofList ('/' :: cs)) = "" :: Path.names (String.ofList cs) := by
        simp [Path.names, Text.split, Text.splitChars]
      rw [List.dropWhile_cons_of_pos (by decide), ih, hnames]
      exact (Place.walk_empty_cons p _).symm
    · rw [List.dropWhile_cons_of_neg (by simpa using hslash)]

/-- The mount point is the first name of a file name that begins with it. -/
theorem names_of_mountPoint {rest : List Char} (h : value.toList = mountPoint ++ rest) :
    Path.names value = "Masters" :: Path.names (String.ofList rest) := by
  have hmount : mountPoint = "Masters".toList ++ "/".toList := by decide
  have hvalue : value = "Masters" ++ "/" ++ String.ofList rest := by
    rw [← String.toList_inj, h, hmount, String.toList_append, String.toList_append,
      @String.toList_ofList rest]
  have hname : Path.names "Masters" = ["Masters"] := by decide
  rw [hvalue, Place.names_append, hname, List.singleton_append]

theorem walk_relative (p : Place) (value : String) :
    p.walk (Path.names (relative value)) = p.walk (steps value) := by
  rw [relative, walk_dropWhile_slash, steps]
  by_cases hmount : mountPoint <+: value.toList
  · obtain ⟨rest, hrest⟩ := hmount
    have hprefix : mountPoint <+: value.toList := ⟨rest, hrest⟩
    rw [if_pos (List.isPrefixOf_iff_prefix.mpr hprefix), if_pos hprefix,
      names_of_mountPoint hrest.symm, ← hrest, List.drop_left, List.tail_cons]
  · rw [if_neg (mt List.isPrefixOf_iff_prefix.mp hmount), if_neg hmount, String.ofList_toList]

theorem head_relative (value : String) : (relative value).toList.head? ≠ some '/' := by
  intro hhead
  rw [relative, String.toList_ofList] at hhead
  have hslash := Text.head_dropWhile_span (· = '/') _ _ hhead
  simp at hslash

/-- **A file is looked for where its file name leads from the host directory.** -/
theorem ofPath_resolve (hostDir : Path) (value : String) :
    Place.ofPath (resolve hostDir value) = (Place.ofPath hostDir).follow (way value) := by
  rw [resolve, Place.ofPath_join (head_relative value), walk_relative, Place.walk_eq_follow, way]

/-! ## What is accepted -/

/-- A file name is accepted if there is something where its file is looked for, and nowhere else is
looked. -/
theorem offer_of_fileName (hget : g.get? l = some value) (hrow : l.row ≠ 0)
    (hfield : g.headers[l.col]? = some "File Name") (hblank : Text.isBlank value = false)
    (hhost : ctx.hostDir = some hostDir) :
    ((Kind.hostFile.offer ctx memo ⟨profile, l, g⟩).1.violations = [] ↔
      ctx.fileExists (resolve hostDir value) = .ok true) ∧
    (Kind.hostFile.offer ctx memo ⟨profile, l, g⟩).1.looked = [resolve hostDir value] := by
  have hmem : "File Name" ∈ [Field.fileName] := List.mem_singleton_self _
  rw [Kind.offer, check, Check.onField_of_field hget hrow hfield hmem]
  simp only [hblank, Bool.false_eq_true, if_false, hhost]
  split
  · rename_i hfound
    simp [hfound]
  · rename_i hmissing
    simp [hmissing]
  · rename_i e herror
    simp [herror]

theorem mem_names_of_mem_steps {name : String} (h : name ∈ steps value) : name ∈ Path.names value := by
  rw [steps] at h
  split at h
  · exact List.mem_of_mem_tail h
  · exact h

/-- **File names and the host directory.**  A file name is accepted if there is something at its path,
and nowhere else is looked.  The path leads to the host directory or below it exactly if the way of the
file name returns to where it started, as it does if no name of it is `..`; what is accepted then stands
below the host directory in every file tree in which it was looked up. -/
theorem inside_iff_returns (hget : g.get? l = some value) (hrow : l.row ≠ 0)
    (hfield : g.headers[l.col]? = some "File Name") (hblank : Text.isBlank value = false)
    (hhost : ctx.hostDir = some hostDir) :
    let path := resolve hostDir value
    let outcome := (Kind.hostFile.offer ctx memo ⟨profile, l, g⟩).1
    (outcome.violations = [] ↔ ctx.fileExists path = .ok true) ∧ outcome.looked = [path] ∧
    ((Place.ofPath path).IsBelow (Place.ofPath hostDir) ↔
      (Place.ofPath hostDir).Returns (way value)) ∧
    (".." ∉ Path.names value → (Place.ofPath hostDir).Returns (way value)) ∧
    ∀ t : FileTree, ctx.fileExists = t.exists? → outcome.violations = [] →
      (Place.ofPath hostDir).Returns (way value) →
        ∃ place, t.resolve path = .ok place ∧
          (Place.ofPath hostDir).located t.home <+: place := by
  intro path outcome
  obtain ⟨haccepted, hlooked⟩ : (outcome.violations = [] ↔ ctx.fileExists path = .ok true) ∧
      outcome.looked = [path] :=
    offer_of_fileName hget hrow hfield hblank hhost
  have hinside : (Place.ofPath path).IsBelow (Place.ofPath hostDir) ↔
      (Place.ofPath hostDir).Returns (way value) := by
    rw [ofPath_resolve]
    exact Place.isBelow_follow_iff _ _
  refine ⟨haccepted, hlooked, hinside, fun hnames => ?_, fun t ht hclean hreturns => ?_⟩
  · have hsteps : ".." ∉ steps value := mt mem_names_of_mem_steps hnames
    exact Place.returns_of_up_eq_zero (Place.up_walk_of_notMem hsteps _) _
  · have hexists : t.exists? path = .ok true := by
      rw [← ht]
      exact haccepted.mp hclean
    obtain ⟨place, hplace⟩ := FileTree.exists?_eq_true_iff.mp hexists
    refine ⟨place, hplace, ?_⟩
    rw [FileTree.resolve_eq_located hplace]
    exact (hinside.mpr hreturns).isPrefix_located t.home

/-- A file name goes up to the directory above and returns. -/
theorem inside_iff_returns_up :
    let t : FileTree := { nodes := [(["srv"], .directory), (["srv", "Masters"], .directory),
      (["srv", "Masters", "a.tif"], .file [])] }
    let ctx : Context := {
      store := .empty none .epoch
      rules := .builtin
      hostDir := some "/srv/Masters"
      fileExists := t.exists? }
    let value := "Masters//../Masters/./a.tif"
    let g : Grid := ⟨[["Title", "File Name"], ["x", value]]⟩
    let path := "/srv/Masters/../Masters/./a.tif"
    g.get? ⟨1, 1⟩ = some value ∧ resolve "/srv/Masters" value = path ∧
    (Kind.hostFile.offer ctx {} ⟨"p", ⟨1, 1⟩, g⟩).1.violations = [] ∧
    (Kind.hostFile.offer ctx {} ⟨"p", ⟨1, 1⟩, g⟩).1.looked = [path] ∧
    ∃ place, t.resolve path = .ok place ∧ ["srv", "Masters"] <+: place := by
  intro t ctx value g path
  have hpath : resolve "/srv/Masters" value = path := by decide
  have hget : g.get? ⟨1, 1⟩ = some value := rfl
  have hhost : Place.ofPath "/srv/Masters" = ⟨true, 0, ["srv", "Masters"]⟩ := by decide
  obtain ⟨haccepted, hlooked, hinside, -, hplace⟩ :=
    @inside_iff_returns ctx {} "p" value g ⟨1, 1⟩ "/srv/Masters" hget (by decide) rfl (by decide) rfl
  have hclean := haccepted.mpr (by decide)
  have hreturns := hinside.mp (by decide)
  obtain ⟨place, hresolve, hbelow⟩ := hplace t rfl hclean hreturns
  rw [hpath] at hresolve hlooked
  rw [hhost] at hbelow
  exact ⟨hget, hpath, hclean, hlooked, place, hresolve, hbelow⟩

/-- A file beside the host directory is accepted. -/
theorem not_inside_of_accepted :
    ¬ ∀ (ctx : Context) (memo : Memo) (profile : String) (g : Grid) (l : Location) (value : String)
      (hostDir : Path), g.get? l = some value → l.row ≠ 0 → g.headers[l.col]? = some "File Name" →
        Text.isBlank value = false → ctx.hostDir = some hostDir → ".." ∉ Path.names hostDir →
          (Kind.hostFile.offer ctx memo ⟨profile, l, g⟩).1.violations = [] →
            (Place.ofPath (resolve hostDir value)).IsBelow (Place.ofPath hostDir) := by
  intro hall
  let t : FileTree := { nodes := [(["host"], .directory), (["outside.txt"], .file [])] }
  let ctx : Context := {
    store := .empty none .epoch
    rules := .builtin
    hostDir := some "host"
    fileExists := t.exists? }
  have hbelow := hall ctx {} "default" ⟨[["File Name"], ["../outside.txt"]]⟩ ⟨1, 0⟩ _ _ rfl
    (by decide) rfl (by decide) rfl (by decide) (by decide)
  exact absurd hbelow (by decide)

end HostFile
end MetadataAudit
