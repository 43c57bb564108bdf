import MetadataAudit.Proofs.FileTree.Lookup

/-! # Where paths lead

The names of a path can be followed without looking at any tree: `.` and what repeated slashes leave
stand for nothing, and `..` takes back the name before it (`Place.enter`).  A path that is put below a
directory leads where its names lead from there (`Place.ofPath_join`), and to names followed from any
place it matters only how far they go up and which names are left (`Place.walk_eq_follow`).  In a file
tree a path leads to its place, if it can be looked up at all (`FileTree.resolve_eq_located`).
-/
namespace MetadataAudit

/-- Where the names of a path lead: up from the root or the current directory, and then down. -/
structure Place where
  fromRoot : Bool
  up : Nat
  down : List String
deriving DecidableEq

namespace Place

/-- The current directory. -/
def here : Place := ⟨false, 0, []⟩

/-- One directory up.  There is nothing above the root. -/
def leave (p : Place) : Place :=
  if p.down ≠ [] then { p with down := p.down.dropLast }
  else if p.fromRoot then p
  else { p with up := p.up + 1 }

/-- One name further. -/
def enter (p : Place) (name : String) : Place :=
  if name = "" ∨ name = "." then p
  else if name = ".." then p.leave
  else { p with down := p.down ++ [name] }

/-- Several names further. -/
def walk (p : Place) (names : List String) : Place := names.foldl enter p

/-- The place that a path leads to. -/
def ofPath (path : Path) : Place :=
  walk { here with fromRoot := path.toList.head? = some '/' } path.names

/-- A place is another one or lies below it. -/
structure IsBelow (q p : Place) : Prop where
  fromRoot : q.fromRoot = p.fromRoot
  up : q.up = p.up
  down : p.down <+: q.down

variable {p q : Place} {name : String} {names : List String}

instance (q p : Place) : Decidable (IsBelow q p) :=
  decidable_of_iff (q.fromRoot = p.fromRoot ∧ q.up = p.up ∧ p.down <+: q.down)
    ⟨fun h => ⟨h.1, h.2.1, h.2.2⟩, fun h => ⟨h.fromRoot, h.up, h.down⟩⟩

@[simp] theorem walk_cons (p : Place) (name : String) (names : List String) :
    p.walk (name :: names) = (p.enter name).walk names := rfl

theorem walk_append (p : Place) (above names : List String) :
    p.walk (above ++ names) = (p.walk above).walk names := List.foldl_append

@[simp] theorem enter_empty (p : Place) : p.enter "" = p := if_pos (Or.inl rfl)

/-- What repeated slashes leave leads nowhere. -/
theorem walk_empty_cons (p : Place) (names : List String) : p.walk ("" :: names) = p.walk names := by
  rw [walk_cons, enter_empty]

theorem fromRoot_leave (p : Place) : p.leave.fromRoot = p.fromRoot := by
  unfold leave
  split
  · rfl
  · split <;> rfl

theorem fromRoot_enter (p : Place) (name : String) : (p.enter name).fromRoot = p.fromRoot := by
  unfold enter
  split
  · rfl
  · split
    · exact p.fromRoot_leave
    · rfl

theorem fromRoot_walk (p : Place) (names : List String) :
    (p.walk names).fromRoot = p.fromRoot := by
  induction names generalizing p with
  | nil => rfl
  | cons name names ih => rw [walk_cons, ih, fromRoot_enter]

/-- Names lead up only by `..`. -/
theorem up_walk_of_notMem (h : ".." ∉ names) (p : Place) : (p.walk names).up = p.up := by
  induction names generalizing p with
  | nil => rfl
  | cons name names ih =>
    obtain ⟨hname, hnames⟩ :=
      not_or.mp (mt List.mem_cons.mpr h)
    have hup : (p.enter name).up = p.up := by
      unfold enter
      rw [if_neg (Ne.symm hname)]
      split <;> rfl
    rw [walk_cons, ih hnames, hup]

/-! ## Going on from a place -/

/-- The way from `here` to `q`, gone from `p` instead: names of `p` are taken back first, and the root is
not left. -/
def follow (p q : Place) : Place where
  fromRoot := p.fromRoot
  up := if p.fromRoot then p.up else p.up + (q.up - p.down.length)
  down := p.down.take (p.down.length - q.up) ++ q.down

@[simp] theorem follow_here (p : Place) : p.follow here = p := by
  cases p
  simp [follow, here]

theorem leave_follow (hq : q.fromRoot = false) (p : Place) :
    (p.follow q).leave = p.follow q.leave := by
  by_cases hdown : q.down = []
  · -- nothing is left of `q` to take back, so it is a name of `p`, if there is one
    have hleave : q.leave = { q with up := q.up + 1 } := by simp [leave, hdown, hq]
    rw [hleave]
    by_cases hlt : q.up < p.down.length
    · have hne : p.down ≠ [] := List.ne_nil_of_length_pos (Nat.zero_lt_of_lt hlt)
      have hlen : p.down.length - q.up ≠ 0 := Nat.sub_ne_zero_of_lt hlt
      have htake : (p.down.take (p.down.length - q.up)).dropLast =
          p.down.take (p.down.length - (q.up + 1)) := by
        rw [List.dropLast_eq_take, List.length_take, List.take_take]
        congr 1
        omega
      have hno : q.up - p.down.length = 0 ∧ q.up + 1 - p.down.length = 0 := by omega
      simp [leave, follow, hdown, hne, hlen, htake, hno]
    · have hzero : p.down.length - q.up = 0 ∧ p.down.length - (q.up + 1) = 0 := by omega
      have hsum : p.up + (q.up - p.down.length) + 1 = p.up + (q.up + 1 - p.down.length) := by
        omega
      cases hroot : p.fromRoot <;> simp [leave, follow, hdown, hroot, hzero, hsum]
  · simp [leave, follow, hdown, List.dropLast_append_of_ne_nil]

theorem enter_follow (hq : q.fromRoot = false) (p : Place) (name : String) :
    (p.follow q).enter name = p.follow (q.enter name) := by
  unfold enter
  split
  · rfl
  · split
    · exact leave_follow hq p
    · simp [follow]

theorem walk_follow (hq : q.fromRoot = false) (p : Place) (names : List String) :
    (p.follow q).walk names = p.follow (q.walk names) := by
  induction names generalizing q with
  | nil => rfl
  | cons name names ih =>
    rw [walk_cons, enter_follow hq, ih (by rw [fromRoot_enter, hq]), walk_cons]

/-- **Names lead from any place as they lead from the current directory.** -/
theorem walk_eq_follow (p : Place) (names : List String) :
    p.walk names = p.follow (here.walk names) := by
  rw [← walk_follow rfl, follow_here]

/-- The way to `q` goes up from `p`, not past the current directory, and comes down again through the
names that it took back. -/
structure Returns (p q : Place) : Prop where
  up : p.fromRoot = true ∨ q.up ≤ p.down.length
  down : p.down.drop (p.down.length - q.up) <+: q.down

/-- Who does not go up need not come back. -/
theorem returns_of_up_eq_zero (h : q.up = 0) (p : Place) : p.Returns q where
  up := Or.inr (h ▸ Nat.zero_le _)
  down := by
    rw [h, Nat.sub_zero, List.drop_length]
    exact List.nil_prefix

/-- **A way from a place stays below it** exactly if it returns there. -/
theorem isBelow_follow_iff (p q : Place) : (p.follow q).IsBelow p ↔ p.Returns q := by
  have hdown : p.down <+: (p.follow q).down ↔
      p.down.drop (p.down.length - q.up) <+: q.down := by
    conv =>
      lhs
      lhs
      rw [← List.take_append_drop (p.down.length - q.up) p.down]
    exact List.prefix_append_right_inj _
  have hup : (p.follow q).up = p.up ↔ p.fromRoot = true ∨ q.up ≤ p.down.length := by
    cases hroot : p.fromRoot <;> simp [follow, hroot]
    omega
  exact ⟨fun h => ⟨hup.mp h.up, hdown.mp h.down⟩, fun h => ⟨rfl, hup.mpr h.up, hdown.mpr h.down⟩⟩

/-! ## Paths below a directory -/

theorem names_append (directory rest : Path) :
    Path.names (directory ++ "/" ++ rest) = directory.names ++ rest.names := by
  have hchars : (directory ++ "/" ++ rest).toList = directory.toList ++ '/' :: rest.toList := by
    simp [String.toList_append]
  rw [Path.names, Path.names, Path.names, Text.split, Text.split, Text.split, hchars,
    Text.splitChars_append, List.map_append]

theorem ofPath_append (directory rest : Path) :
    ofPath (directory ++ "/" ++ rest) =
      walk { here with fromRoot := (directory ++ "/").toList.head? = some '/' }
        (directory.names ++ rest.names) := by
  rw [ofPath, names_append]
  congr 2
  simp [String.toList_append]

/-- **A path that is put below a directory** leads where its names lead from there. -/
theorem ofPath_join {rest : Path} (hrest : rest.toList.head? ≠ some '/') (directory : Path) :
    ofPath (Path.join directory rest) = (ofPath directory).walk rest.names := by
  rw [Path.join, if_neg hrest]
  by_cases hempty : directory = ""
  · subst hempty
    have hstart : ofPath "" = here := by decide
    rw [hstart]
    simp [ofPath, hrest, here]
  · by_cases hslash : directory.toList.getLast? = some '/'
    · -- the directory ends in a slash, behind which stands an empty name
      obtain ⟨base, hbase⟩ : ∃ base, directory.toList = base ++ ['/'] :=
        List.getLast?_eq_some_iff.mp hslash
      have hdirectory : directory = String.ofList base ++ "/" ++ "" := by
        rw [← String.toList_inj]
        simp [hbase, String.toList_append]
      have hjoin : directory ++ rest = String.ofList base ++ "/" ++ rest := by
        rw [hdirectory, String.append_empty]
      rw [if_pos (by simp [hslash]), hjoin, ofPath_append, hdirectory, ofPath_append, walk_append,
        walk_append]
      rfl
    · have hhead : (directory ++ "/").toList.head? = directory.toList.head? := by
        have hne : directory.toList ≠ [] := mt String.toList_eq_nil_iff.mp hempty
        obtain ⟨c, cs, hcs⟩ := List.exists_cons_of_ne_nil hne
        rw [String.toList_append, hcs]
        rfl
      rw [if_neg (by simp [hempty, hslash]), ofPath_append, walk_append, hhead]
      rfl

/-! ## Places in a file tree -/

/-- The names that lead to a place from the root, for one whose current directory is `home`. -/
def located (home : List String) (p : Place) : List String :=
  if p.fromRoot then p.down else home.take (home.length - p.up) ++ p.down

/-- What lies below a place lies below it in every tree. -/
theorem IsBelow.isPrefix_located (h : q.IsBelow p) (home : List String) :
    p.located home <+: q.located home := by
  rw [located, located, h.fromRoot, h.up]
  split
  · exact h.down
  · exact (List.prefix_append_right_inj _).mpr h.down

end Place

namespace FileTree

variable {t : FileTree} {start place : List String}

theorem walk_eq_ok {names : List String} (h : t.walk start names = .ok place) :
    (⟨true, 0, start⟩ : Place).walk names = ⟨true, 0, place⟩ := by
  induction names generalizing start with
  | nil =>
    cases h
    rfl
  | cons name names ih =>
    obtain ⟨next, hnext, hrest⟩ := bind_eq_ok_iff.mp h
    have hstep : (⟨true, 0, start⟩ : Place).enter name = ⟨true, 0, next⟩ := by
      obtain ⟨-, ⟨hhere, rfl⟩ | ⟨rfl, rfl⟩ | ⟨hname, -, rfl⟩⟩ := enter_eq_ok_iff.mp hnext
      · exact if_pos hhere
      · cases start <;> rfl
      · rw [Place.enter, if_neg (not_or.mpr ⟨hname.nonempty, hname.notHere⟩), if_neg hname.notAbove]
    rw [Place.walk_cons, hstep]
    exact ih hrest

/-- **A path that can be looked up leads to its place.** -/
theorem resolve_eq_located {path : Path} (h : t.resolve path = .ok place) :
    place = (Place.ofPath path).located t.home := by
  obtain ⟨-, -, hwalk⟩ := bind_eq_ok_iff.mp h
  have hplace := walk_eq_ok hwalk
  rw [Place.ofPath, Place.located, Place.fromRoot_walk]
  by_cases hroot : path.toList.head? = some '/'
  · rw [start, if_pos hroot] at hplace
    simp [hroot, Place.here, hplace]
  · rw [start, if_neg hroot, Place.walk_eq_follow] at hplace
    have hdown := congrArg Place.down hplace
    simpa [hroot, Place.here, Place.follow] using hdown.symm

theorem exists?_eq_true_iff {path : Path} :
    t.exists? path = .ok true ↔ ∃ place, t.resolve path = .ok place := by
  rw [exists?]
  cases t.resolve path with
  | ok place => simp
  | error e => cases e <;> simp

end FileTree
end MetadataAudit
