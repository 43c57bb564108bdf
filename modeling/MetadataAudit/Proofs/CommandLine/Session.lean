import MetadataAudit.CommandLine.Run
import MetadataAudit.Proofs.FileTree.Agreement
import MetadataAudit.Proofs.Store.RoundTrip

/-! # What a session does to files

A session starts with the files that it finds and one for its log (`Session.Starts`), which it writes
while it works.  Files of other names are not touched by that, and a file that the log is written to
keeps what it held in front (`Session.Untouched`, and as paths lead to files `Session.Logged`).  A store that is saved takes the place of a log that was written there, so nothing
is added to it afterwards (`Session.save_eq_ok`).
-/
namespace MetadataAudit
namespace Work

variable {α β : Type} {x : Work α} {f : α → Work β} {s u : Session} {b : β}

/-- Steps that succeed together succeed one after the other. -/
theorem bind_eq_ok_iff : (x >>= f).run s = (.ok b, u) ↔
    ∃ a v, x.run s = (.ok a, v) ∧ (f a).run v = (.ok b, u) := by
  rw [run_bind]
  constructor
  · intro h
    split at h
    · rename_i a ha
      exact ⟨a, (x.run s).2, Prod.ext ha rfl, h⟩
    · cases h
  · rintro ⟨a, v, hx, hf⟩
    rw [hx]
    exact hf

/-- Whether steps succeed one after the other, whatever state they leave. -/
theorem fst_bind_eq_ok_iff : ((x >>= f).run s).1 = .ok b ↔
    ∃ a, (x.run s).1 = .ok a ∧ ((f a).run (x.run s).2).1 = .ok b := by
  rw [run_bind]
  cases (x.run s).1 with
  | error e => simp
  | ok a => simp

theorem run_bind_of_ok {a : α} (h : x.run s = (.ok a, u)) : (x >>= f).run s = (f a).run u := by
  rw [run_bind, h]

/-- After a step that failed nothing more is done. -/
theorem run_bind_of_error {e : CommandError} (h : x.run s = (.error e, u)) :
    (x >>= f).run s = (.error e, u) := by
  rw [run_bind, h]

theorem attempt_eq_ok_iff {g : Session → Except CommandError α} {a : α} :
    (attempt g).run s = (.ok a, u) ↔ g s = .ok a ∧ u = s := by
  constructor
  · intro h
    exact ⟨congrArg Prod.fst h, (congrArg Prod.snd h).symm⟩
  · rintro ⟨hg, rfl⟩
    exact Prod.ext hg rfl

theorem pure_eq_ok_iff {a b : α} : (pure a : Work α).run s = (.ok b, u) ↔ b = a ∧ u = s := by
  constructor
  · intro h
    cases h
    exact ⟨rfl, rfl⟩
  · rintro ⟨rfl, rfl⟩
    rfl

theorem run_save_eq_ok {store : Store} (h : (save store).run s = (.ok (), u)) :
    ∃ tree, store.save s.tree = (.ok (), tree) ∧ u = match store.path with
      | some path => s.replaced path tree
      | none => { s with tree } := by
  cases hsave : store.save s.tree with
  | mk r tree =>
    have hrun : (save store).run s = save store s := rfl
    rw [hrun] at h
    simp only [save, hsave] at h
    cases r with
    | error cause => cases h
    | ok _ => exact ⟨tree, rfl, (congrArg Prod.snd h).symm⟩

theorem run_save_of_error {store : Store} {cause : ProfileError} {tree : FileTree}
    (h : store.save s.tree = (.error cause, tree)) :
    (save store).run s = (.error (.edit (.notSaved cause)), { s with tree }) := by
  have hrun : (save store).run s = save store s := rfl
  rw [hrun, save, h]

theorem run_save_of_ok {store : Store} {tree : FileTree} (h : store.save s.tree = (.ok (), tree)) :
    ((save store).run s).1 = .ok () := by
  have hrun : (save store).run s = save store s := rfl
  rw [hrun, save, h]

end Work

/-- The log is written to the file under a list of names. -/
def Logging.Target (logging : Logging) (t : FileTree) (names : List String) : Prop :=
  ∃ file, logging.file = some file ∧ t.fileTarget file = .ok names

namespace Session

variable {s u v : Session} {path : Path} {target : List String} {content : Bytes}

/-- The file of the log is there. -/
def LogThere (s : Session) : Prop :=
  ∀ names, s.sink = .file names → ∃ content, s.tree.node? names = some (.file content)

theorem sink_write (s : Session) (lines : List String) : (s.write lines).sink = s.sink := by
  rw [write]
  split <;> rfl

theorem now_write (s : Session) (lines : List String) : (s.write lines).now = s.now := by
  rw [write]
  split <;> rfl

theorem tree_write (lines : List String) (he : s.sink = .errors) :
    (s.write lines).tree = s.tree := by
  rw [write]
  simp only [he]

theorem not_directory_of_logThere (h : s.LogThere) {names : List String}
    (hsink : s.sink = .file names) : s.tree.node? names ≠ some .directory := by
  obtain ⟨content, hnode⟩ := h names hsink
  rw [hnode]
  simp

/-- Nothing but the log was written between two states of a session, and that was added to. -/
structure Untouched (s u : Session) : Prop where
  sink : u.sink = s.sink
  now : u.now = s.now
  home : u.tree.home = s.tree.home
  node {names : List String} (hother : s.sink ≠ .file names) :
    u.tree.node? names = s.tree.node? names
  log {names : List String} {content : Bytes} (hsink : s.sink = .file names)
    (hn : s.tree.node? names = some (.file content)) :
    ∃ rest, u.tree.node? names = some (.file (content ++ rest))
  tree (he : s.sink = .errors) : u.tree = s.tree

namespace Untouched

theorem refl (s : Session) : s.Untouched s where
  sink := rfl
  now := rfl
  home := rfl
  node _ := rfl
  log _ hn := ⟨[], by rw [List.append_nil]; exact hn⟩
  tree _ := rfl

theorem trans (h : s.Untouched u) (h' : u.Untouched v) : s.Untouched v where
  sink := h'.sink.trans h.sink
  now := h'.now.trans h.now
  home := h'.home.trans h.home
  node hother := (h'.node (h.sink ▸ hother)).trans (h.node hother)
  log hsink hn := by
    obtain ⟨rest, hrest⟩ := h.log hsink hn
    obtain ⟨more, hmore⟩ := h'.log (h.sink.trans hsink) hrest
    exact ⟨rest ++ more, by rw [hmore, List.append_assoc]⟩
  tree he := (h'.tree (h.sink.trans he)).trans (h.tree he)

theorem write (s : Session) (lines : List String) : s.Untouched (s.write lines) := by
  cases hsink : s.sink with
  | errors =>
    have htree := tree_write lines hsink
    exact ⟨sink_write s lines, now_write s lines, by rw [htree], fun _ => by rw [htree],
      fun h _ => (nomatch hsink.symm.trans h), fun _ => htree⟩
  | lost =>
    have hsame : s.write lines = s := by
      rw [Session.write]
      simp only [hsink]
    rw [hsame]
    exact refl s
  | file names =>
    have htree : (s.write lines).tree =
        s.tree.extend names (Utf8.encode (String.join (lines.map (· ++ "\n")))) := by
      rw [Session.write]
      simp only [hsink]
    refine ⟨sink_write s lines, now_write s lines, ?_, fun {place} hother => ?_,
      fun {place content} h hn => ?_, fun he => by cases hsink.symm.trans he⟩
    · rw [htree, FileTree.home_extend]
    · have hne : place ≠ names := fun heq => hother (by rw [hsink, heq])
      rw [htree, FileTree.node?_extend_ne _ _ hne]
    · cases hsink.symm.trans h
      exact ⟨_, by rw [htree, FileTree.node?_extend_of_file _ hn]⟩

theorem logThere (h : s.Untouched u) (hl : s.LogThere) : u.LogThere := by
  intro names hsink
  have hsink' : s.sink = .file names := h.sink ▸ hsink
  obtain ⟨content, hn⟩ := hl names hsink'
  obtain ⟨rest, hrest⟩ := h.log hsink' hn
  exact ⟨_, hrest⟩

/-- While nothing but the log is written, the trees agree but at the place of the log. -/
theorem agreeBut (h : s.Untouched u) (hl : s.LogThere) :
    s.tree.AgreeBut u.tree (s.sink = .file ·) :=
  ⟨h.home, h.node, not_directory_of_logThere hl, fun hsink =>
    h.logThere hl _ (h.sink.trans hsink)⟩

end Untouched

/-- Nothing but the log was written between two states of a session: a file stays, and if it is the
log's, its content stays in front. -/
structure Logged (s u : Session) : Prop where
  logThere : u.LogThere
  sink : u.sink = s.sink
  now : u.now = s.now
  tree (he : s.sink = .errors) : u.tree = s.tree
  holds {path : Path} {target : List String} {content : Bytes}
    (hh : s.tree.Holds path target content) : ∃ rest,
      u.tree.Holds path target (content ++ rest) ∧ (s.sink ≠ .file target → rest = [])

theorem Untouched.logged (h : s.Untouched u) (hl : s.LogThere) : s.Logged u := by
  refine ⟨h.logThere hl, h.sink, h.now, h.tree, fun {path target content} hh => ?_⟩
  have hnode : ∃ rest, u.tree.node? target = some (.file (content ++ rest)) ∧
      (s.sink ≠ .file target → rest = []) := by
    by_cases hsink : s.sink = .file target
    · obtain ⟨rest, hrest⟩ := h.log hsink hh.node
      exact ⟨rest, hrest, fun hne => absurd hsink hne⟩
    · refine ⟨[], ?_, fun _ => rfl⟩
      rw [h.node hsink, List.append_nil]
      exact hh.node
  obtain ⟨rest, hfile, hrest⟩ := hnode
  exact ⟨rest, hh.of_keeps (h.agreeBut hl).keeps h.home hfile, hrest⟩

/-- What a session starts with: the files that it finds, and one for its log. -/
structure Starts (logging : Logging) (around : Surroundings) (s : Session) : Prop where
  now : s.now = around.now
  sink {names : List String} : s.sink = .file names ↔ logging.Target around.tree names
  agree : around.tree.AgreeBut s.tree (s.sink = .file ·)
  log {names : List String} {content : Bytes} (hsink : s.sink = .file names)
    (hn : around.tree.node? names = some (.file content)) : s.tree.node? names = some (.file content)
  tree (hlog : logging.file = none) : s.sink = .errors ∧ s.tree = around.tree

section Starts

variable {logging : Logging} {around : Surroundings}

theorem starts_of_start (hs : start logging around = .ok s) : Starts logging around s := by
  rw [start] at hs
  cases hlog : logging.file with
  | none =>
    rw [hlog] at hs
    cases hs
    have hagree : around.tree.AgreeBut around.tree (Sink.errors = .file ·) :=
      ⟨rfl, fun _ => rfl, fun h => (nomatch h), fun h => (nomatch h)⟩
    refine ⟨rfl, ?_, hagree, fun _ hn => hn, fun _ => ⟨rfl, rfl⟩⟩
    simp [Logging.Target, hlog]
  | some file =>
    rw [hlog] at hs
    obtain ⟨tree, happend, hs⟩ := MetadataAudit.bind_eq_ok_iff.mp hs
    obtain ⟨names, hresolve, hs⟩ := MetadataAudit.bind_eq_ok_iff.mp hs
    cases hs
    obtain ⟨target, htarget, hd, rfl, hplace⟩ := FileTree.append_eq_ok happend
    obtain rfl := Except.ok.inj (hplace.symm.trans hresolve)
    refine ⟨rfl, ?_, .extend hd [] fun place => ?_, fun {names content} hsink hn => ?_,
      fun hno => nomatch hlog.symm.trans hno⟩
    · simp [Logging.Target, hlog, htarget]
    · simp [eq_comm]
    · cases hsink
      rw [FileTree.node?_extend_of_file [] hn, List.append_nil]

theorem Starts.logThere (h : Starts logging around s) : s.LogThere := fun _ hsink =>
  h.agree.there hsink

/-- Every file is as it was when a session starts. -/
theorem Starts.holds (h : Starts logging around s) (hh : around.tree.Holds path target content) :
    s.tree.Holds path target content := by
  refine hh.of_keeps h.agree.keeps h.agree.home ?_
  by_cases hsink : s.sink = .file target
  · exact h.log hsink hh.node
  · rw [h.agree.node hsink]
    exact hh.node

/-- What was there at the start is there while only the log is written. -/
theorem Starts.agreeBut_of_untouched (h : Starts logging around s) (hu : s.Untouched u) :
    around.tree.AgreeBut u.tree (s.sink = .file ·) :=
  h.agree.trans (hu.agreeBut h.logThere)

end Starts

/-- A store that was saved stands under its path, and the log is written elsewhere. -/
theorem save_eq_ok {u : Session} {store : Store} (hl : s.LogThere) (hpath : store.path = some path)
    (hsave : (Work.save store).run s = (.ok (), u)) :
    u.LogThere ∧ (∀ names, u.sink = .file names → s.sink = .file names) ∧ ∃ target,
      u.tree.Holds path target (Utf8.encode store.text) ∧ u.sink ≠ .file target ∧
        s.tree.Grows u.tree (Path.IsAbove · path) [target] := by
  obtain ⟨tree, htree, rfl⟩ := Work.run_save_eq_ok hsave
  rw [hpath]
  obtain ⟨target, hholds, hgrows⟩ := Store.save_eq_ok hpath htree
  -- a log that was written to the target is lost from here on
  have hsink : (s.replaced path tree).sink =
      if Sink.file target = s.sink then .lost else s.sink := by
    rw [replaced, hholds.resolve]
    simp [Except.toOption]
  have hstays {names : List String} (hnames : (s.replaced path tree).sink = .file names) :
      s.sink = .file names ∧ names ≠ target := by
    rw [hsink] at hnames
    split at hnames
    · cases hnames
    · rename_i hne
      exact ⟨hnames, fun heq => hne (by rw [hnames, heq])⟩
  refine ⟨?_, fun names hnames => (hstays hnames).1, target, hholds, ?_, hgrows⟩
  · intro names hnames
    obtain ⟨hbefore, hne⟩ := hstays hnames
    obtain ⟨content, hnode⟩ := hl names hbefore
    exact ⟨content, hgrows.spares.node hne hnode⟩
  · exact fun hlog => (hstays hlog).2 rfl

end Session
end MetadataAudit
