import MetadataAudit.Proofs.CommandLine.Opening
import MetadataAudit.Proofs.Store.Editing

/-! # Edits from one process to the next

Each edit is a process of its own: it opens the store that the last one left in the file, changes it
and saves it.  What such a process leaves under the path is a saved store with the profiles that its
edit leaves (`EditCall.kept_of_code_zero`), so a run of them leaves what the edits leave one after the
other (`EditCall.kept_of_all`).  A store without profiles is saved like any other, but nobody can
open it again: that is the one state in which edits that all succeed end the use of the file
(`EditCall.reopened_iff_left`).
-/
namespace MetadataAudit

/-- A process that makes an edit, with its options and what it finds besides the files. -/
structure EditCall where
  edit : Edit
  rulesFile : Option Path := none
  logging : Logging
  network : Fetch
  now : Timestamp

namespace EditCall

/-- What the program is asked to do. -/
def invocation (c : EditCall) (path : Path) : Invocation where
  command := .edit c.edit
  profilesFile := some path
  rulesFile := c.rulesFile
  logging := c.logging

/-- What the process finds. -/
def around (c : EditCall) (t : FileTree) : Surroundings := ⟨t, c.network, c.now⟩

/-- What comes of the process. -/
def conclusion (c : EditCall) (path : Path) (t : FileTree) : Conclusion :=
  (c.invocation path).run (c.around t)

/-- The store that the process opens. -/
def found? (c : EditCall) (path : Path) (t : FileTree) : Option Store :=
  match Session.start c.logging (c.around t) with
  | .error _ => none
  | .ok session =>
    match ((Command.openBoth (c.invocation path) []).run session).1 with
    | .ok (_, store) => some store
    | .error _ => none

/-- The rule book that the process is to use. -/
def rules? (c : EditCall) (t : FileTree) : Option Rulebook :=
  match c.rulesFile with
  | none => some .builtin
  | some file => (Rulebook.load t file).toOption

/-- The files after processes that all succeed, one after the other. -/
def succeed? (path : Path) : List EditCall → FileTree → Option FileTree
  | [], t => some t
  | c :: cs, t =>
    if (c.conclusion path t).code = 0 then succeed? path cs (c.conclusion path t).tree else none

/-- The profiles that the edits of some processes leave, one after the other. -/
def leaves (cs : List EditCall) (ps : Dictionary Profile) : Dictionary Profile :=
  cs.foldl (fun ps c => c.edit.leaves c.now ps) ps

variable {c : EditCall} {path : Path} {t t' : FileTree} {ps : Dictionary Profile}

/-! ### Within one process -/

section Process

variable {s u : Session} {rules : Rulebook} {store : Store}

theorem openRules_eq_ok_iff {spans : List Log.Span} :
    ((Command.openRules spans c.rulesFile).run s).1 = .ok rules ↔ c.rules? s.tree = some rules := by
  rw [rules?]
  cases c.rulesFile with
  | none =>
    exact ⟨fun h => congrArg some (Except.ok.inj h), fun h => congrArg Except.ok (Option.some.inj h)⟩
  | some file =>
    rw [toOption_eq_some_iff, Command.openRules, Work.fst_bind_eq_ok_iff]
    constructor
    · rintro ⟨found, hload, hrest⟩
      obtain rfl : found = rules := Except.ok.inj hrest
      exact mapError_eq_ok_iff.mp hload
    · intro h
      exact ⟨rules, mapError_eq_ok_iff.mpr h, rfl⟩

theorem openRules_eq_ok {spans : List Log.Span} (hl : s.LogThere)
    (h : (Command.openRules spans c.rulesFile).run s = (.ok rules, u)) :
    c.rules? s.tree = some rules ∧ s.Logged u := by
  have hquiet := Command.isQuiet_openRules spans c.rulesFile s
  rw [h] at hquiet
  exact ⟨openRules_eq_ok_iff.mp (congrArg Prod.fst h), hquiet.logged hl⟩

theorem openStore_eq_ok {spans : List Log.Span} {file : Option Path} (hl : s.LogThere)
    (h : (Command.openStore spans file rules).run s = (.ok store, u)) :
    Store.opened rules file s.tree s.now = .ok store ∧ s.Logged u := by
  have hquiet := Command.isQuiet_openStore spans file rules s
  rw [h] at hquiet
  exact ⟨Command.openStore_eq_ok_iff.mp (congrArg Prod.fst h), hquiet.logged hl⟩

/-- A store is opened as the files stand once the rule book is read. -/
theorem openBoth_eq_ok (hl : s.LogThere)
    (h : (Command.openBoth (c.invocation path) []).run s = (.ok (rules, store), u)) :
    c.rules? s.tree = some rules ∧ ∃ v, s.Logged v ∧
      Store.opened rules (some path) v.tree v.now = .ok store ∧ v.Logged u := by
  obtain ⟨_, v, hrules, hrest⟩ := Work.bind_eq_ok_iff.mp h
  obtain ⟨_, w, hstore, hend⟩ := Work.bind_eq_ok_iff.mp hrest
  obtain ⟨hpair, rfl⟩ := Work.pure_eq_ok_iff.mp hend
  cases hpair
  obtain ⟨hbook, hlogged⟩ := openRules_eq_ok hl hrules
  obtain ⟨hopened, hlater⟩ := openStore_eq_ok hlogged.logThere hstore
  exact ⟨hbook, v, hlogged, hopened, hlater⟩

theorem openBoth_eq_ok_iff :
    ((Command.openBoth (c.invocation path) []).run s).1 = .ok (rules, store) ↔
      c.rules? s.tree = some rules ∧ Store.opened rules (some path)
        ((Command.openRules [] c.rulesFile).run s).2.tree
        ((Command.openRules [] c.rulesFile).run s).2.now = .ok store := by
  rw [Command.openBoth, Work.fst_bind_eq_ok_iff]
  constructor
  · rintro ⟨_, hrules, hrest⟩
    obtain ⟨_, hstore, hend⟩ := Work.fst_bind_eq_ok_iff.mp hrest
    cases hend
    exact ⟨openRules_eq_ok_iff.mp hrules, Command.openStore_eq_ok_iff.mp hstore⟩
  · rintro ⟨hbook, hopened⟩
    refine ⟨rules, openRules_eq_ok_iff.mpr hbook, Work.fst_bind_eq_ok_iff.mpr ⟨store, ?_, rfl⟩⟩
    exact Command.openStore_eq_ok_iff.mpr hopened

/-- Without a file for the log, a process opens the store as the files stood before it. -/
theorem opened_of_found? (hlog : c.logging.file = none) (h : c.found? path t = some store) :
    ∃ rules, c.rules? t = some rules ∧ Store.opened rules (some path) t c.now = .ok store := by
  have hstart : Session.start c.logging (c.around t) =
      .ok { c.around t with style := c.logging.style } := by
    rw [Session.start, hlog]
  have hl := (Session.starts_of_start hstart).logThere
  rw [found?, hstart] at h
  dsimp only at h
  split at h
  · rename_i rules _ hboth
    cases h
    obtain ⟨hbook, v, hlogged, hopened, -⟩ := openBoth_eq_ok hl (Prod.ext hboth rfl)
    rw [hlogged.tree rfl, hlogged.now] at hopened
    exact ⟨rules, hbook, hopened⟩
  · cases h

/-- An edit that is made leaves its store under the path, with nothing behind it, and all other files
but the log's as they were. -/
theorem makeEdit_eq_ok {edit : Edit} (hl : s.LogThere) (hs : store.Sound)
    (hpath : store.path = some path) (h : (Command.makeEdit edit store).run s = (.ok (), u)) :
    ∃ (after : Store) (target : List String), after.Sound ∧
      after.view = edit.leaves s.now store.view ∧
        u.tree.Holds path target (Utf8.encode after.text) ∧
          ∀ names, names ≠ target → s.sink ≠ .file names → ∀ content,
            u.tree.node? names = some (.file content) ↔ s.tree.node? names = some (.file content) := by
  obtain ⟨edited, v, hedit, hrest⟩ := Work.bind_eq_ok_iff.mp h
  obtain ⟨happly, rfl⟩ := Work.attempt_eq_ok_iff.mp hedit
  obtain ⟨hsound, hsame, hview⟩ := Edit.view_apply hs (mapError_eq_ok_iff.mp happly)
  obtain ⟨_, w, htell, hlast⟩ := Work.bind_eq_ok_iff.mp hrest
  have hbefore := Work.untouched_of_tell htell
  obtain ⟨_, x, hsave, hend⟩ := Work.bind_eq_ok_iff.mp hlast
  have hafter := Work.untouched_of_tell hend
  obtain ⟨hl', hsinks, target, hholds, hsink, hgrows⟩ :=
    Session.save_eq_ok (hbefore.logThere hl) (hsame.trans hpath) hsave
  -- what is told at the end does not go where the store was saved
  obtain ⟨more, hmore, hnone⟩ := (hafter.logged hl').holds hholds
  rw [hnone hsink, List.append_nil] at hmore
  refine ⟨edited.store, target, hsound, hview, hmore, fun names hne hother content => ?_⟩
  have hlost : x.sink ≠ .file names := fun hlog => hother (hbefore.sink ▸ hsinks names hlog)
  rw [hafter.node hlost, hgrows.files names (by simpa using hne), hbefore.node hother]

end Process

/-! ### From one process to the next -/

/-- The file at a path is a saved store with some profiles. -/
def Kept (t : FileTree) (path : Path) (ps : Dictionary Profile) : Prop :=
  ∃ (s : Store) (target : List String), s.Sound ∧ s.view = ps ∧
    t.Holds path target (Utf8.encode s.text)

/-- Without its log a process does nothing. -/
theorem conclusion_of_start_eq_error {e : OsError}
    (hstart : Session.start c.logging (c.around t) = .error e) :
    (c.conclusion path t).code = 1 ∧ (c.conclusion path t).tree = t := by
  have hstart' : Session.start (c.invocation path).logging (c.around t) = .error e := hstart
  rw [conclusion, Invocation.run, hstart']
  exact ⟨rfl, rfl⟩

theorem conclusion_of_start_eq_ok {s : Session}
    (hstart : Session.start c.logging (c.around t) = .ok s) :
    c.conclusion path t = match (Command.run (c.invocation path)).run s with
      | (.ok (code, output), after) =>
        { code, output, errors := after.errors, tree := after.tree }
      | (.error e, after) =>
        { code := 1, errors := after.errors ++ e.lines, tree := after.tree } := by
  have hstart' : Session.start (c.invocation path).logging (c.around t) = .ok s := hstart
  cases hrun : (Command.run (c.invocation path)).run s with
  | mk result after => cases result <;> simp only [conclusion, Invocation.run, hstart', hrun]

/-- A process that succeeds has opened a store and made its edit. -/
theorem stages_of_code_zero (h : (c.conclusion path t).code = 0) :
    ∃ (s v u : Session) (rules : Rulebook) (store : Store),
      Session.start c.logging (c.around t) = .ok s ∧
        (Command.openBoth (c.invocation path) []).run s = (.ok (rules, store), v) ∧
          (Command.makeEdit c.edit store).run v = (.ok (), u) ∧
            (c.conclusion path t).tree = u.tree := by
  cases hstart : Session.start c.logging (c.around t) with
  | error e =>
    cases (conclusion_of_start_eq_error hstart).1.symm.trans h
  | ok s =>
    rw [conclusion_of_start_eq_ok hstart] at h ⊢
    cases hrun : (Command.run (c.invocation path)).run s with
    | mk result u =>
      rw [hrun] at h
      cases result with
      | error e => cases h
      | ok out =>
        obtain ⟨⟨rules, store⟩, v, hboth, hrest⟩ := Work.bind_eq_ok_iff.mp hrun
        obtain ⟨_, w, hedit, hend⟩ := Work.bind_eq_ok_iff.mp hrest
        obtain ⟨-, rfl⟩ := Work.pure_eq_ok_iff.mp hend
        exact ⟨s, v, u, rules, store, rfl, hboth, hedit, rfl⟩

/-- **What a process leaves** is what its edit leaves of the profiles it found. -/
theorem kept_of_code_zero (h : (c.conclusion path t).code = 0) :
    ∃ store, c.found? path t = some store ∧
      (∀ {ps}, Kept t path ps → store.view = ps ∧ ps ≠ .empty) ∧
        Kept (c.conclusion path t).tree path (c.edit.leaves c.now store.view) := by
  obtain ⟨s, v, u, rules, store, hstart, hboth, hedit, htree⟩ := stages_of_code_zero h
  have hstarts := Session.starts_of_start hstart
  obtain ⟨-, x, hbefore, hopened, hafter⟩ := openBoth_eq_ok hstarts.logThere hboth
  obtain ⟨hsound, hpath⟩ := Store.sound_opened hopened
  obtain ⟨after, target, hs, hview, hholds, -⟩ :=
    makeEdit_eq_ok hafter.logThere hsound hpath hedit
  rw [hafter.now, hbefore.now, hstarts.now] at hview
  rw [htree]
  have hfound : c.found? path t = some store := by
    rw [found?, hstart]
    dsimp only
    rw [hboth]
  refine ⟨store, hfound, ?_, after, target, hs, hview, hholds⟩
  -- the log may stand behind what was saved by the time the store is opened
  rintro ps ⟨saved, place, hsaved, rfl, hkept⟩
  obtain ⟨more, hmore, -⟩ := hbefore.holds (hstarts.holds hkept)
  exact Store.view_opened_of_append hsaved hmore hopened

/-- **Processes that all succeed** leave what their edits leave, one after the other. -/
theorem kept_of_all {cs : List EditCall} (hk : Kept t path ps) (h : succeed? path cs t = some t') :
    Kept t' path (leaves cs ps) := by
  induction cs generalizing t ps with
  | nil =>
    cases h
    exact hk
  | cons c cs ih =>
    rw [succeed?] at h
    split at h
    · rename_i hcode
      obtain ⟨store, -, hfound, hnext⟩ := kept_of_code_zero hcode
      rw [(hfound hk).1] at hnext
      exact ih hnext h
    · cases h

theorem opened_of_kept (hk : Kept t path ps) (rules : Rulebook) (now : Timestamp) :
    (ps ≠ .empty → ∃ s, Store.opened rules (some path) t now = .ok s ∧ s.view = ps) ∧
      (ps = .empty →
        Store.opened rules (some path) t now = .error (.unloaded path (.noProfiles path))) := by
  obtain ⟨s, target, hs, rfl, hholds⟩ := hk
  exact ⟨fun hne => Store.opened_saved hs hne hholds rules now,
    fun hempty => Store.opened_saved_empty hempty hholds rules now⟩

/-- **When edits leave a store that can be opened again.**  Before any edit a store can be opened
where there is no file or an accepted one.  After processes that all succeed, beginning with the
store that the first one opened, it can be opened again exactly if the edits leave a profile, and
then it shows the profiles that they leave. -/
theorem reopened_iff_left (path : Path) (t : FileTree) :
    (∀ (rules : Rulebook) (now : Timestamp), (∀ name ∈ rules.profiles, name ≠ "") →
      (Store.isKept t path = false ∨ ∃ s, (Store.empty (some path) now).refresh t now = .ok s) →
        ∃ s, Store.opened rules (some path) t now = .ok s) ∧
    ∀ (c : EditCall) (cs : List EditCall) (t' : FileTree), succeed? path (c :: cs) t = some t' →
      ∃ s, c.found? path t = some s ∧
        (c.logging.file = none → ∃ rules, c.rules? t = some rules ∧
          Store.opened rules (some path) t c.now = .ok s) ∧
        ∀ (rules : Rulebook) (now : Timestamp),
          (leaves (c :: cs) s.view ≠ .empty →
            ∃ s', Store.opened rules (some path) t' now = .ok s' ∧
              s'.view = leaves (c :: cs) s.view) ∧
          (leaves (c :: cs) s.view = .empty →
            Store.opened rules (some path) t' now = .error (.unloaded path (.noProfiles path))) := by
  refine ⟨fun rules now => Store.exists_opened, fun c cs t' h => ?_⟩
  rw [succeed?] at h
  split at h
  · rename_i hcode
    obtain ⟨store, hfound, -, hkept⟩ := kept_of_code_zero hcode
    have hall := kept_of_all hkept h
    exact ⟨store, hfound, fun hlog => opened_of_found? hlog hfound, opened_of_kept hall⟩
  · cases h

/-- A check is added to a new profile, beside those of the rule book. -/
theorem reopened_after_add :
    let c : EditCall := {
      edit := .add "new" ["EOLCheck"]
      logging := { style := { filter := .standard none } }
      network := .unreachable
      now := .epoch }
    (∃ s, Store.opened .builtin (some "p.json") {} .epoch = .ok s) ∧
      ∃ t', succeed? "p.json" [c] {} = some t' ∧
        ∃ s, Store.opened .builtin (some "p.json") t' .epoch = .ok s := by
  intro c
  obtain ⟨hnone, hrun⟩ := reopened_iff_left "p.json" {}
  have hsucceeds : succeed? "p.json" [c] {} = some (c.conclusion "p.json" {}).tree := by
    have hcode : (c.conclusion "p.json" {}).code = 0 := by decide +kernel
    rw [succeed?, if_pos hcode, succeed?]
  obtain ⟨s, -, -, hagain⟩ := hrun c [] _ hsucceeds
  have hleft : leaves [c] s.view ≠ .empty := by
    intro hempty
    have hnew : (leaves [c] s.view).get? "new" = none := by rw [hempty]; rfl
    simp [leaves, Edit.leaves, c] at hnew
  obtain ⟨s', hs', -⟩ := (hagain .builtin .epoch).1 hleft
  exact ⟨hnone .builtin .epoch (by decide) (Or.inl rfl), _, hsucceeds, s', hs'⟩

/-- The one profile of a file is removed, and then its store cannot be opened any more. -/
theorem not_reopened_after_last_remove :
    ¬ ∀ (path : Path) (t t' : FileTree) (rules : Rulebook) (cs : List EditCall) (now : Timestamp),
      (∀ name ∈ rules.profiles, name ≠ "") →
        (Store.isKept t path = false ∨
          ∃ s, (Store.empty (some path) now).refresh t now = .ok s) →
          succeed? path cs t = some t' → ∃ s, Store.opened rules (some path) t' now = .ok s := by
  intro hall
  let t : FileTree := { nodes := [(["p.json"], .file (Utf8.encode
    "\x7b\"profiles\":\x7b\"a\":\x7b\"name\":\"a\"\x7d\x7d\x7d"))] }
  let c : EditCall := {
    edit := .remove "a"
    logging := { style := { filter := .standard none } }
    network := .unreachable
    now := .epoch }
  have haccepted : ∃ s, (Store.empty (some "p.json") .epoch).refresh t .epoch = .ok s := by
    have hok : ((Store.empty (some "p.json") .epoch).refresh t .epoch).toOption.isSome = true := by
      decide +kernel
    cases hr : (Store.empty (some "p.json") .epoch).refresh t .epoch with
    | ok s => exact ⟨s, rfl⟩
    | error e =>
      rw [hr] at hok
      cases hok
  have hsucceeds : succeed? "p.json" [c] t = some (c.conclusion "p.json" t).tree := by
    have hcode : (c.conclusion "p.json" t).code = 0 := by decide +kernel
    rw [succeed?, if_pos hcode, succeed?]
  obtain ⟨s, hs⟩ := hall "p.json" t _ .builtin [c] .epoch (by decide) (Or.inr haccepted) hsucceeds
  have hfails : (Store.opened .builtin (some "p.json") (c.conclusion "p.json" t).tree
      .epoch).toOption.isSome = false := by decide +kernel
  rw [hs] at hfails
  cases hfails

end EditCall
end MetadataAudit
