import MetadataAudit.Proofs.CommandLine.Editing
import MetadataAudit.Proofs.CommandLine.Opening
import MetadataAudit.Proofs.FileTree.Agreement
import MetadataAudit.Proofs.Store.Adding

/-! # Processes that add checks

A process that adds checks to a profile looks before it writes: until it saves, nothing has changed but
its log (`EditCall.Spared`), and the save is one step that is taken or not (`EditCall.conclusion_of_applied`).
What the log adds is not read by the process unless the log is one of the files it reads
(`EditCall.found?_eq_some_iff_opened`).  So an unknown check anywhere in the list leaves all files as
they were, and a process that succeeds has changed the one profile (`EditCall.added_or_refused`).
-/
namespace MetadataAudit

namespace EditCall

variable {c : EditCall} {path : Path} {t : FileTree} {rules : Rulebook} {store : Store}
  {profile : String} {checks : List String}

/-- The process has changed nothing but its log, and that was added to. -/
structure Spared (c : EditCall) (t u : FileTree) : Prop where
  node (names : List String) (hother : ¬ c.logging.Target t names) : u.node? names = t.node? names
  log (names : List String) (hlog : c.logging.Target t names) (content : Bytes)
    (hn : t.node? names = some (.file content)) :
    ∃ rest, u.node? names = some (.file (content ++ rest))
  tree (hlog : c.logging.file = none) : u = t

theorem Spared.refl (c : EditCall) (t : FileTree) : c.Spared t t where
  node _ _ := rfl
  log _ _ content hn := ⟨[], by rw [List.append_nil]; exact hn⟩
  tree _ := rfl

theorem spared_of_untouched {s u : Session} (hs : Session.Starts c.logging (c.around t) s)
    (hu : s.Untouched u) : c.Spared t u.tree where
  node names hother := (hs.agreeBut_of_untouched hu).node fun hsink => hother (hs.sink.mp hsink)
  log names hlog content hn := by
    have hsink := hs.sink.mpr hlog
    exact hu.log hsink (hs.log hsink hn)
  tree hlog := by
    obtain ⟨he, htree⟩ := hs.tree hlog
    exact (hu.tree he).trans htree

/-! ### What a process finds -/

/-- The log of the process can be written, and not to a file that the process reads. -/
def LogsApart (c : EditCall) (path : Path) (t : FileTree) : Prop :=
  ∀ file, c.logging.file = some file → ∃ u, t.append file [] = .ok u ∧
    ∀ p, p = path ∨ c.rulesFile = some p → u.Avoids p (c.logging.Target t)

theorem start_of_logsApart (h : c.LogsApart path t) :
    ∃ s, Session.start c.logging (c.around t) = .ok s ∧
      ∀ p, p = path ∨ c.rulesFile = some p → s.tree.Avoids p (s.sink = .file ·) := by
  rw [Session.start]
  cases hlog : c.logging.file with
  | none => exact ⟨_, rfl, fun _ _ _ hsink => by cases hsink⟩
  | some file =>
    obtain ⟨u, happend, havoids⟩ := h file hlog
    obtain ⟨target, htarget, hd, rfl, hresolve⟩ := FileTree.append_eq_ok happend
    refine ⟨{ c.around t with
      tree := t.extend target [], style := c.logging.style, sink := .file target }, ?_, ?_⟩
    · have hstart : (c.around t).tree.append file [] = .ok (t.extend target []) := happend
      refine bind_eq_ok_iff.mpr ⟨_, hstart, bind_eq_ok_iff.mpr ⟨target, hresolve, rfl⟩⟩
    · rintro p hp names hsink
      cases hsink
      exact havoids p hp target ⟨file, hlog, htarget⟩

theorem found?_eq_some_iff {s : Session} (hstart : Session.start c.logging (c.around t) = .ok s) :
    c.found? path t = some store ↔
      ∃ rules, ((Command.openBoth (c.invocation path) []).run s).1 = .ok (rules, store) := by
  rw [found?, hstart]
  dsimp only
  constructor
  · intro h
    split at h
    · rename_i rules _ hboth
      cases h
      exact ⟨rules, hboth⟩
    · cases h
  · rintro ⟨rules, hboth⟩
    rw [hboth]

/-- A process finds the store that can be opened from the files as they were before it, if its log is
kept apart from them. -/
theorem found?_eq_some_iff_opened (hapart : c.LogsApart path t) (hrules : c.rules? t = some rules) :
    c.found? path t = some store ↔ Store.opened rules (some path) t c.now = .ok store := by
  obtain ⟨s, hstart, havoids⟩ := start_of_logsApart hapart
  have hs := Session.starts_of_start hstart
  have hu := Command.isQuiet_openRules [] c.rulesFile s
  have hbook : c.rules? s.tree = some rules := by
    rw [rules?] at hrules ⊢
    cases hfile : c.rulesFile with
    | none =>
      rw [hfile] at hrules
      exact hrules
    | some file =>
      rw [hfile, toOption_eq_some_iff] at hrules
      rw [toOption_eq_some_iff]
      exact (hs.agree.load_eq_ok_iff (havoids file (Or.inr hfile))).mp hrules
  -- the rule book may have been told of in the log by the time the store is opened
  have hlater := hs.agreeBut_of_untouched hu
  have hthere : ∀ place, s.sink = .file place → (s.tree.node? place).isSome = true := by
    intro place hsink
    obtain ⟨content, hfile⟩ := hs.logThere place hsink
    rw [hfile]
    rfl
  have havoids' := (hu.agreeBut hs.logThere).avoids hthere (havoids path (Or.inl rfl))
  rw [found?_eq_some_iff hstart]
  simp only [openBoth_eq_ok_iff, hbook, Option.some.injEq, exists_eq_left']
  rw [hu.now, hs.now]
  exact (hlater.opened_eq_ok_iff havoids').symm

theorem start_of_found? (h : c.found? path t = some store) :
    ∃ s rules, Session.start c.logging (c.around t) = .ok s ∧
      ((Command.openBoth (c.invocation path) []).run s).1 = .ok (rules, store) := by
  cases hstart : Session.start c.logging (c.around t) with
  | error e =>
    rw [found?, hstart] at h
    cases h
  | ok s =>
    obtain ⟨rules, hboth⟩ := (found?_eq_some_iff hstart).mp h
    exact ⟨s, rules, rfl, hboth⟩

theorem sound_of_found? (h : c.found? path t = some store) :
    store.Sound ∧ store.path = some path := by
  obtain ⟨s, rules, -, hboth⟩ := start_of_found? h
  exact Store.sound_opened (openBoth_eq_ok_iff.mp hboth).2

/-! ### What a process does with it -/

section Edit

variable {s : Session} {edit : Edit} {edited : Edited}

theorem makeEdit_of_refused {cause : EditError} (h : edit.apply store s.now = .error cause) :
    (Command.makeEdit edit store).run s = (.error (.edit cause), s) := by
  have happly : (Work.attempt fun s => (edit.apply store s.now).mapError CommandError.edit).run s =
      (.error (.edit cause), s) := by
    refine Prod.ext ?_ rfl
    exact mapError_eq_error_iff.mpr ⟨cause, h, rfl⟩
  exact Work.run_bind_of_error happly

/-- An edit that is not refused is told to the log and saved, and nothing else can fail. -/
theorem makeEdit_of_applied (h : edit.apply store s.now = .ok edited) :
    ∃ x, s.Untouched x ∧
      (∀ cause u, edited.store.save x.tree = (.error cause, u) →
        (Command.makeEdit edit store).run s =
          (.error (.edit (.notSaved cause)), { x with tree := u })) ∧
      (∀ u, edited.store.save x.tree = (.ok (), u) →
        ((Command.makeEdit edit store).run s).1 = .ok ()) := by
  have happly : (Work.attempt fun s => (edit.apply store s.now).mapError CommandError.edit).run s =
      (.ok edited, s) := Work.attempt_eq_ok_iff.mpr ⟨mapError_eq_ok_iff.mpr h, rfl⟩
  have hrest : (Command.makeEdit edit store).run s = _ := Work.run_bind_of_ok happly
  refine ⟨s.write (Log.lines s.style (Journal.within [] edited.events)), .write s _, ?_, ?_⟩
  · intro cause u hsave
    rw [hrest]
    exact (Work.run_bind_of_ok rfl).trans (Work.run_bind_of_error (Work.run_save_of_error hsave))
  · intro u hsave
    rw [hrest]
    exact Work.fst_bind_eq_ok_iff.mpr ⟨(), rfl,
      Work.fst_bind_eq_ok_iff.mpr ⟨(), Work.run_save_of_ok hsave, rfl⟩⟩

end Edit

/-- A process that finds no store fails. -/
theorem conclusion_of_not_found (h : c.found? path t = none) :
    (c.conclusion path t).code = 1 ∧ c.Spared t (c.conclusion path t).tree := by
  cases hstart : Session.start c.logging (c.around t) with
  | error e =>
    obtain ⟨hcode, htree⟩ : _ ∧ (c.conclusion path t).tree = t := conclusion_of_start_eq_error hstart
    rw [htree]
    exact ⟨hcode, .refl c t⟩
  | ok s =>
    have hquiet := Command.isQuiet_openBoth (c.invocation path) [] s
    cases hboth : (Command.openBoth (c.invocation path) []).run s with
    | mk result v =>
      rw [hboth] at hquiet
      cases result with
      | ok out =>
        have hfound := (found?_eq_some_iff hstart).mpr ⟨out.1, congrArg Prod.fst hboth⟩
        cases h.symm.trans hfound
      | error e =>
        have hrun : (Command.run (c.invocation path)).run s = (.error e, v) :=
          Work.run_bind_of_error hboth
        rw [conclusion_of_start_eq_ok hstart, hrun]
        exact ⟨rfl, spared_of_untouched (Session.starts_of_start hstart) hquiet⟩

/-- A process that finds a store goes on to its edit, before which nothing but the log has changed. -/
theorem conclusion_of_found (h : c.found? path t = some store) :
    ∃ v, v.now = c.now ∧ (∀ u, v.Untouched u → c.Spared t u.tree) ∧
      (∀ e u, (Command.makeEdit c.edit store).run v = (.error e, u) →
        (c.conclusion path t).code = 1 ∧ (c.conclusion path t).tree = u.tree) ∧
      (∀ u, (Command.makeEdit c.edit store).run v = (.ok (), u) →
        (c.conclusion path t).code = 0) := by
  obtain ⟨s, rules, hstart, hboth⟩ := start_of_found? h
  have hs := Session.starts_of_start hstart
  have hquiet := Command.isQuiet_openBoth (c.invocation path) [] s
  have hrest : (Command.run (c.invocation path)).run s = _ :=
    Work.run_bind_of_ok (Prod.ext hboth rfl)
  refine ⟨_, hquiet.now.trans hs.now, fun u hu => spared_of_untouched hs (hquiet.trans hu), ?_, ?_⟩
  · intro e u hedit
    have hrun := hrest.trans (Work.run_bind_of_error hedit)
    rw [conclusion_of_start_eq_ok hstart, hrun]
    exact ⟨rfl, rfl⟩
  · intro u hedit
    have hrun := hrest.trans (Work.run_bind_of_ok hedit)
    rw [conclusion_of_start_eq_ok hstart, hrun]
    rfl

theorem conclusion_of_refused {cause : EditError} (h : c.found? path t = some store)
    (hrefused : c.edit.apply store c.now = .error cause) :
    (c.conclusion path t).code = 1 ∧ c.Spared t (c.conclusion path t).tree := by
  obtain ⟨v, hnow, hspared, hfails, -⟩ := conclusion_of_found h
  obtain ⟨hcode, htree⟩ := hfails _ _ (makeEdit_of_refused (hnow ▸ hrefused))
  rw [htree]
  exact ⟨hcode, hspared v (.refl v)⟩

/-- **How a process ends** whose edit is not refused: the save decides. -/
theorem conclusion_of_applied {edited : Edited} (h : c.found? path t = some store)
    (happlied : c.edit.apply store c.now = .ok edited) :
    ∃ u, c.Spared t u ∧
      ((c.conclusion path t).code = 0 ↔ (edited.store.save u).1 = .ok ()) ∧
      ((c.conclusion path t).code ≠ 0 → ∃ cause,
        edited.store.save u = (.error cause, (c.conclusion path t).tree)) := by
  obtain ⟨v, hnow, hspared, hfails, hends⟩ := conclusion_of_found h
  obtain ⟨x, hx, hunsaved, hsaved⟩ := makeEdit_of_applied (hnow ▸ happlied)
  refine ⟨x.tree, hspared x hx, ?_⟩
  cases hsave : edited.store.save x.tree with
  | mk result u =>
    cases result with
    | ok =>
      have hcode := hends _ (Prod.ext (hsaved u hsave) rfl)
      exact ⟨iff_of_true hcode rfl, fun hne => absurd hcode hne⟩
    | error cause =>
      obtain ⟨hcode, htree⟩ := hfails _ _ (hunsaved cause u hsave)
      refine ⟨iff_of_false (by rw [hcode]; decide) nofun, fun _ => ⟨cause, ?_⟩⟩
      rw [htree]

/-- A process that fails leaves all files as they were but its log, even if it was saving. -/
theorem files_of_code_ne_zero (h : (c.conclusion path t).code ≠ 0) {names : List String}
    (hlog : ¬ c.logging.Target t names) (content : Bytes) :
    (c.conclusion path t).tree.node? names = some (.file content) ↔
      t.node? names = some (.file content) := by
  cases hfound : c.found? path t with
  | none => rw [(conclusion_of_not_found hfound).2.node names hlog]
  | some store =>
    cases happly : c.edit.apply store c.now with
    | error cause => rw [(conclusion_of_refused hfound happly).2.node names hlog]
    | ok edited =>
      obtain ⟨u, hspared, -, hsave⟩ := conclusion_of_applied hfound happly
      obtain ⟨cause, hunsaved⟩ := hsave h
      obtain ⟨hs, hpath⟩ := sound_of_found? hfound
      have hpath' : edited.store.path = some path := (Edit.view_apply hs happly).2.1.trans hpath
      rw [Store.save, Store.saveOn, hpath'] at hunsaved
      have hgrows := Store.grows_of_writeOn_eq_error hunsaved
      rw [hgrows.files names List.not_mem_nil content, hspared.node names hlog]

/-- Whether or not a process succeeds, all files are as they were but its log and the one that it saved. -/
theorem files_of_conclusion {names : List String} (hlog : ¬ c.logging.Target t names)
    (hpath : (c.conclusion path t).code = 0 → (c.conclusion path t).tree.resolve path ≠ .ok names)
    (content : Bytes) :
    (c.conclusion path t).tree.node? names = some (.file content) ↔
      t.node? names = some (.file content) := by
  by_cases hcode : (c.conclusion path t).code = 0
  · obtain ⟨s, v, u, rules, store, hstart, hboth, hedit, htree⟩ := stages_of_code_zero hcode
    have hs := Session.starts_of_start hstart
    have hquiet := Command.isQuiet_openBoth (c.invocation path) [] s
    rw [hboth] at hquiet
    obtain ⟨hsound, hkept⟩ := Store.sound_opened (openBoth_eq_ok_iff.mp (congrArg Prod.fst hboth)).2
    obtain ⟨after, target, -, -, hholds, hframe⟩ :=
      makeEdit_eq_ok (hquiet.logThere hs.logThere) hsound hkept hedit
    have hsink : s.sink ≠ .file names := fun h => hlog (hs.sink.mp h)
    have hne : names ≠ target := by
      rintro rfl
      exact hpath hcode (htree ▸ hholds.resolve)
    rw [htree, hframe names hne (hquiet.sink ▸ hsink), (hs.agreeBut_of_untouched hquiet).node hsink]
    exact Iff.rfl
  · exact files_of_code_ne_zero hcode hlog content

/-- What a process that added checks has saved can be loaded, and shows what was added. -/
theorem reloaded_of_code_zero (hadd : c.edit = .add profile checks)
    (h : (c.conclusion path t).code = 0) :
    ∃ s, c.found? path t = some s ∧ ∀ now, ∃ fresh,
      (Store.empty (some path) now).refresh (c.conclusion path t).tree now = .ok fresh ∧
        Edit.Adds profile checks s.view fresh.view := by
  obtain ⟨s, hfound, -, after, target, hs, hview, hholds⟩ := kept_of_code_zero h
  have hadds := Edit.adds_leaves (sound_of_found? hfound).1 profile checks c.now
  rw [hadd] at hview
  rw [← hview] at hadds
  refine ⟨s, hfound, fun now => ?_⟩
  have hne : after.view ≠ .empty := by
    obtain ⟨p, hp, -⟩ := hadds.named
    intro hempty
    rw [hempty] at hp
    cases hp
  have hpath : (Store.empty (some path) now).path = some path := rfl
  obtain ⟨fresh, hfresh, hshows, -⟩ := Store.refresh_saved hs hne hpath hholds.read now
  exact ⟨fresh, hfresh, hshows ▸ hadds⟩

/-- **Checks are added to one profile, or nothing is done.**  A process that is to add checks to a
profile fails if it finds no store, if one of the checks is unknown, or if the profile has no name, and
then it has changed nothing but its log.  Otherwise it ends well exactly if the store with its edit can be
saved; if not, then no file is changed, and if so, then only the one that is saved.  That can be loaded
again at any time and shows the profiles that the process found, with the checks added to the one.  If its
log is kept apart from what it reads, then what it finds are the profiles of the file that was there, or
one without checks for each table of the rule book if there was none. -/
theorem added_or_refused (hadd : c.edit = .add profile checks) (path : Path) (t : FileTree) :
    (c.found? path t = none ∨ (∃ n ∈ checks, Kind.ofName? n = none) ∨ profile = "" →
      (c.conclusion path t).code = 1 ∧ c.Spared t (c.conclusion path t).tree) ∧
    (∀ s, c.found? path t = some s → (∀ n ∈ checks, Kind.ofName? n ≠ none) → profile ≠ "" →
      ∃ edited u, c.edit.apply s c.now = .ok edited ∧ c.Spared t u ∧
        ((c.conclusion path t).code = 0 ↔ (edited.store.save u).1 = .ok ())) ∧
    (∀ names, ¬ c.logging.Target t names →
      ((c.conclusion path t).code = 0 → (c.conclusion path t).tree.resolve path ≠ .ok names) →
        ∀ content, (c.conclusion path t).tree.node? names = some (.file content) ↔
          t.node? names = some (.file content)) ∧
    ((c.conclusion path t).code = 0 → ∃ s, c.found? path t = some s ∧ ∀ now, ∃ fresh,
      (Store.empty (some path) now).refresh (c.conclusion path t).tree now = .ok fresh ∧
        Edit.Adds profile checks s.view fresh.view) ∧
    (c.LogsApart path t → ∀ rules, c.rules? t = some rules →
      (Store.isKept t path = true → ∀ s, c.found? path t = some s ↔
        (Store.empty (some path) c.now).refresh t c.now = .ok s) ∧
      (Store.isKept t path = false →
        ((∃ s, c.found? path t = some s) ↔ ∀ name ∈ rules.profiles, name ≠ "") ∧
        ∀ s, c.found? path t = some s →
          s.view = rules.tables.map fun name _ => ⟨name, c.now, .empty⟩)) := by
  refine ⟨?_, ?_, fun names hlog => files_of_conclusion hlog, reloaded_of_code_zero hadd, ?_⟩
  · intro hbad
    cases hfound : c.found? path t with
    | none => exact conclusion_of_not_found hfound
    | some s =>
      cases happly : c.edit.apply s c.now with
      | error cause => exact conclusion_of_refused hfound happly
      | ok edited =>
        rw [hadd] at happly
        obtain ⟨hknown, hname⟩ := (Edit.exists_apply_add_iff (sound_of_found? hfound).1).mp
          ⟨edited, happly⟩
        rcases hbad with hnone | ⟨n, hn, hunknown⟩ | hempty
        · cases hnone.symm.trans hfound
        · exact absurd hunknown (hknown n hn)
        · exact absurd hempty hname
  · intro s hfound hknown hname
    obtain ⟨edited, happly⟩ : ∃ edited, (Edit.add profile checks).apply s c.now = .ok edited :=
      (Edit.exists_apply_add_iff (sound_of_found? hfound).1).mpr ⟨hknown, hname⟩
    rw [← hadd] at happly
    obtain ⟨u, hspared, hcode, -⟩ := conclusion_of_applied hfound happly
    exact ⟨edited, u, happly, hspared, hcode⟩
  · intro hapart rules hrules
    have hfound (s : Store) : c.found? path t = some s ↔
        Store.opened rules (some path) t c.now = .ok s := found?_eq_some_iff_opened hapart hrules
    refine ⟨fun hkept s => (hfound s).trans (Store.opened_eq_ok_iff_of_isKept hkept), fun hno => ?_⟩
    have hseeded : Store.NotKept t (some path) := by
      rintro p ⟨⟩
      exact hno
    simp only [hfound, Store.opened_of_notKept hseeded]
    exact ⟨Store.exists_seeded_iff, fun s => Store.view_seeded⟩

/-- A check that is listed with a description of its own and one that is named twice; then an unknown
one behind one that is known. -/
theorem added_or_refused_own_description :
    let t : FileTree := { nodes := [(["p.json"], .file (Utf8.encode
      ("\x7b\"profiles\":\x7b\"a\":\x7b\"name\":\"a\",\"validations\":[" ++
        "\x7b\"name\":\"EOLCheck\",\"description\":\"ours\"\x7d]\x7d\x7d\x7d")))] }
    let c (checks : List String) : EditCall := {
      edit := .add "a" checks
      logging := { style := { filter := .standard none } }
      network := .unreachable
      now := .epoch }
    let twice := (c ["UnicodeCheck", "EOLCheck", "UnicodeCheck"]).conclusion "p.json" t
    let unknown := (c ["UnicodeCheck", "Unicode"]).conclusion "p.json" t
    (twice.code = 0 ∧ ∃ fresh p,
      (Store.empty (some "p.json") .epoch).refresh twice.tree .epoch = .ok fresh ∧
        fresh.view.get? "a" = some p ∧ ⟨"EOLCheck", "ours"⟩ ∈ p.validations ∧
          Kind.replacement.toValidation ∈ p.validations) ∧
    unknown.code = 1 ∧ unknown.tree = t := by
  intro t c twice unknown
  have hcode : twice.code = 0 := by decide +kernel
  have hlisted : ((c ["UnicodeCheck", "EOLCheck", "UnicodeCheck"]).found? "p.json" t).map
      (fun s => Edit.listed s.view "a") = some [⟨"EOLCheck", "ours"⟩] := by decide +kernel
  obtain ⟨-, -, -, hreloaded, -⟩ := added_or_refused
    (c := c ["UnicodeCheck", "EOLCheck", "UnicodeCheck"]) rfl "p.json" t
  obtain ⟨hrefused, -⟩ := added_or_refused (c := c ["UnicodeCheck", "Unicode"]) rfl "p.json" t
  obtain ⟨s, hfound, hagain⟩ := hreloaded hcode
  obtain ⟨fresh, hfresh, hadds⟩ := hagain .epoch
  obtain ⟨p, hp, -, -, hmem⟩ := hadds.named
  rw [hfound, Option.map_some, Option.some.injEq] at hlisted
  rw [hlisted] at hmem
  obtain ⟨hfails, hspared⟩ := hrefused (Or.inr (Or.inl ⟨"Unicode", by decide, by decide⟩))
  refine ⟨⟨hcode, fresh, p, hfresh, hp, (hmem _).mpr (Or.inl List.mem_cons_self),
    (hmem _).mpr (Or.inr ⟨by decide, .replacement, by decide, rfl⟩)⟩, hfails, hspared.tree rfl⟩

end EditCall
end MetadataAudit
