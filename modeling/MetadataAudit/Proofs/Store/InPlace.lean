import MetadataAudit.Proofs.Store.Run
import MetadataAudit.Proofs.Store.Saving
import MetadataAudit.Store.InPlace

/-! # What fails in place changes nothing

An operation that is made in place does what it does to a store at once (`Change.run_rename`,
`Change.run_refresh` and their like), so a run in place leads to the same stores (`World.store_run`).
That is so although an entry is taken out before it is known to be there, which is nothing when it
is not, and although the profiles of a document become objects one after another, which can not fail
any more when the document was accepted.  An operation that fails therefore leaves the store, its
objects and the files as they were (`World.unchanged_of_failure`).
-/
namespace MetadataAudit

/-- What comes of a world when something is done to its store as a whole or not at all. -/
def World.settle (w : World) : Except ProfileError Store → Except ProfileError Unit × World
  | .ok store => (.ok (), { w with store })
  | .error e => (.error e, w)

namespace Change

variable {α : Type} {w v : World} {now : Timestamp} {h : Handle} {name : String}

@[simp] theorem run_pure (a : α) (w : World) : (pure a : Change α).run w = (.ok a, w) := rfl

@[simp] theorem run_look (f : Store → α) (w : World) : (look f).run w = (.ok (f w.store), w) := rfl

@[simp] theorem run_write (f : Store → Store) (w : World) :
    (write f).run w = (.ok (), { w with store := f w.store }) := rfl

@[simp] theorem run_consult (f : FileTree → Except ProfileError α) (w : World) :
    (consult f).run w = (f w.files, w) := rfl

@[simp] theorem run_accept (x : Except ProfileError α) (w : World) : (accept x).run w = (x, w) := rfl

@[simp] theorem run_allocate (p : Profile) (w : World) : (allocate p).run w =
    (.ok w.store.objects.length, { w with store := { w.store with
      objects := w.store.objects ++ [p] } }) := rfl

@[simp] theorem run_takeOut (name : String) (w : World) : (takeOut name).run w =
    (.ok (w.store.find? name), { w with store := { w.store with
      index := w.store.index.erase name } }) := rfl

@[simp] theorem run_putIn (name : String) (h : Handle) (w : World) : (putIn name h).run w =
    (.ok (), { w with store := { w.store with index := w.store.index.insert name h } }) := rfl

@[simp] theorem run_touch (now : Timestamp) (w : World) :
    (touch now).run w = (.ok (), { w with store := { w.store with lastUpdate := now } }) := rfl

@[simp] theorem run_stamp (h : Handle) (now : Timestamp) (w : World) : (stamp h now).run w =
    (.ok (), { w with store := w.store.modify h fun p => { p with lastUpdate := now } }) := rfl

theorem run_set (p : Profile) (now : Timestamp) (w : World) :
    (set p now).run w = w.settle (w.store.set p now) := by
  rw [set, Store.set]
  split
  · rfl
  · simp [run_bind, World.settle]

/-- Nothing is taken out where nothing is. -/
theorem takeOut_none (h : w.store.find? name = none) : (takeOut name).run w = (.ok none, w) := by
  rw [run_takeOut, h, Dictionary.erase_eq_self h]

theorem run_remove (name : String) (now : Timestamp) (w : World) :
    (remove name now).run w = (.ok (w.store.remove name now).1,
      { w with store := (w.store.remove name now).2 }) := by
  rw [remove, run_bind, Store.remove]
  cases hf : w.store.find? name with
  | none =>
    rw [takeOut_none hf]
    rfl
  | some h =>
    rw [run_takeOut, hf]
    rfl

/-- **A profile is renamed at once or not at all.** -/
theorem run_rename (old new : String) (now : Timestamp) (w : World) :
    (rename old new now).run w = w.settle (w.store.rename old new now) := by
  rw [rename, Store.rename]
  by_cases hempty : new = ""
  · rw [if_pos hempty, if_pos hempty]
    rfl
  rw [if_neg hempty, if_neg hempty]
  by_cases hsame : old = new
  · rw [if_pos hsame, if_pos hsame, run_bind, run_look]
    cases w.store.index.contains old <;> rfl
  rw [if_neg hsame, if_neg hsame, run_bind, run_look]
  cases w.store.index.contains new with
  | true => rfl
  | false =>
    cases hf : w.store.find? old with
    | none =>
      -- the entry under `old` is taken out before it is known to be there
      simp only [Bool.false_eq_true, if_false, run_bind, takeOut_none hf]
      rfl
    | some h =>
      have hrename (s : Store) : ((s.modify h fun p => { p with name := new }).modify h
          fun p => { p with lastUpdate := now }) = s.modify h (·.rename new now) :=
        Store.modify_modify s h _ _
      simp only [Bool.false_eq_true, if_false, run_bind, run_takeOut, hf, run_write, run_stamp,
        hrename]
      rfl

theorem run_addValidation (h : Handle) (name description : String) (now : Timestamp) (w : World) :
    (addValidation h name description now).run w =
      (.ok (w.store.addValidation h name description now).1,
        { w with store := (w.store.addValidation h name description now).2 }) := by
  rw [addValidation, run_bind, run_look]
  cases hp : w.store.object? h with
  | none =>
    rw [Store.addValidation, hp]
    rfl
  | some p =>
    simp only [Store.addValidation, hp]
    cases hc : p.checks.contains name with
    | true =>
      have hadd : p.addValidation name description now = (false, p) := by
        rw [Profile.addValidation, if_pos hc]
      have hkept : (w.store.modify h fun p => (p.addValidation name description now).2) =
          w.store := Store.modify_eq_self fun q hq => by
        obtain rfl := Option.some.inj (hp.symm.trans hq)
        rw [hadd]
      rw [hkept, hadd]
      rfl
    | false =>
      have hadd : p.addValidation name description now =
          (true, { p with checks := p.checks.insert name description, lastUpdate := now }) := by
        rw [Profile.addValidation, hc, if_neg Bool.false_ne_true]
      have hboth : (w.store.modify h fun p => (p.addValidation name description now).2) =
          (w.store.modify h fun p => { p with checks := p.checks.insert name description }).modify h
            fun p => { p with lastUpdate := now } := by
        rw [Store.modify_modify]
        refine Store.modify_congr fun q hq => ?_
        obtain rfl := Option.some.inj (hp.symm.trans hq)
        rw [hadd]
        rfl
      rw [hboth, hadd]
      rfl

theorem run_setValidations (h : Handle) (vs : List Validation) (now : Timestamp) (w : World) :
    (setValidations h vs now).run w = (.ok (), { w with store := w.store.setValidations h vs now }) := by
  rw [setValidations, run_bind, run_write]
  simp only [run_stamp, Store.modify_modify]
  rfl

/-- Profiles with names become objects one by one, without fail. -/
theorem run_allocateAll (ds : List ProfileDocument) (hall : ∀ d ∈ ds, d.name ≠ "") (w : World) :
    (allocateAll ds).run w =
      (.ok (.ofList (((ds.map Profile.described).zipIdx w.store.objects.length).map
        fun (p, h) => (p.name, h))),
        { w with store := { w.store with
          objects := w.store.objects ++ ds.map Profile.described } }) := by
  rw [allocateAll, Dictionary.ofList]
  generalize Dictionary.empty = index
  induction ds generalizing w index with
  | nil => simp
  | cons d ds ih =>
    rw [List.forall_mem_cons] at hall
    have hmade : Profile.ofDocument d = .ok (.described d) :=
      Profile.ofDocument_eq_ok_iff.mpr ⟨hall.1, rfl⟩
    rw [List.foldlM_cons, run_bind]
    simp only [run_bind, run_accept, hmade, run_allocate, run_pure, ih hall.2]
    simp

/-- **A document is taken over at once or not at all**: one that was accepted has profiles with names
only, so none of them fails to become an object after others have. -/
theorem run_refresh (now : Timestamp) (w : World) :
    (refresh now).run w = w.settle (w.store.refresh w.files now) := by
  rw [refresh, run_bind, run_look, Store.refresh]
  cases hpath : w.store.path with
  | none => rfl
  | some path =>
    simp only [run_bind, run_consult]
    cases hload : StoreDocument.load w.files path now with
    | error e => rfl
    | ok d =>
      obtain ⟨-, -, -, -, hnamed⟩ := StoreDocument.load_eq_ok_iff.mp hload
      simp only [run_allocateAll _ hnamed.1]
      have hreplace := Store.replace_eq_ok_iff (s := w.store).mpr ⟨hnamed.1, rfl⟩
      have hbind : (.ok d : Except ProfileError StoreDocument) >>= w.store.replace = w.store.replace d := rfl
      rw [hbind, hreplace]
      rfl

theorem run_save (w : World) : save.run w =
    ((w.store.save w.files).1, { w with files := (w.store.save w.files).2 }) := by
  rw [save, run_bind, run_look, Store.save, Store.saveOn]
  cases w.store.path <;> rfl

/-- Others make of the files what they are next. -/
def await (t : FileTree) : Change Unit := fun w => (.ok (), { w with files := t })

@[simp] theorem run_await (t : FileTree) (w : World) :
    (await t).run w = (.ok (), { w with files := t }) := rfl

end Change

namespace Store.Operation

/-- An operation in place.  A file tree that comes with it is what others have made of the files
in the meantime. -/
def inPlace (now : Timestamp) : Operation → Change Unit
  | .set draft => do
    let p ← Change.accept draft.build
    Change.set p now
  | .hold _ => return ()
  | .remove name => do
    let _ ← Change.remove name now
  | .rename old new => Change.rename old new now
  | .refresh t => do
    Change.await t
    Change.refresh now
  | .save t => do
    Change.await t
    Change.save
  | .addValidation h check description => do
    let _ ← Change.addValidation h check description now
  | .setValidations h vs => Change.setValidations h vs now

end Store.Operation

namespace World

open Store (Operation)

variable {w v : World} {x : Except ProfileError Store} {e : ProfileError} {now : Timestamp}

/-- The world after an operation, whether it succeeds or fails. -/
def after (w : World) (now : Timestamp) (o : Operation) : World :=
  ((o.inPlace now).run w).2

/-- The world after operations, each at its time. -/
def run (w : World) (ops : List (Timestamp × Operation)) : World :=
  ops.foldl (fun w o => w.after o.1 o.2) w

theorem eq_of_settle_eq_error (h : w.settle x = (.error e, v)) : v = w := by
  cases x with
  | ok s => cases h
  | error e' => exact (congrArg Prod.snd h).symm

theorem store_settle (w : World) (x : Except ProfileError Store) :
    (w.settle x).2.store = x.toOption.getD w.store := by
  cases x <;> rfl

/-- **One operation in place** makes of the store what the operation at once makes of it. -/
theorem store_after (w : World) (now : Timestamp) (o : Operation) :
    (w.after now o).store = w.store.after now o := by
  rw [after, Store.after]
  cases o with
  | set draft =>
    rw [Operation.inPlace, run_bind, Change.run_accept, Store.perform]
    cases draft.build with
    | error e => rfl
    | ok p =>
      simp only [Change.run_set, store_settle]
      rfl
  | hold name => rfl
  | remove name =>
    rw [Operation.inPlace, run_bind, Change.run_remove]
    rfl
  | rename old new =>
    rw [Operation.inPlace, Change.run_rename, store_settle, Store.perform]
  | refresh t =>
    rw [Operation.inPlace, run_bind, Change.run_await]
    simp only [Change.run_refresh, store_settle, Store.perform]
  | save t =>
    rw [Operation.inPlace, run_bind, Change.run_await]
    simp only [Change.run_save, Store.perform]
    cases (w.store.save t).1 <;> rfl
  | addValidation h check description =>
    rw [Operation.inPlace, run_bind, Change.run_addValidation]
    rfl
  | setValidations h vs =>
    rw [Operation.inPlace, Change.run_setValidations]
    rfl

/-- **A run in place** leads to the stores to which the operations lead at once. -/
theorem store_run (w : World) (ops : List (Timestamp × Operation)) :
    (w.run ops).store = w.store.run ops := by
  induction ops generalizing w with
  | nil => rfl
  | cons o ops ih =>
    have hstep := ih (w.after o.1 o.2)
    rw [store_after] at hstep
    exact hstep

/-- A validation that is not added is not written either. -/
theorem eq_of_run_addValidation {h : Handle} {check description : String}
    (hadd : (Change.addValidation h check description now).run w = (.ok false, v)) : v = w := by
  rw [Change.addValidation, run_bind, Change.run_look] at hadd
  cases hp : w.store.object? h with
  | none =>
    rw [hp] at hadd
    exact (congrArg Prod.snd hadd).symm
  | some p =>
    simp only [hp] at hadd
    split at hadd
    · exact (congrArg Prod.snd hadd).symm
    · cases hadd

/-- A store that says it has no path has none, and so it has not touched the files. -/
theorem eq_of_run_save (h : Change.save.run w = (.error .pathNotConfigured, v)) : v = w := by
  rw [Change.run_save, Store.save, Store.saveOn] at h
  cases hpath : w.store.path with
  | none =>
    rw [hpath] at h
    exact (congrArg Prod.snd h).symm
  | some path =>
    rw [hpath] at h
    exact absurd (congrArg Prod.fst h) (Store.writeOn_ne _ _ _ _)

/-- **What fails changes nothing.**  Whatever was done in place to a store that began empty, and
whatever the files are by now: a profile that can not be made or stored, a name that is not changed
or not removed, a validation that is there already, a document that is not taken over and a store
without a path that is not saved leave the store, every object and all files as they were.  So does a
profile that is renamed to the name it has, which succeeds. -/
theorem unchanged_of_failure (path : Option Path) (start : Timestamp) (files found : FileTree)
    (ops : List (Timestamp × Operation)) (now : Timestamp) :
    let w : World := { run ⟨.empty path start, files⟩ ops with files := found }
    (∀ draft e v, ((Operation.set draft).inPlace now).run w = (.error e, v) → v = w) ∧
    (∀ old new e v, (Change.rename old new now).run w = (.error e, v) → v = w) ∧
    (∀ name v, (Change.remove name now).run w = (.ok none, v) → v = w) ∧
    (∀ h check description v,
      (Change.addValidation h check description now).run w = (.ok false, v) → v = w) ∧
    (∀ e v, (Change.refresh now).run w = (.error e, v) → v = w) ∧
    (∀ v, Change.save.run w = (.error .pathNotConfigured, v) → v = w) ∧
    ∀ name h, w.store.find? name = some h → (Change.rename name name now).run w = (.ok (), w) := by
  intro w
  have hsound : w.store.Sound := by
    have hstore : w.store = (Store.empty path start).run ops := store_run _ _
    rw [hstore]
    exact (Store.sound_empty path start).run ops
  refine ⟨?_, ?_, ?_, ?_, ?_, fun v => eq_of_run_save, ?_⟩
  · intro draft e v h
    rw [Operation.inPlace, run_bind, Change.run_accept] at h
    cases hmade : draft.build with
    | error e' =>
      rw [hmade] at h
      exact (congrArg Prod.snd h).symm
    | ok p =>
      rw [hmade] at h
      exact eq_of_settle_eq_error ((Change.run_set p now w).symm.trans h)
  · intro old new e v h
    exact eq_of_settle_eq_error ((Change.run_rename old new now w).symm.trans h)
  · intro name v h
    rw [Change.run_remove, Store.remove] at h
    cases hf : w.store.find? name with
    | none =>
      rw [hf] at h
      exact (congrArg Prod.snd h).symm
    | some k =>
      rw [hf] at h
      cases h
  · exact fun h check description v => eq_of_run_addValidation
  · intro e v h
    exact eq_of_settle_eq_error ((Change.run_refresh now w).symm.trans h)
  · intro name h hf
    have hthere : w.store.index.contains name = true :=
      Dictionary.contains_eq_true_iff.mpr ⟨h, hf⟩
    rw [Change.run_rename, Store.rename, if_neg (hsound.nonempty hf), if_pos rfl, if_pos hthere]
    rfl

end World
end MetadataAudit
