import MetadataAudit.Proofs.Store.Loading

/-! # Runs of a store

What callers may do with a store, one step after another.  A profile is made outside of it, as new
or from a document, and may be edited there before it is stored.  Handles outlive what they were
taken from: a step through a handle may name any number, whether its object is stored under the name
it was got by, under another one, or no longer.  A file tree is given anew with each step that uses
one, so anything may have happened to the files in between.

Every step keeps stores sound (`Sound.after`), hence every run does (`Sound.run`).
-/
namespace MetadataAudit

/-- How a profile comes to be before a store takes it. -/
inductive Draft where
  | create (name : String) (vs : List Validation) (now : Timestamp)
  | ofDocument (d : ProfileDocument)
  | addValidation (draft : Draft) (check description : String) (now : Timestamp)
  | setValidations (draft : Draft) (vs : List Validation) (now : Timestamp)

namespace Draft

/-- The finished profile. -/
def build : Draft → Except ProfileError Profile
  | create name vs now => Profile.create name vs now
  | ofDocument d => Profile.ofDocument d
  | addValidation draft check description now =>
    draft.build.map fun p => (p.addValidation check description now).2
  | setValidations draft vs now => draft.build.map (·.setValidations vs now)

/-- No profile is finished without a name. -/
theorem name_of_build {draft : Draft} {p : Profile} (hb : draft.build = .ok p) : p.name ≠ "" := by
  induction draft generalizing p with
  | create name vs now =>
    obtain ⟨hname, rfl⟩ := (Profile.ofDocument_eq_ok_iff (d := ⟨name, now, vs⟩)).mp hb
    exact hname
  | ofDocument d =>
    obtain ⟨hname, rfl⟩ := Profile.ofDocument_eq_ok_iff.mp hb
    exact hname
  | addValidation draft check description now ih =>
    obtain ⟨q, hq, rfl⟩ := map_eq_ok_iff.mp hb
    exact Store.name_addValidation q check description now ▸ ih hq
  | setValidations draft vs now ih =>
    obtain ⟨q, hq, rfl⟩ := map_eq_ok_iff.mp hb
    have hname := ih hq
    exact hname

end Draft

/-- The validations of a profile strictly ascend by name. -/
theorem Profile.validations_ascending (p : Profile) :
    (p.validations.map Validation.name).Pairwise (· < ·) := by
  rw [Profile.validations, List.map_map]
  exact List.pairwise_map.mpr p.checks.ascending

namespace Store

/-- What a caller does with a store. -/
inductive Operation where
  | set (draft : Draft)
  /-- Asks for the profile under a name and keeps its handle. -/
  | hold (name : String)
  | remove (name : String)
  | rename (old new : String)
  | refresh (t : FileTree)
  | save (t : FileTree)
  | addValidation (h : Handle) (check description : String)
  | setValidations (h : Handle) (vs : List Validation)

/-- The store that an operation makes of a store. -/
def perform (s : Store) (now : Timestamp) : Operation → Except ProfileError Store
  | .set draft => draft.build >>= fun p => s.set p now
  | .hold _ => .ok s
  | .remove name => .ok (s.remove name now).2
  | .rename old new => s.rename old new now
  | .refresh t => s.refresh t now
  | .save t => (s.save t).1.map fun () => s
  | .addValidation h check description => .ok (s.addValidation h check description now).2
  | .setValidations h vs => .ok (s.setValidations h vs now)

/-- The store after an operation, the same one if that fails. -/
def after (s : Store) (now : Timestamp) (o : Operation) : Store :=
  (s.perform now o).toOption.getD s

/-- The store after operations, each at its time. -/
def run (s : Store) (ops : List (Timestamp × Operation)) : Store :=
  ops.foldl (fun s o => s.after o.1 o.2) s

/-- A store that operations can make of an empty one. -/
def Reachable (s : Store) : Prop :=
  ∃ path start ops, (empty path start).run ops = s

variable {s : Store} {now : Timestamp}

theorem Sound.perform (hs : s.Sound) {o : Operation} {s' : Store}
    (ho : s.perform now o = .ok s') : s'.Sound := by
  cases o with
  | set draft =>
    obtain ⟨p, -, hset⟩ := bind_eq_ok_iff.mp ho
    exact hs.set hset
  | hold name => cases ho; exact hs
  | remove name => cases ho; exact hs.remove
  | rename old new => exact hs.rename ho
  | refresh t => exact Sound.refresh ho
  | save t =>
    obtain ⟨-, -, rfl⟩ := map_eq_ok_iff.mp ho
    exact hs
  | addValidation h check description => cases ho; exact hs.addValidation
  | setValidations h vs => cases ho; exact hs.setValidations

/-- **One step keeps a store sound**, whether it succeeds or fails. -/
theorem Sound.after (hs : s.Sound) (o : Operation) : (s.after now o).Sound := by
  rw [Store.after]
  cases ho : s.perform now o with
  | error e => exact hs
  | ok s' => exact hs.perform ho

/-- **A run keeps a store sound.** -/
theorem Sound.run (hs : s.Sound) (ops : List (Timestamp × Operation)) : (s.run ops).Sound := by
  induction ops generalizing s with
  | nil => exact hs
  | cons o ops ih => exact ih (hs.after o.2)

theorem Reachable.sound (hs : s.Reachable) : s.Sound := by
  obtain ⟨path, start, ops, rfl⟩ := hs
  exact (sound_empty path start).run ops

/-- **Names and objects of every reachable store.**  Whatever was done before, every name of the
store is not empty and is the name of the object it leads to; no object is stored under two names;
the validations of every object, stored or only held, strictly ascend by name; and a profile that
was finished outside can always be stored. -/
theorem names_and_objects_of_run (path : Option Path) (start : Timestamp)
    (ops : List (Timestamp × Operation)) :
    (∀ name h, ((empty path start).run ops).find? name = some h →
      name ≠ "" ∧ ∃ p, ((empty path start).run ops).object? h = some p ∧ p.name = name) ∧
    (∀ m n h, ((empty path start).run ops).find? m = some h →
      ((empty path start).run ops).find? n = some h → m = n) ∧
    (∀ h p, ((empty path start).run ops).object? h = some p →
      (p.validations.map Validation.name).Pairwise (· < ·)) ∧
    ∀ (draft : Draft) (p : Profile) (now : Timestamp), draft.build = .ok p →
      (p.validations.map Validation.name).Pairwise (· < ·) ∧
        ∃ s', ((empty path start).run ops).set p now = .ok s' := by
  have hs : ((empty path start).run ops).Sound := (sound_empty path start).run ops
  refine ⟨fun name h hf => hs.entry hf, fun m n h => hs.apart,
    fun h p _ => p.validations_ascending, ?_⟩
  intro draft p now hb
  exact ⟨p.validations_ascending, _, set_eq_ok_iff.mpr ⟨Draft.name_of_build hb, rfl⟩⟩

end Store
end MetadataAudit
