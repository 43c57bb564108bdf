import MetadataAudit.Proofs.FileTree.Write
import MetadataAudit.Proofs.Store.Opening
import MetadataAudit.Rulebook.Document

/-! # Trees that agree but at some places

Two trees may differ at places where the one has a file and the other has no directory, as a log makes
them differ (`FileTree.AgreeBut`).  A path that does not lead to such a place leads to the same place in
both, since no walk passes through a file.  So the same is read there (`AgreeBut.read_eq_ok_iff`), be it
a rule book (`AgreeBut.load_eq_ok_iff`) or a store (`AgreeBut.opened_eq_ok_iff`).
-/
namespace MetadataAudit
namespace FileTree

variable {t u v : FileTree} {path : Path} {place : List String} {but : List String → Prop}
  {content : Bytes}

theorem read_eq_ok_iff :
    t.read path = .ok content ↔ ∃ place, t.Holds path place content := by
  constructor
  · intro h
    obtain ⟨node, hfind, hfile⟩ := bind_eq_ok_iff.mp h
    obtain ⟨place, hresolve, hnode⟩ := bind_eq_ok_iff.mp hfind
    cases hat : t.node? place with
    | none =>
      rw [hat] at hnode
      cases hnode
    | some there =>
      rw [hat] at hnode
      cases hnode
      cases node with
      | directory => cases hfile
      | file content' =>
        cases hfile
        exact ⟨place, hresolve, hat⟩
  · rintro ⟨place, h⟩
    exact h.read

/-- The trees have the same at all but some places, at which the second has a file, and the first no
directory. -/
structure AgreeBut (t u : FileTree) (but : List String → Prop) : Prop where
  home : u.home = t.home
  node {place : List String} (hp : ¬ but place) : u.node? place = t.node? place
  before {place : List String} (hp : but place) : t.node? place ≠ some .directory
  there {place : List String} (hp : but place) : ∃ content, u.node? place = some (.file content)

/-- A path leads to none of some places. -/
def Avoids (t : FileTree) (path : Path) (but : List String → Prop) : Prop :=
  ∀ place, but place → t.resolve path ≠ .ok place

namespace AgreeBut

theorem keeps (h : t.AgreeBut u but) : t.Keeps u := by
  intro place hd
  have hout : ¬ but place := fun hp => h.before hp hd
  rw [h.node hout]
  exact hd

theorem kept (h : t.AgreeBut u but) : u.Keeps t := by
  intro place hd
  have hout : ¬ but place := by
    intro hp
    obtain ⟨content, hfile⟩ := h.there hp
    rw [hd] at hfile
    cases hfile
  rw [← h.node hout]
  exact hd

/-- A tree in which a file is made or extended differs there at most. -/
theorem extend {names : List String} (hd : t.node? names ≠ some .directory) (more : Bytes)
    (hbut : ∀ place, but place ↔ place = names) : t.AgreeBut (t.extend names more) but where
  home := home_extend t names more
  node hp := node?_extend_ne t more fun heq => hp ((hbut _).mpr heq)
  before hp := by
    rw [(hbut _).mp hp]
    exact hd
  there hp := by
    rw [(hbut _).mp hp]
    exact node?_extend t more hd

theorem trans (h : t.AgreeBut u but) (h' : u.AgreeBut v but) : t.AgreeBut v but where
  home := h'.home.trans h.home
  node hp := (h'.node hp).trans (h.node hp)
  before hp := h.before hp
  there hp := h'.there hp

/-- A path that leads to none of the places where the trees differ leads to the same place in both. -/
theorem resolve_eq_ok_iff (h : t.AgreeBut u but) (ha : u.Avoids path but) :
    t.resolve path = .ok place ↔ u.resolve path = .ok place := by
  constructor
  · intro hr
    refine resolve_of_keeps_unless h.keeps h.home hr fun hsome => ?_
    by_cases hp : but place
    · obtain ⟨content, hfile⟩ := h.there hp
      rw [hfile]
      rfl
    · rw [h.node hp]
      exact hsome
  · intro hr
    have hout : ¬ but place := fun hp => ha place hp hr
    refine resolve_of_keeps_unless h.kept h.home.symm hr fun hsome => ?_
    rw [← h.node hout]
    exact hsome

/-- A path avoids places where both trees have files in the second if it does in the first. -/
theorem avoids (h : t.AgreeBut u but) (hfiles : ∀ place, but place → (t.node? place).isSome = true)
    (ha : t.Avoids path but) : u.Avoids path but := fun place hp hr =>
  ha place hp (resolve_of_keeps h.kept h.home.symm hr (hfiles place hp))

theorem read_eq_ok_iff (h : t.AgreeBut u but) (ha : u.Avoids path but) :
    t.read path = .ok content ↔ u.read path = .ok content := by
  simp only [FileTree.read_eq_ok_iff]
  refine exists_congr fun place => ?_
  constructor
  · rintro ⟨hresolve, hnode⟩
    have hresolve' := (h.resolve_eq_ok_iff ha).mp hresolve
    have hout : ¬ but place := fun hp => ha place hp hresolve'
    exact ⟨hresolve', (h.node hout).trans hnode⟩
  · rintro ⟨hresolve, hnode⟩
    have hout : ¬ but place := fun hp => ha place hp hresolve
    exact ⟨(h.resolve_eq_ok_iff ha).mpr hresolve, (h.node hout).symm.trans hnode⟩

/-! ### What is made of files -/

theorem readText_eq_ok_iff (h : t.AgreeBut u but) (ha : u.Avoids path but) {text : String} :
    t.readText path = .ok text ↔ u.readText path = .ok text := by
  rw [readText, readText, bind_eq_ok_iff, bind_eq_ok_iff]
  exact exists_congr fun content => and_congr_left fun _ => h.read_eq_ok_iff ha

theorem load_eq_ok_iff (h : t.AgreeBut u but) (ha : u.Avoids path but) {rules : Rulebook} :
    Rulebook.load t path = .ok rules ↔ Rulebook.load u path = .ok rules := by
  rw [Rulebook.load, Rulebook.load, bind_eq_ok_iff, bind_eq_ok_iff]
  simp only [mapError_eq_ok_iff, h.readText_eq_ok_iff ha]

theorem isKept_eq (h : t.AgreeBut u but) (ha : u.Avoids path but) :
    Store.isKept t path = Store.isKept u path := by
  rw [Bool.eq_iff_iff, Store.isKept_eq_true_iff, Store.isKept_eq_true_iff]
  exact exists_congr fun place => h.resolve_eq_ok_iff ha

theorem refresh_eq_ok_iff (h : t.AgreeBut u but) (ha : u.Avoids path but) {s fresh : Store}
    {now : Timestamp} (hpath : s.path = some path) :
    s.refresh t now = .ok fresh ↔ s.refresh u now = .ok fresh := by
  have hload (d : StoreDocument) :
      StoreDocument.load t path now = .ok d ↔ StoreDocument.load u path now = .ok d := by
    rw [StoreDocument.load_eq_ok_iff, StoreDocument.load_eq_ok_iff]
    exact exists_congr fun content => and_congr_left fun _ => h.read_eq_ok_iff ha
  simp only [Store.refresh_eq_ok_iff, hpath, Option.some.injEq, exists_and_left, exists_eq_left',
    hload]

/-- The same store is opened from both trees. -/
theorem opened_eq_ok_iff (h : t.AgreeBut u but) (ha : u.Avoids path but) {rules : Rulebook}
    {now : Timestamp} {s : Store} :
    Store.opened rules (some path) t now = .ok s ↔
      Store.opened rules (some path) u now = .ok s := by
  by_cases hkept : Store.isKept u path = true
  · rw [Store.opened_eq_ok_iff_of_isKept hkept,
      Store.opened_eq_ok_iff_of_isKept ((h.isKept_eq ha).trans hkept)]
    exact h.refresh_eq_ok_iff ha rfl
  · have hno : Store.isKept u path = false := Bool.eq_false_iff.mpr hkept
    rw [Store.opened, Store.opened, h.isKept_eq ha, hno]
    exact Iff.rfl

end AgreeBut
end FileTree
end MetadataAudit
