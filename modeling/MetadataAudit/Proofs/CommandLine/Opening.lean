import MetadataAudit.Proofs.Audit.Union
import MetadataAudit.Proofs.CommandLine.Session
import MetadataAudit.Proofs.Store.Opening

/-! # Commands that open the store

Work that only looks and tells leaves everything as it was but the log (`Work.IsQuiet`).  To open a
store is such work.  It succeeds on two grounds that have nothing in common: where there is no file the
rule book decides alone, and where there is one the file does (`Command.openStore_by_presence`).
-/
namespace MetadataAudit

namespace Work

variable {α β : Type}

/-- Whatever comes of it, nothing but the log is written. -/
def IsQuiet (x : Work α) : Prop := ∀ s : Session, s.Untouched (x.run s).2

theorem isQuiet_pure (a : α) : IsQuiet (pure a : Work α) := fun s => .refl s

theorem isQuiet_attempt (f : Session → Except CommandError α) : IsQuiet (attempt f) :=
  fun s => .refl s

theorem isQuiet_tell (entries : List Log.Entry) : IsQuiet (tell entries) := fun s => .write s _

theorem untouched_of_tell {s u : Session} {entries : List Log.Entry}
    (h : (tell entries).run s = (.ok (), u)) : s.Untouched u := by
  have hquiet := isQuiet_tell entries s
  rw [h] at hquiet
  exact hquiet

theorem IsQuiet.bind {x : Work α} {f : α → Work β} (hx : IsQuiet x) (hf : ∀ a, IsQuiet (f a)) :
    IsQuiet (x >>= f) := by
  intro s
  rw [run_bind]
  split
  · exact (hx s).trans (hf _ _)
  · exact hx s

end Work

namespace Command

variable {spans : List Log.Span} {path : Option Path} {rules : Rulebook} {s : Session} {store : Store}

theorem isQuiet_openRules (spans : List Log.Span) (file : Option Path) :
    Work.IsQuiet (openRules spans file) := by
  cases file with
  | none => exact Work.isQuiet_pure _
  | some file =>
    exact (Work.isQuiet_attempt _).bind fun _ => (Work.isQuiet_tell _).bind fun _ =>
      Work.isQuiet_pure _

theorem isQuiet_openStore (spans : List Log.Span) (path : Option Path) (rules : Rulebook) :
    Work.IsQuiet (openStore spans path rules) :=
  (Work.isQuiet_attempt _).bind fun _ => (Work.isQuiet_tell _).bind fun _ => Work.isQuiet_pure _

theorem isQuiet_openBoth (i : Invocation) (spans : List Log.Span) :
    Work.IsQuiet (openBoth i spans) :=
  (isQuiet_openRules spans _).bind fun _ => (isQuiet_openStore spans _ _).bind fun _ =>
    Work.isQuiet_pure _

/-- A command opens what the files and the time make of the path and the rule book. -/
theorem openStore_eq_ok_iff :
    ((openStore spans path rules).run s).1 = .ok store ↔
      Store.opened rules path s.tree s.now = .ok store := by
  rw [openStore, Work.fst_bind_eq_ok_iff]
  constructor
  · rintro ⟨⟨found, events⟩, hopened, hrest⟩
    obtain ⟨_, hfound, hpair⟩ := map_eq_ok_iff.mp hopened
    cases hpair
    -- what is told afterwards cannot fail
    obtain rfl : found = store := Except.ok.inj hrest
    exact mapError_eq_ok_iff.mp hfound
  · intro h
    exact ⟨(store, Journal.storeOpened s.tree store),
      map_eq_ok_iff.mpr ⟨store, mapError_eq_ok_iff.mpr h, rfl⟩, rfl⟩

end Command

namespace Audit

variable {ctx : Context} {profile : String} {p : Profile}

/-- A profile that names no checks runs every kind that can be run. -/
theorem kinds_of_no_checks (hstored : ctx.store.get? profile = some p) (hnone : p.checks = .empty) :
    kinds ctx profile = .ok (Kind.all.filter (canRun ctx)) := by
  have hnames : p.validationNames = [] := by
    rw [Profile.validationNames, hnone]
    rfl
  rw [kinds_of_stored hstored, hnames]
  exact resolveSome_eq_ok_iff.mpr ⟨List.ne_nil_of_mem (lineBreak_mem_resolve_nil ctx), rfl⟩

end Audit

namespace Command

/-- **What a command opens.**  Where there is no file, a store is opened exactly if no table of the rule
book is without a name; it then holds one profile for each table and no other, each of which names no
checks and so runs every kind that can be run.  Where there is a file, a store is opened exactly if an
empty one takes the file over, and it is that one, with the profiles of the file and no others, whatever
the rule book says.  In neither case is anything written but the log. -/
theorem openStore_by_presence (spans : List Log.Span) (path : Option Path) (rules : Rulebook)
    (s : Session) :
    (Store.NotKept s.tree path →
      ((∃ store, ((openStore spans path rules).run s).1 = .ok store) ↔
        ∀ name ∈ rules.profiles, name ≠ "") ∧
      ∀ store, ((openStore spans path rules).run s).1 = .ok store →
        store.path = path ∧ store.names = rules.profiles ∧
          ∀ name ∈ rules.profiles, store.get? name = some ⟨name, s.now, .empty⟩ ∧
            ∀ ctx : Context, ctx.store = store →
              Audit.kinds ctx name = .ok (Kind.all.filter (Audit.canRun ctx))) ∧
    (∀ p, path = some p → Store.isKept s.tree p = true → ∀ store,
      (((openStore spans path rules).run s).1 = .ok store ↔
        (Store.empty path s.now).refresh s.tree s.now = .ok store) ∧
      (((openStore spans path rules).run s).1 = .ok store →
        store.path = path ∧ ∃ d, StoreDocument.load s.tree p s.now = .ok d ∧
          store.view = .ofList (d.profiles.values.map fun e => (e.name, Profile.described e)))) ∧
    s.Untouched ((openStore spans path rules).run s).2 := by
  refine ⟨fun hno => ⟨?_, fun store hstore => ?_⟩, ?_, isQuiet_openStore spans path rules s⟩
  · simp only [openStore_eq_ok_iff, Store.opened_of_notKept hno]
    exact Store.exists_seeded_iff
  · rw [openStore_eq_ok_iff, Store.opened_of_notKept hno] at hstore
    refine ⟨(Store.sound_seeded hstore).2, Store.names_seeded hstore, fun name hname => ?_⟩
    have hget := Store.get?_seeded hstore hname
    refine ⟨hget, ?_⟩
    rintro ctx rfl
    exact Audit.kinds_of_no_checks hget rfl
  · rintro p rfl hkept store
    have hiff : ((openStore spans (some p) rules).run s).1 = .ok store ↔
        (Store.empty (some p) s.now).refresh s.tree s.now = .ok store := by
      rw [openStore_eq_ok_iff, Store.opened_eq_ok_iff_of_isKept hkept]
    refine ⟨hiff, fun hstore => ?_⟩
    have hrefresh := hiff.mp hstore
    obtain ⟨q, d, hq, hload, hreplace⟩ := Store.refresh_eq_ok_iff.mp hrefresh
    cases hq
    exact ⟨Store.path_of_refresh hrefresh, d, hload, Store.view_replace hreplace⟩

/-- Nothing is at a path, with a rule book of which every table has a name and with one of which one has
not; then a file with one profile. -/
theorem openStore_by_presence_one_profile :
    let absent : Session := {
      tree := {}, network := .unreachable, now := .epoch, style := { filter := .standard none } }
    let present : Session := { absent with tree := { nodes := [(["p.json"], .file (Utf8.encode
      "\x7b\"profiles\":\x7b\"a\":\x7b\"name\":\"a\"\x7d\x7d\x7d"))] } }
    (∃ store, ((openStore [] (some "p.json") .builtin).run absent).1 = .ok store ∧
      store.names = ["bucketeer", "default", "fester", "test"]) ∧
    (¬ ∃ store, ((openStore [] (some "p.json") (Rulebook.builtin.withTable "" .empty)).run
      absent).1 = .ok store) ∧
    ∃ store, ((openStore [] (some "p.json") .builtin).run present).1 = .ok store ∧
      store.names = ["a"] := by
  intro absent present
  have hno : Store.NotKept absent.tree (some "p.json") := by
    rintro p ⟨⟩
    rfl
  have hkept : Store.isKept present.tree "p.json" = true := by decide +kernel
  refine ⟨?_, ?_, ?_⟩
  · obtain ⟨hiff, hholds⟩ := (openStore_by_presence [] (some "p.json") .builtin absent).1 hno
    obtain ⟨store, hstore⟩ := hiff.mpr (by decide)
    obtain ⟨-, hnames, -⟩ := hholds store hstore
    exact ⟨store, hstore, hnames⟩
  · obtain ⟨hiff, -⟩ := (openStore_by_presence [] (some "p.json")
      (Rulebook.builtin.withTable "" .empty) absent).1 hno
    rw [hiff]
    exact fun hall => hall "" (by decide) rfl
  · have hnames : ((Store.empty (some "p.json") .epoch).refresh present.tree .epoch).toOption.map
        Store.names = some ["a"] := by decide +kernel
    cases hrefresh : (Store.empty (some "p.json") .epoch).refresh present.tree .epoch with
    | error e =>
      rw [hrefresh] at hnames
      cases hnames
    | ok store =>
      rw [hrefresh] at hnames
      obtain ⟨hiff, -⟩ := (openStore_by_presence [] (some "p.json") .builtin present).2.1
        "p.json" rfl hkept store
      exact ⟨store, hiff.mpr hrefresh, Option.some.inj hnames⟩

end Command
end MetadataAudit
