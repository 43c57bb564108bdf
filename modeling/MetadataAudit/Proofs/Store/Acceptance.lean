import MetadataAudit.Proofs.Profile.Decoding
import MetadataAudit.Proofs.Store.RoundTrip

/-! # Documents that a store takes over

A document is taken over when it holds a profile and its profiles have names that are not empty and
all different (`StoreDocument.Acceptable`).  Its keys play no part in that but to say which profile
comes first: what a store refuses is the first one at fault in the order of the keys
(`StoreDocument.fault?_eq_some_iff`).  A store that takes a document over holds one profile for each
of its entries, under the name the entry says and not under its key (`Store.TookOver`), and as the
names are all different none takes the place of another.
-/
namespace MetadataAudit

namespace StoreDocument

variable {d : StoreDocument} {key : String} {e e' : ProfileError} {p : ProfileDocument}
  {done rest : List (String × ProfileDocument)} {seen : List String}

/-- There is a profile, every profile has a name, and no two under different keys have the same. -/
structure Acceptable (d : StoreDocument) : Prop where
  inhabited : ∃ key p, d.profiles.get? key = some p
  named : ∀ key p, d.profiles.get? key = some p → p.name ≠ ""
  apart : ∀ k₁ k₂ p₁ p₂, d.profiles.get? k₁ = some p₁ → d.profiles.get? k₂ = some p₂ →
    p₁.name = p₂.name → k₁ = k₂

/-- What is wrong with the profile under a key: it has no name, or that of one under an earlier
key. -/
def Fault (d : StoreDocument) (key : String) (e : ProfileError) : Prop :=
  ∃ p, d.profiles.get? key = some p ∧ ((p.name = "" ∧ e = .emptyName) ∨
    (p.name ≠ "" ∧ e = .duplicate p.name ∧
      ∃ k q, k < key ∧ d.profiles.get? k = some q ∧ q.name = p.name))

/-- What is wrong with the profile under the first key at which something is. -/
def FirstFault (d : StoreDocument) (e : ProfileError) : Prop :=
  ∃ key, d.Fault key e ∧ ∀ k < key, ∀ e', ¬ d.Fault k e'

theorem Fault.unique (h : d.Fault key e) (h' : d.Fault key e') : e = e' := by
  obtain ⟨p, hp, hfault⟩ := h
  obtain ⟨q, hq, hfault'⟩ := h'
  rw [hp] at hq
  cases hq
  rcases hfault with ⟨hname, rfl⟩ | ⟨hname, rfl, -⟩
  · rcases hfault' with ⟨-, rfl⟩ | ⟨hname', -⟩
    · rfl
    · exact absurd hname hname'
  · rcases hfault' with ⟨hname', -⟩ | ⟨-, rfl, -⟩
    · exact absurd hname' hname
    · rfl

/-- The entries `done` were passed in the order of their keys, with nothing wrong, and `rest` is
still to come. -/
structure Passed (d : StoreDocument) (done rest : List (String × ProfileDocument))
    (seen : List String) : Prop where
  entries : d.profiles.entries = done ++ rest
  seen : ∀ n, n ∈ seen ↔ ∃ x ∈ done, x.2.name = n
  clean : ∀ x ∈ done, ∀ e, ¬ d.Fault x.1 e

namespace Passed

theorem get? (h : d.Passed done ((key, p) :: rest) seen) : d.profiles.get? key = some p := by
  rw [Dictionary.get?_eq_some_iff, h.entries]
  exact List.mem_append_right _ List.mem_cons_self

/-- The earlier keys are those that were passed. -/
theorem lt_iff (h : d.Passed done ((key, p) :: rest) seen) {k : String} {q : ProfileDocument} :
    (k < key ∧ d.profiles.get? k = some q) ↔ (k, q) ∈ done := by
  have hasc := d.profiles.ascending
  rw [Dictionary.get?_eq_some_iff]
  rw [h.entries] at hasc ⊢
  obtain ⟨-, hrest, hcross⟩ := List.pairwise_append.mp hasc
  constructor
  · rintro ⟨hlt, hmem⟩
    rcases List.mem_append.mp hmem with hdone | htail
    · exact hdone
    · rcases List.mem_cons.mp htail with heq | htail
      · cases heq
        exact absurd hlt (String.lt_irrefl _)
      · exact absurd hlt (String.lt_asymm ((List.pairwise_cons.mp hrest).1 _ htail))
  · intro hdone
    exact ⟨hcross _ hdone _ List.mem_cons_self, List.mem_append_left _ hdone⟩

/-- What is wrong with the next profile is told from the names that were seen. -/
theorem fault_iff (h : d.Passed done ((key, p) :: rest) seen) : d.Fault key e ↔
    (p.name = "" ∧ e = .emptyName) ∨ (p.name ≠ "" ∧ p.name ∈ seen ∧ e = .duplicate p.name) := by
  have hseen : p.name ∈ seen ↔ ∃ k q, k < key ∧ d.profiles.get? k = some q ∧ q.name = p.name := by
    rw [h.seen]
    constructor
    · rintro ⟨⟨k, q⟩, hmem, hname⟩
      obtain ⟨hlt, hq⟩ := h.lt_iff.mpr hmem
      exact ⟨k, q, hlt, hq, hname⟩
    · rintro ⟨k, q, hlt, hq, hname⟩
      exact ⟨(k, q), h.lt_iff.mp ⟨hlt, hq⟩, hname⟩
  rw [Fault, h.get?]
  simp only [Option.some.injEq, exists_eq_left', hseen, and_comm (a := e = _)]

/-- Nothing is wrong before the next profile, so what is wrong there is the first fault. -/
theorem firstFault_iff (h : d.Passed done ((key, p) :: rest) seen) (hfault : d.Fault key e) :
    d.FirstFault e' ↔ e' = e := by
  have hbefore : ∀ k < key, ∀ e', ¬ d.Fault k e' := by
    intro k hlt e' hk
    obtain ⟨q, hq, -⟩ := id hk
    exact h.clean _ (h.lt_iff.mp ⟨hlt, hq⟩) e' hk
  constructor
  · rintro ⟨k, hk, hfirst⟩
    have hge : ¬ k < key := fun hlt => hbefore k hlt e' hk
    have hle : ¬ key < k := fun hgt => hfirst key hgt e hfault
    have hkey : k = key := String.le_antisymm (String.not_lt.mp hle) (String.not_lt.mp hge)
    exact Fault.unique (hkey ▸ hk) hfault
  · rintro rfl
    exact ⟨key, hfault, hbefore⟩

/-- A profile with nothing wrong is passed. -/
theorem next (h : d.Passed done ((key, p) :: rest) seen) (hclean : ∀ e, ¬ d.Fault key e) :
    d.Passed (done ++ [(key, p)]) rest (p.name :: seen) := by
  refine ⟨by simp [h.entries], ?_, ?_⟩
  · intro n
    simp only [List.mem_cons, h.seen, List.mem_append, List.not_mem_nil, or_false]
    constructor
    · rintro (rfl | ⟨x, hx, hn⟩)
      · exact ⟨(key, p), Or.inr rfl, rfl⟩
      · exact ⟨x, Or.inl hx, hn⟩
    · rintro ⟨x, hx | rfl, hn⟩
      · exact Or.inr ⟨x, hx, hn⟩
      · exact Or.inl hn.symm
  · intro x hx
    rcases List.mem_append.mp hx with hx | hx
    · exact h.clean x hx
    · rw [List.mem_singleton.mp hx]
      exact hclean

/-- What is found in the rest is the first fault of all. -/
theorem fault?_eq_some_iff (h : d.Passed done rest seen) :
    fault? seen (rest.map Prod.snd) = some e ↔ d.FirstFault e := by
  induction rest generalizing done seen with
  | nil =>
    simp only [List.map_nil, fault?, reduceCtorEq, false_iff]
    rintro ⟨k, hfault, -⟩
    obtain ⟨p, hp, -⟩ := id hfault
    rw [Dictionary.get?_eq_some_iff, h.entries, List.append_nil] at hp
    exact h.clean _ hp e hfault
  | cons x rest ih =>
    obtain ⟨k, p⟩ := x
    rw [List.map_cons, fault?]
    split
    · rename_i hname
      rw [h.firstFault_iff (h.fault_iff.mpr (Or.inl ⟨hname, rfl⟩)), Option.some.injEq, eq_comm]
    · rename_i hname
      split
      · rename_i hseen
        have hmem := List.contains_iff_mem.mp hseen
        rw [h.firstFault_iff (h.fault_iff.mpr (Or.inr ⟨hname, hmem, rfl⟩)), Option.some.injEq,
          eq_comm]
      · rename_i hnew
        refine ih (h.next fun e hfault => ?_)
        rcases h.fault_iff.mp hfault with ⟨hempty, -⟩ | ⟨-, hmem, -⟩
        · exact hname hempty
        · exact hnew (List.contains_iff_mem.mpr hmem)

end Passed

/-- **What the scan of the names finds** is what is wrong at the first key. -/
theorem fault?_eq_some_iff : fault? [] d.profiles.values = some e ↔ d.FirstFault e := by
  have hstart : d.Passed [] d.profiles.entries [] := ⟨rfl, by simp, by simp⟩
  exact hstart.fault?_eq_some_iff

/-- The second profile is at fault before the third one is looked at. -/
example : fault? [] [⟨"x", .epoch, []⟩, ⟨"x", .epoch, []⟩, ⟨"", .epoch, []⟩] =
    some (.duplicate "x") := by decide

theorem named_values_iff : Named d.profiles.values ↔
    (∀ key p, d.profiles.get? key = some p → p.name ≠ "") ∧
      ∀ k₁ k₂ p₁ p₂, d.profiles.get? k₁ = some p₁ → d.profiles.get? k₂ = some p₂ →
        p₁.name = p₂.name → k₁ = k₂ := by
  have hnodup : d.profiles.entries.Nodup := d.profiles.ascending.nodup_names.of_map _
  rw [Named, Dictionary.values, List.map_map, List.nodup_map_iff_inj_on hnodup]
  simp only [Dictionary.get?_eq_some_iff, List.forall_mem_map, Prod.forall, Function.comp_apply]
  refine and_congr Iff.rfl ⟨?_, ?_⟩
  · intro h k₁ k₂ p₁ p₂ h₁ h₂ hname
    exact congrArg Prod.fst (h k₁ p₁ h₁ k₂ p₂ h₂ hname)
  · intro h k₁ p₁ h₁ k₂ p₂ h₂ hname
    obtain rfl := h k₁ k₂ p₁ p₂ h₁ h₂ hname
    have hp := (Dictionary.get?_eq_some_iff.mpr h₁).symm.trans (Dictionary.get?_eq_some_iff.mpr h₂)
    cases hp
    rfl

theorem acceptable_iff : d.Acceptable ↔ d.profiles.size ≠ 0 ∧ Named d.profiles.values := by
  rw [named_values_iff]
  constructor
  · rintro ⟨⟨key, p, hp⟩, hnamed, hapart⟩
    refine ⟨fun hsize => ?_, hnamed, hapart⟩
    rw [Dictionary.size_eq_zero_iff.mp hsize] at hp
    cases hp
  · rintro ⟨hsize, hnamed, hapart⟩
    refine ⟨?_, hnamed, hapart⟩
    obtain ⟨⟨key, p⟩, hmem⟩ := List.exists_mem_of_ne_nil d.profiles.entries fun hnil =>
      hsize (by rw [Dictionary.size, hnil]; rfl)
    exact ⟨key, p, Dictionary.get?_eq_some_iff.mpr hmem⟩

end StoreDocument

/-- A profile with what a document says: of validations of one name the first, in the order of
names. -/
structure ProfileDocument.Describes (e : ProfileDocument) (p : Profile) : Prop where
  name : p.name = e.name
  lastUpdate : p.lastUpdate = e.lastUpdate
  ascending : (p.validations.map Validation.name).Pairwise (· < ·)
  validations : ∀ v, v ∈ p.validations ↔ e.validations.find? (fun w => w.name = v.name) = some v

namespace Profile

theorem mem_validations_iff {p : Profile} {v : Validation} :
    v ∈ p.validations ↔ p.checks.get? v.name = some v.description := by
  rw [Dictionary.get?_eq_some_iff, validations, List.mem_map]
  constructor
  · rintro ⟨e, he, rfl⟩
    exact he
  · intro h
    exact ⟨_, h, rfl⟩

/-- Of validations with one name the first counts, whatever is taken of it. -/
theorem get?_foldl_insertNew_name {β : Type} (f : Validation → β) (vs : List Validation) (n : String) :
    (vs.foldl (fun d v => d.insertNew v.name (f v)) Dictionary.empty).get? n =
      (vs.find? fun w => w.name = n).map f := by
  have hfold : vs.foldl (fun d v => d.insertNew v.name (f v)) Dictionary.empty =
      (vs.map fun v => (v.name, f v)).foldl (fun d e => d.insertNew e.1 e.2) .empty := by
    rw [List.foldl_map]
  rw [hfold, Dictionary.get?_foldl_insertNew, Dictionary.get?_empty, Option.none_or]
  clear hfold
  induction vs with
  | nil => rfl
  | cons v vs ih =>
    rw [List.map_cons, List.lookup_cons, List.find?_cons]
    by_cases hn : n = v.name
    · simp [hn]
    · rw [beq_eq_false_iff_ne.mpr hn, decide_eq_false (Ne.symm hn)]
      exact ih

/-- Of validations with one name the first is gathered. -/
theorem get?_gather (vs : List Validation) (n : String) :
    (gather vs).get? n = (vs.find? fun w => w.name = n).map Validation.description :=
  get?_foldl_insertNew_name Validation.description vs n

theorem mem_names_gather {vs : List Validation} {n : String} :
    n ∈ (gather vs).names ↔ n ∈ vs.map Validation.name := by
  have hfound : (∃ x, (gather vs).get? n = some x) ↔
      (vs.find? fun w => decide (w.name = n)).isSome = true := by
    rw [get?_gather, ← Option.isSome_iff_exists, Option.isSome_map]
  rw [Dictionary.mem_names_iff, hfound, List.find?_isSome, List.mem_map]
  simp only [decide_eq_true_eq]

/-- The first validations of a list, one for each name, are what is gathered from it. -/
theorem checks_eq_gather_iff {p : Profile} {vs : List Validation} : p.checks = gather vs ↔
    ∀ v, v ∈ p.validations ↔ vs.find? (fun w => w.name = v.name) = some v := by
  have hfind (n x : String) :
      (gather vs).get? n = some x ↔ vs.find? (fun w => w.name = n) = some ⟨n, x⟩ := by
    rw [get?_gather, Option.map_eq_some_iff]
    constructor
    · rintro ⟨w, hw, rfl⟩
      have hname : w.name = n := by simpa using List.find?_some hw
      rw [hw, ← hname]
    · intro h
      exact ⟨_, h, rfl⟩
  constructor
  · rintro h ⟨n, x⟩
    rw [mem_validations_iff, h, hfind]
  · intro h
    refine Dictionary.ext_get? fun n => Option.ext fun x => ?_
    rw [hfind, ← h ⟨n, x⟩, mem_validations_iff]

theorem describes_iff {e : ProfileDocument} {p : Profile} : e.Describes p ↔ p = described e := by
  constructor
  · rintro ⟨hname, htime, -, hvalidations⟩
    have hchecks := checks_eq_gather_iff.mpr hvalidations
    cases p
    cases hname
    cases htime
    cases hchecks
    rfl
  · rintro rfl
    exact ⟨rfl, rfl, validations_ascending _, checks_eq_gather_iff.mp rfl⟩

end Profile

namespace Store

variable {s s' : Store} {d : StoreDocument} {t : FileTree} {path : Path} {content : Bytes}
  {now : Timestamp}

/-- A store holds the profiles of a document, one for each entry under the name the entry says, and
nothing else. -/
structure TookOver (s : Store) (d : StoreDocument) : Prop where
  lastUpdate : s.lastUpdate = d.lastUpdate
  count : s.count = d.profiles.size
  profile : ∀ {key e}, d.profiles.get? key = some e → ∃ p, s.get? e.name = some p ∧ e.Describes p
  entry : ∀ {n p}, s.get? n = some p →
    ∃ key e, d.profiles.get? key = some e ∧ e.name = n ∧ e.Describes p

/-- What a store answers to a refresh from a document that decodes. -/
theorem refresh_of_decode? (hpath : s.path = some path) (hread : t.read path = .ok content)
    (hdecode : (Parsed.ofBytes? content >>= StoreDocument.decode? now) = some d) :
    s.refresh t now = if d.profiles.size = 0 then .error (.noProfiles path)
      else match StoreDocument.fault? [] d.profiles.values with
        | some e => .error e
        | none => s.replace d := by
  rw [refresh, hpath]
  simp only [StoreDocument.load_of_decode? hread hdecode]
  split
  · rfl
  · cases StoreDocument.fault? [] d.profiles.values <;> rfl

/-- **Nothing is lost**: profiles with names of their own are all found under them again. -/
theorem tookOver_of_replace (hr : s.replace d = .ok s')
    (hnamed : StoreDocument.Named d.profiles.values) : s'.TookOver d := by
  have hnodup : ((d.profiles.values.map fun e => (e.name, Profile.described e)).map
      Prod.fst).Nodup := by
    rw [List.map_map]
    exact hnamed.2
  have hget {n : String} {p : Profile} : s'.get? n = some p ↔
      ∃ key e, d.profiles.get? key = some e ∧ e.name = n ∧ e.Describes p := by
    rw [← get?_view_eq_get? (Sound.replace hr), view_replace hr,
      Dictionary.get?_ofList_of_nodup hnodup, Entries.lookup_eq_some_iff hnodup]
    simp only [Dictionary.values, List.mem_map, Prod.exists, Dictionary.get?_eq_some_iff,
      Profile.describes_iff, Prod.mk.injEq]
    constructor
    · rintro ⟨e, ⟨key, e', hmem, rfl⟩, rfl, rfl⟩
      exact ⟨key, e', hmem, rfl, rfl⟩
    · rintro ⟨key, e, hmem, rfl, rfl⟩
      exact ⟨e, ⟨key, e, hmem, rfl⟩, rfl, rfl⟩
  refine ⟨?_, ?_, fun {key e} hentry => ?_, hget.mp⟩
  · obtain ⟨-, rfl⟩ := replace_eq_ok_iff.mp hr
    rfl
  · rw [← size_view, view_replace hr, Dictionary.size_ofList hnodup]
    simp [Dictionary.values, Dictionary.size]
  · have hdescribes : e.Describes (Profile.described e) := Profile.describes_iff.mpr rfl
    exact ⟨_, hget.mpr ⟨key, e, hentry, rfl, hdescribes⟩, hdescribes⟩

/-- **Acceptable documents are taken over, and no others are.**  Whatever a store with a path holds,
and whatever document its file decodes to, a refresh succeeds if the document is acceptable; if it
is not, then it is refused because it holds no profile or else for the first fault in the order of
its keys.  A store that takes it over holds one new profile for each of its entries, under the name
the entry says, with the times and validations it says, and nothing of what the store held before. -/
theorem refresh_of_decoded (hpath : s.path = some path) (hread : t.read path = .ok content)
    (hdecode : (Parsed.ofBytes? content >>= StoreDocument.decode? now) = some d) :
    (∃ v, Parsed.ofBytes? content = some v ∧ d.ReadFrom now v) ∧
    ((∃ s', s.refresh t now = .ok s') ↔ d.Acceptable) ∧
    (∀ e, s.refresh t now = .error e ↔
      (d.profiles = .empty ∧ e = .noProfiles path) ∨ d.FirstFault e) ∧
    ∀ s', s.refresh t now = .ok s' → s'.path = some path ∧ s'.TookOver d ∧
      ∀ n h, s'.find? n = some h → s.object? h = none := by
  obtain ⟨v, hv, hd⟩ := Option.bind_eq_some_iff.mp hdecode
  refine ⟨⟨v, hv, StoreDocument.readFrom_of_decode? hd⟩, ?_⟩
  rw [refresh_of_decode? hpath hread hdecode, StoreDocument.acceptable_iff]
  simp only [← StoreDocument.fault?_eq_some_iff]
  by_cases hsize : d.profiles.size = 0
  · have hempty : d.profiles = .empty := Dictionary.size_eq_zero_iff.mp hsize
    have hnone : StoreDocument.fault? [] d.profiles.values = none := by rw [hempty]; rfl
    rw [if_pos hsize, hnone]
    refine ⟨by simp [hsize], fun e => ?_, fun s' h => by cases h⟩
    simp [hempty, eq_comm]
  · have hne : d.profiles ≠ .empty := fun h => hsize (Dictionary.size_eq_zero_iff.mpr h)
    rw [if_neg hsize]
    cases hfault : StoreDocument.fault? [] d.profiles.values with
    | some e =>
      have hrefused : ¬ StoreDocument.Named d.profiles.values := fun hall => by
        rw [StoreDocument.fault?_nil_eq_none_iff.mpr hall] at hfault
        cases hfault
      exact ⟨by simp [hrefused], fun e' => by simp [hne], fun s' h => by cases h⟩
    | none =>
      have hall := StoreDocument.fault?_nil_eq_none_iff.mp hfault
      have htaken : ∃ s', s.replace d = .ok s' := ⟨_, replace_eq_ok_iff.mpr ⟨hall.1, rfl⟩⟩
      refine ⟨by simp [htaken, hsize, hall], fun e => ?_, fun s' hr => ⟨?_, ?_, ?_⟩⟩
      · obtain ⟨s', hr⟩ := htaken
        simp [hr, hne]
      · obtain ⟨-, rfl⟩ := replace_eq_ok_iff.mp hr
        exact hpath
      · exact tookOver_of_replace hr hall
      · exact fun n h => find?_replace hr

/-- A key that is repeated, keys that are not the names, and a validation that is repeated. -/
theorem refresh_of_decoded_rekeyed :
    let text := "\x7b\"profiles\":\x7b\"b\":\x7b\"name\":\"x\"\x7d,\"a\":\x7b\"name\":\"y\",\"validations\":" ++
      "[\x7b\"name\":\"v\",\"description\":\"1\"\x7d,\x7b\"name\":\"u\"\x7d,\x7b\"name\":\"v\"\x7d]\x7d," ++
      "\"b\":\x7b\"name\":\"a\"\x7d\x7d\x7d"
    let t := (writeAtomically {} "kept" text).2
    let d : StoreDocument := ⟨.ofList [("a", ⟨"y", .epoch, [⟨"v", "1"⟩, ⟨"u", ""⟩, ⟨"v", ""⟩]⟩),
      ("b", ⟨"a", .epoch, []⟩)], .epoch⟩
    ∃ s', (empty (some "kept") .epoch).refresh t .epoch = .ok s' ∧ s'.TookOver d := by
  intro text t d
  have hread : t.read "kept" = .ok (Utf8.encode text) := by decide +kernel
  have hdecode : (Parsed.ofBytes? (Utf8.encode text) >>= StoreDocument.decode? .epoch) = some d := by
    decide +kernel
  obtain ⟨-, haccept, -, htaken⟩ :=
    refresh_of_decoded (s := empty (some "kept") .epoch) rfl hread hdecode
  have hacceptable : d.Acceptable :=
    StoreDocument.acceptable_iff.mpr ⟨by decide +kernel, by decide +kernel, by decide +kernel⟩
  obtain ⟨s', hs'⟩ := haccept.mpr hacceptable
  exact ⟨s', hs', (htaken s' hs').2.1⟩

end Store
end MetadataAudit
