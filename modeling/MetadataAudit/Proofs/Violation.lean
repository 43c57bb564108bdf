import MetadataAudit.Failure

/-! # What violations say of their causes

A violation tells of each of its sources what that says of itself, and of a violation among them the message
alone (`Failure.map_said_sources`).  So the locations and profiles of causes are told nowhere: violations
that differ in these only are the same to a person who reads a report (`Violation.told_by_sources`).
-/
namespace MetadataAudit

namespace Cause

/-- Chains of causes that differ in locations and profiles at most. -/
inductive Relabelled : Cause → Cause → Prop where
  | none : Relabelled .none .none
  | foreign (text : String) : Relabelled (.foreign text) (.foreign text)
  | finding {inner inner' : Finding} {cause cause' : Cause} :
      inner'.message = inner.message → Relabelled cause cause' →
        Relabelled (.finding inner cause) (.finding inner' cause')

theorem Relabelled.messages_eq {c c' : Cause} (h : c.Relabelled c') : c'.messages = c.messages := by
  induction h with
  | none => rfl
  | foreign text => rfl
  | finding hmessage _ ih => rw [messages, messages, hmessage, ih]

theorem text?_finding (inner : Finding) (c : Cause) :
    (finding inner c).text? = some (match c.text? with
      | some nested => inner.message ++ " Cause: " ++ nested
      | Option.none => inner.message) := by
  rw [text?, text?, messages]
  cases c.messages with
  | nil => exact congrArg some String.intercalate_singleton
  | cons m ms => exact congrArg some String.intercalate_cons_cons

/-- The messages of a chain, joined, are the chain in words. -/
theorem text?_eq_told? (c : Cause) : c.text? = c.told? := by
  induction c with
  | none => rfl
  | foreign text => exact congrArg some String.intercalate_singleton
  | finding inner cause ih =>
    rw [text?_finding, told?, ih]
    cases cause.told? <;> rfl

end Cause

namespace Failure

/-- What a failure says of itself as a cause. -/
def said : Failure → String
  | violation v => v.message
  | foreign text => text

theorem sources_of_none {f : Failure} (h : f.source? = none) : f.sources = [] := by
  rw [sources]
  split
  · rfl
  · rename_i g hg
    rw [h] at hg
    cases hg

theorem sources_of_some {f g : Failure} (h : f.source? = some g) : f.sources = g :: g.sources := by
  rw [sources]
  split
  · rename_i hnone
    rw [h] at hnone
    cases hnone
  · rename_i g' hg
    rw [h] at hg
    cases hg
    rfl

/-! ### The sources of a violation -/

variable (f inner : Finding) (c : Cause) (text : String)

theorem sources_none : (violation ⟨f, .none⟩).sources = [] := sources_of_none rfl

theorem sources_foreign : (violation ⟨f, .foreign text⟩).sources = [foreign text] := by
  rw [sources_of_some (g := foreign text) rfl, sources_of_none rfl]

theorem sources_finding : (violation ⟨f, .finding inner c⟩).sources =
    violation ⟨inner, c⟩ :: (violation ⟨inner, c⟩).sources :=
  sources_of_some rfl

/-- **What the sources say of themselves** are the messages of the causes. -/
theorem map_said_sources : (violation ⟨f, c⟩).sources.map said = c.messages := by
  induction c generalizing f with
  | none =>
    rw [sources_none]
    rfl
  | foreign text =>
    rw [sources_foreign]
    rfl
  | finding inner cause ih =>
    rw [sources_finding, List.map_cons, ih]
    rfl

end Failure

namespace Violation

/-- The violations have the same message, and so have their causes, however far they reach; locations and
profiles may differ. -/
structure Relabelled (v w : Violation) : Prop where
  message : w.message = v.message
  cause : v.cause.Relabelled w.cause

/-- The violation at another location and under another profile. -/
def labelled (v : Violation) (l : Location) (profile : String) : Violation :=
  { v with finding := ⟨v.message, l, profile⟩ }

variable {v w : Violation}

theorem Relabelled.text?_cause_eq (h : v.Relabelled w) : w.cause.text? = v.cause.text? := by
  rw [Cause.text?, Cause.text?, h.cause.messages_eq]

/-- A person who reads a report can not tell them apart. -/
theorem Relabelled.userMessage_eq (h : v.Relabelled w) : w.userMessage = v.userMessage := by
  rw [userMessage, userMessage, h.text?_cause_eq, h.message]

/-- They are displayed alike but for their own location and profile. -/
theorem Relabelled.text_labelled_eq (h : v.Relabelled w) :
    (w.labelled v.location v.profile).text = v.text := by
  have hfinding : (w.labelled v.location v.profile).finding = v.finding := by
    rw [labelled, h.message]
  have hcause : (w.labelled v.location v.profile).cause.text? = v.cause.text? := h.text?_cause_eq
  rw [text, text, hcause, hfinding]

/-- The causes in words are what the sources say of themselves. -/
theorem text?_cause_eq_sources (v : Violation) :
    v.cause.text? = match (Failure.violation v).sources with
      | [] => none
      | fs => some (" Cause: ".intercalate (fs.map Failure.said)) := by
  rw [Cause.text?, ← Failure.map_said_sources v.finding v.cause]
  cases (Failure.violation v).sources <;> rfl

/-- **What a violation tells of its causes.**  To a person who reads a report it tells its message and, if it
has a source, what each of its sources says of itself, in their order, which is the message alone where the
source is a violation.  It is displayed with its own location and profile before the same words.  These are
the words that one gets by going down the causes, and so two violations that differ in locations and profiles
only, however deep, read the same in a report and are displayed alike but for their own location and
profile. -/
theorem told_by_sources (v : Violation) :
    let shown := "Error: " ++ v.message ++ " " ++ v.location.text ++ " [profile: " ++ v.profile ++ "]"
    (match (Failure.violation v).sources with
      | [] => v.userMessage = "Error: " ++ v.message ∧ v.text = shown
      | fs =>
        let told := " Cause: ".intercalate (fs.map Failure.said)
        v.userMessage = "Error: " ++ v.message ++ " [Cause: " ++ told ++ "]" ∧
          v.text = shown ++ " Cause: " ++ told) ∧
    v.cause.text? = v.cause.told? ∧
    ∀ w, v.Relabelled w → w.userMessage = v.userMessage ∧
      (w.labelled v.location v.profile).text = v.text := by
  intro shown
  have hshown : v.finding.text = shown := rfl
  refine ⟨?_, v.cause.text?_eq_told?, fun w h => ⟨h.userMessage_eq, h.text_labelled_eq⟩⟩
  have hcause := v.text?_cause_eq_sources
  rw [userMessage, text, hshown]
  cases hsources : (Failure.violation v).sources with
  | nil =>
    rw [hsources] at hcause
    rw [hcause]
    exact ⟨rfl, rfl⟩
  | cons f fs =>
    rw [hsources] at hcause
    rw [hcause]
    exact ⟨rfl, rfl⟩

/-- Two violations with three causes each, which bear other locations and profiles at every depth. -/
theorem told_by_sources_three :
    let v : Violation := ⟨⟨"no such field", ⟨1, 0⟩, "p"⟩, .finding ⟨"lookup failed", ⟨1, 2⟩, "p"⟩
      (.finding ⟨"no header", ⟨0, 2⟩, "p"⟩ (.foreign "disk"))⟩
    let w : Violation := ⟨⟨"no such field", ⟨7, 3⟩, "q"⟩, .finding ⟨"lookup failed", ⟨8, 0⟩, "r"⟩
      (.finding ⟨"no header", ⟨9, 9⟩, "s"⟩ (.foreign "disk"))⟩
    v.Relabelled w ∧ w.userMessage = v.userMessage ∧
      (w.labelled v.location v.profile).text = v.text ∧
      v.userMessage = "Error: no such field [Cause: lookup failed Cause: no header Cause: disk]" ∧
      w.text = "Error: no such field (Row: 7, Col: 3) [profile: q]" ++
        " Cause: lookup failed Cause: no header Cause: disk" := by
  intro v w
  have hrelabelled : v.Relabelled w := ⟨rfl, .finding rfl (.finding rfl (.foreign "disk"))⟩
  obtain ⟨-, -, halike⟩ := told_by_sources v
  obtain ⟨huser, htext⟩ := halike w hrelabelled
  exact ⟨hrelabelled, huser, htext, by decide, by decide⟩

end Violation
end MetadataAudit
