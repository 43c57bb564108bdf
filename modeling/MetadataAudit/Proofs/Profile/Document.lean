import MetadataAudit.Profile.Document
import MetadataAudit.Proofs.Dictionary
import MetadataAudit.Proofs.Json.RoundTrip
import MetadataAudit.Proofs.Outcome
import MetadataAudit.Proofs.Timestamp.RoundTrip

/-! # Profile documents written and read again

Every document decodes to itself from what it is written as (`StoreDocument.decode?_text`).  All of
its fields are written, so neither a default nor the present time takes the place of one.
-/
namespace MetadataAudit

/-- A record with names of its own among the given ones shows all of its fields. -/
theorem Parsed.fields?_record {names : List String} (fs : List (String × Parsed))
    (hin : ∀ f ∈ fs, f.1 ∈ names) (hnd : (fs.map Prod.fst).Nodup) :
    (Parsed.record (fs.map fun f => (some f.1, f.2))).fields? names = some fs := by
  have hall : (fs.map fun f => (some f.1, f.2)).mapM
      (fun (x : Option String × Parsed) => x.1.map (·, x.2)) = some fs :=
    mapM_map_eq_some fun f _ => rfl
  have hknown : fs.filter (fun e => names.contains e.1) = fs :=
    List.filter_eq_self.mpr fun f hf => List.contains_iff_mem.mpr (hin f hf)
  simp only [Parsed.fields?, hall, Option.bind_eq_bind, Option.bind_some, hknown, if_pos hnd]
  rfl

theorem Parsed.timestamp?_text (t : Timestamp) : (Parsed.text t.text).timestamp? = some t := by
  rw [timestamp?, text?, Option.bind_eq_bind, Option.bind_some, Timestamp.ofText?_text]

theorem Validation.decode?_toJson (v : Validation) : decode? v.toJson.parsed = some v := by
  have hfields : v.toJson.parsed.fields? ["name", "description"] =
      some [("name", .text v.name), ("description", .text v.description)] :=
    Parsed.fields?_record [("name", .text v.name), ("description", .text v.description)]
      (by simp) (by simp)
  rw [decode?, hfields]
  rfl

theorem ProfileDocument.decode?_toJson (d : ProfileDocument) (now : Timestamp) :
    decode? now d.toJson.parsed = some d := by
  have hvalidations : (Json.parsed (.list (d.validations.map Validation.toJson))).list?
      Validation.decode? = some d.validations := by
    rw [Json.parsed, Json.parsedItems_eq_map, List.map_map, Parsed.list?]
    exact mapM_map_eq_some fun v _ => Validation.decode?_toJson v
  have hfields : d.toJson.parsed.fields? ["name", "lastUpdate", "validations"] =
      some [("name", .text d.name), ("lastUpdate", .text d.lastUpdate.text),
        ("validations", Json.parsed (.list (d.validations.map Validation.toJson)))] :=
    Parsed.fields?_record [("name", .text d.name), ("lastUpdate", .text d.lastUpdate.text),
      ("validations", Json.parsed (.list (d.validations.map Validation.toJson)))]
      (by simp) (by simp)
  rw [decode?, hfields]
  simp only [Option.bind_eq_bind, Option.bind_some, Parsed.required, Parsed.optional,
    List.lookup_cons_self, String.reduceBEq, List.lookup_cons, Parsed.text?,
    Parsed.timestamp?_text, hvalidations]
  rfl

namespace StoreDocument

theorem dictionary?_parsed (ds : Dictionary ProfileDocument) (now : Timestamp) :
    (Json.parsed (.record (ds.entries.map fun e => (e.1, e.2.toJson)))).dictionary?
      (ProfileDocument.decode? now) = some ds := by
  rw [Json.parsed, Json.parsedFields_eq_map, List.map_map, Parsed.dictionary?]
  have hentries : (ds.entries.map ((fun f => (some f.1, f.2.parsed)) ∘
      fun e => (e.1, e.2.toJson))).mapM (fun (x : Option String × Parsed) => do
        return (← x.1, ← ProfileDocument.decode? now x.2)) = some ds.entries :=
    mapM_map_eq_some fun e _ => by
      simp [ProfileDocument.decode?_toJson]
  rw [hentries, Option.bind_eq_bind, Option.bind_some, Dictionary.ofList_entries]
  rfl

theorem decode?_toJson (d : StoreDocument) (now : Timestamp) :
    decode? now d.toJson.parsed = some d := by
  have hfields : d.toJson.parsed.fields? ["profiles", "lastUpdate"] =
      some [("profiles", Json.parsed (.record (d.profiles.entries.map fun e => (e.1, e.2.toJson)))),
        ("lastUpdate", .text d.lastUpdate.text)] :=
    Parsed.fields?_record [("profiles",
      Json.parsed (.record (d.profiles.entries.map fun e => (e.1, e.2.toJson)))),
        ("lastUpdate", .text d.lastUpdate.text)] (by simp) (by simp)
  rw [decode?, hfields]
  simp only [Option.bind_eq_bind, Option.bind_some, Parsed.optional, List.lookup_cons_self,
    String.reduceBEq, List.lookup_cons, Parsed.timestamp?_text, dictionary?_parsed]
  rfl

/-- **A written document decodes to itself**, at whatever time it is read. -/
theorem decode?_text (d : StoreDocument) (now : Timestamp) :
    (Parsed.ofBytes? (Utf8.encode d.text) >>= decode? now) = some d := by
  rw [text, Json.ofBytes?_encode_toPretty]
  exact decode?_toJson d now

/-- A written document with anything after it decodes to itself or not at all. -/
theorem eq_of_decode?_text_append {d e : StoreDocument} {rest : Bytes} {now : Timestamp}
    (h : (Parsed.ofBytes? (Utf8.encode d.text ++ rest) >>= decode? now) = some e) : e = d := by
  obtain ⟨w, hw, hdecode⟩ := Option.bind_eq_some_iff.mp h
  have hparsed : w = d.toJson.parsed := Json.eq_parsed_of_ofBytes?_append hw
  rw [hparsed, decode?_toJson] at hdecode
  cases hdecode
  rfl

end StoreDocument
end MetadataAudit
