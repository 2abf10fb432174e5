import Mathlib.Algebra.Group.Nat.Defs
import Stencil.Generate.Basic
import Stencil.Proofs.Datum.Records
import Stencil.Proofs.Schema.RoundTrip

/-!
# Reading what has been written

Profiles, configurations, responses and schema trees are written as JSON values, and each is read from
its value as it was. A record is written in the order of its fields, and what is left out of it is what
stands for a field that is not given. The one thing that can be lost is a time that takes more than 64
bits.

## Key results

- `TypeTable.ofDatum_toJson`, `Profile.ofDatum_toJson`, `Config.ofDatum_toJson`,
  `RenderedFile.ofDatum_toJson`: a record that has been taken apart
- `Response.ofJson_toJson`: a response, of any time
- `decode_encode`: all that can be read
-/

namespace Stencil

open Json (Members)

/-! ## Tables of types -/

/-- Tags are told apart by their names. -/
theorem Tag.name_injective (a b : Tag) (h : a.name = b.name) : a = b := by
  have hb := ofName?_name b
  rw [← h, ofName?_name a] at hb
  exact Option.some.inj hb

namespace TypeTable

/-- The field for a tag. -/
def field (tag : Tag) : FieldRule × Shape :=
  ({ name := tag.name, nullable := decide (tag ∉ Tag.base) }, .text)

/-- There is a field for each tag. -/
theorem fields_eq : fields = Tag.all.map field := rfl

/-- No tag goes by the name of another one. -/
theorem separate_fields : Separate fields := by decide +kernel

/-- What is written for a tag. -/
def written? (t : TypeTable) (tag : Tag) : Option String :=
  if tag ∈ Tag.base then some (t.entry tag) else t.given? tag

variable (t : TypeTable)

/-- A table is written tag by tag. -/
theorem toJson_eq : t.toJson = .object (Tag.all.filterMap fun tag =>
    (t.written? tag).map fun s => (tag.name, .string s)) := rfl

/-- What is written of a table fills its fields. -/
theorem fills : Fills fields (Tag.all.filterMap fun tag =>
    (t.written? tag).map fun s => (tag.name, .string s)) := by
  rw [fields_eq]
  exact Fills.filterMap field (fun _ => rfl) (fun _ s => Shape.admits_text s) Tag.all

theorem admits_toJson : (Shape.record fields).Admits t.toJson :=
  t.fills.admits separate_fields

/-- What is found under the name of a tag. -/
theorem field?_toJson (tag : Tag) :
    (Datum.field? fields tag.name (.ofJson t.toJson)).bind Datum.text? = t.written? tag := by
  have hname : tag.name ∈ fields.map (·.1.name) :=
    List.mem_map.2 ⟨field tag, List.mem_map.2 ⟨tag, tag.mem_all, rfl⟩, rfl⟩
  rw [toJson_eq, t.fills.field?_eq separate_fields _ hname,
    Members.get?_filterMap Tag.name_injective t.written? Json.string tag.mem_all]
  cases t.written? tag <;> rfl

/-- A table is read as it was written. -/
theorem ofDatum_toJson : ofDatum (.ofJson t.toJson) = t := by
  simp only [ofDatum, field?_toJson]
  rfl

end TypeTable

/-! ## Profiles -/

namespace Profile

theorem separate_fields : Separate fields := by decide +kernel

variable {ms : Members} (p : Profile)

/-- What is written of a profile fills its fields. -/
theorem fills (h : p.toJson = .object ms) : Fills fields ms := by
  obtain rfl := Json.object.inj h
  refine .give (Shape.admits_text p.code) (.give (Shape.admits_text p.name)
    (.give (Shape.admits_text p.fileExtension) (.give (Shape.admits_flag p.splitByFiles)
      (.give p.types.admits_toJson ?_))))
  -- The types in comments may be missing, but not what stands behind them.
  exact .option p.docTypes? rfl TypeTable.admits_toJson
    (.give (Shape.admits_text p.classNameTemplate)
      (.give (Shape.admits_text p.fileNameTemplate) .nil))

theorem admits_toJson : (Shape.record fields).Admits p.toJson :=
  (p.fills rfl).admits separate_fields

/-- A profile is read as it was written. -/
theorem ofDatum_toJson : ofDatum (.ofJson p.toJson) = p := by
  -- Each field is looked up under its name among what is written.
  have hfield := (p.fills rfl).field?_eq separate_fields
  rw [toJson, ofDatum]
  simp (disch := decide) only [hfield]
  -- The templates are found behind the types in comments, if these are given.
  obtain ⟨code, name, fileExtension, splitByFiles, types, docTypes?, className, fileName⟩ := p
  cases docTypes? <;> simp [Members.get?_cons, TypeTable.ofDatum_toJson]

end Profile

/-! ## Configurations -/

namespace Config

theorem separate_fields : Separate fields := by decide +kernel

variable {ms : Members} (c : Config)

/-- What is written of a configuration fills its fields. -/
theorem fills (h : c.toJson = .object ms) : Fills fields ms := by
  rw [toJson, List.append_assoc] at h
  obtain rfl := Json.object.inj h
  refine .option c.lang rfl Shape.admits_text (.option c.langSettings rfl Profile.admits_toJson ?_)
  -- All other options are written, also if they are the same as by default.
  exact .give (Shape.admits_text c.dataFormat) (.give (Shape.admits_text c.rootClassName)
    (.give (Shape.admits_text c.prefixClassName) (.give (Shape.admits_text c.suffixClassName)
      (.give (Shape.admits_flag c.sortProperties)
        (.give (Shape.admits_flag c.detectStringSubtypes) .nil)))))

/-- A configuration is read as it was written. -/
theorem ofDatum_toJson : ofDatum (.ofJson c.toJson) = c := by
  have hfield := (c.fills rfl).field?_eq separate_fields
  rw [toJson, ofDatum]
  simp (disch := decide) only [hfield]
  -- The first two fields are written only if they are given.
  obtain ⟨lang, langSettings, dataFormat, root, pre, suffix, sort, detect⟩ := c
  cases lang <;> cases langSettings <;> simp [Members.get?_cons, Profile.ofDatum_toJson]

end Config

/-! ## Responses -/

namespace RenderedFile

theorem separate_fields : Separate fields := by decide +kernel

variable {ms : Members} (f : RenderedFile)

/-- What is written of a file fills its fields. -/
theorem fills (h : f.toJson = .object ms) : Fills fields ms := by
  obtain rfl := Json.object.inj h
  exact .give (Shape.admits_text f.fileName) (.give (Shape.admits_text f.content) .nil)

theorem admits_toJson : (Shape.record fields).Admits f.toJson :=
  (f.fills rfl).admits separate_fields

/-- A file is read as it was written. -/
theorem ofDatum_toJson : ofDatum (.ofJson f.toJson) = f := by
  have hfield := (f.fills rfl).field?_eq separate_fields
  rw [toJson, ofDatum]
  simp (disch := decide) only [hfield]
  simp [Members.get?_cons]

end RenderedFile

namespace Response

theorem separate_fields : Separate fields := by decide +kernel

variable {ms : Members} (r : Response)

/-- What is written of a response fills its fields. -/
theorem fills (h : r.toJson = .object ms) : Fills fields ms := by
  obtain rfl := Json.object.inj h
  have hfiles : ∀ v ∈ r.files.map RenderedFile.toJson,
      (Shape.record RenderedFile.fields).Admits v := by
    intro v hv
    obtain ⟨f, -, rfl⟩ := List.mem_map.1 hv
    exact f.admits_toJson
  -- What is written of the time fits into 64 bits.
  have hnanos : r.nanos % 1 <<< 64 < 1 <<< 64 := Nat.mod_lt _ (by decide)
  exact .give (Shape.admits_list hfiles) (.give (Shape.admits_natural hnanos) .nil)

/-- Of the time, only what 64 bits can hold is left. -/
theorem ofDatum_toJson : ofDatum (.ofJson r.toJson) = { r with nanos := r.nanos % 1 <<< 64 } := by
  have hfield := (r.fills rfl).field?_eq separate_fields
  rw [toJson, ofDatum]
  simp (disch := decide) only [hfield]
  -- Nothing else has to be known about the time that has been written.
  generalize r.nanos % 1 <<< 64 = nanos
  simp [Members.get?_cons, Function.comp_def, RenderedFile.ofDatum_toJson]

/-- A response is read with what is left of its time. -/
theorem ofJson_toJson :
    decoder.ofJson r.toJson = .ok { r with nanos := r.nanos % 1 <<< 64 } :=
  Decoder.ofJson_eq_ok ((r.fills rfl).admits separate_fields) r.ofDatum_toJson

example : (decoder.ofJson (Response.mk [] (2 ^ 64)).toJson).toOption = some ⟨[], 0⟩ := by
  decide +kernel

end Response

/-- All that is written is read as it was: any schema tree, profile and configuration, and any response
whose time takes 64 bits at most. -/
theorem decode_encode :
    (∀ n : Schema.Node, Schema.Node.ofJson? n.toJson = some n) ∧
    (∀ p : Profile, Profile.decoder.ofJson p.toJson = .ok p) ∧
    (∀ c : Config, Config.decoder.ofJson c.toJson = .ok c) ∧
    ∀ r : Response, r.nanos < 2 ^ 64 → Response.decoder.ofJson r.toJson = .ok r := by
  refine ⟨Schema.Node.ofJson?_toJson,
    fun p => Decoder.ofJson_eq_ok p.admits_toJson p.ofDatum_toJson,
    fun c => Decoder.ofJson_eq_ok ((c.fills rfl).admits Config.separate_fields) c.ofDatum_toJson,
    fun r hr => ?_⟩
  -- A time that fits is written as it is.
  have hnanos : r.nanos % 1 <<< 64 = r.nanos := Nat.mod_eq_of_lt hr
  rw [r.ofJson_toJson, hnanos]

/-- The longest time that is kept. -/
theorem decode_encode_longest :
    Response.decoder.ofJson (Response.mk [⟨"f", "t"⟩] (2 ^ 64 - 1)).toJson =
      .ok ⟨[⟨"f", "t"⟩], 2 ^ 64 - 1⟩ :=
  decode_encode.2.2.2 _ (by decide)

end Stencil
