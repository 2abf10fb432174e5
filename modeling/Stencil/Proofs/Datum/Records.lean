import Mathlib.Data.List.Pairwise
import Mathlib.Data.Option.Basic
import Stencil.Datum.Shape
import Stencil.Proofs.Json.Members
import Stencil.Proofs.Lists

/-!
# Objects as records

An object fills the fields of a record if it gives some of them under their names and in their order,
among them all that are required, and each value has the shape of its field. If no field goes by the
name of another one, such an object has the shape of the record, and the field that is taken out of it
under a name is the value that stands there.

## Key results

- `Awaits.skip`, `Awaits.give`: what a reader still has to see after each field
- `Fills.admits`: an object that fills the fields of a record has its shape
- `Fills.field?_eq`: what is taken out of such an object
- `Decoder.ofJson_eq_ok`: a value of the right shape is read as what it holds
-/

namespace Stencil

open Json (Members)

/-! ## Readings of values -/

namespace Datum

@[simp] theorem text?_ofJson (s : String) : (ofJson (.string s)).text? = some s := rfl

@[simp] theorem flag?_ofJson (b : Bool) : (ofJson (.bool b)).flag? = some b := rfl

@[simp] theorem natural?_ofJson (n : Nat) : (ofJson (.number (.whole n))).natural? = some n := rfl

/-- Items are read one by one. -/
theorem ofItems_eq_map (vs : List Json) : ofItems vs = vs.map ofJson := by
  induction vs with
  | nil => rfl
  | cons v vs ih => rw [ofItems, ih, List.map_cons]

/-- The items of an array are those of its values. -/
@[simp] theorem items_ofJson (vs : List Json) : (ofJson (.array vs)).items = vs.map ofJson :=
  ofItems_eq_map vs

end Datum

/-! ## Values of a shape -/

namespace Shape

variable {shape : Shape} {v : Json}

/-- The value has the shape. -/
def Admits (shape : Shape) (v : Json) : Prop := shape.fault? (.ofJson v) = none

theorem admits_text (s : String) : Shape.text.Admits (.string s) := rfl

theorem admits_flag (b : Bool) : Shape.flag.Admits (.bool b) := rfl

/-- A number that 64 bits can hold is a natural one. -/
theorem admits_natural {n : Nat} (h : n < 1 <<< 64) : Shape.natural.Admits (.number (.whole n)) := by
  have hfits : Shape.natural.fits (Datum.scalarOf (.number (.whole n))) = true := by
    simpa [fits, Datum.scalarOf] using h
  exact if_pos hfits

/-- There is no fault among items that have the shape. -/
theorem itemsFault?_ofItems {vs : List Json} (h : ∀ v ∈ vs, shape.Admits v) :
    shape.itemsFault? (Datum.ofItems vs) = none := by
  induction vs with
  | nil => rfl
  | cons v vs ih =>
    obtain ⟨hv, hvs⟩ := List.forall_mem_cons.1 h
    exact (Option.orElse_eq_none _ _).2 ⟨hv, ih hvs⟩

/-- An array of values of a shape is a list of it. -/
theorem admits_list {vs : List Json} (h : ∀ v ∈ vs, shape.Admits v) :
    (Shape.list shape).Admits (.array vs) :=
  (Option.orElse_eq_none _ _).2 ⟨itemsFault?_ofItems h, rfl⟩

/-- Only null stands for an absent value, and it has no shape. -/
theorem Admits.isAbsent (h : shape.Admits v) : isAbsent (.ofJson v) = false := by
  -- Every shape has a fault for null.
  cases v with
  | null => cases shape <;> cases h
  | number n =>
    cases n with
    | whole n => rfl
    | real x => rfl
  | _ => rfl

end Shape

/-- A value of the right shape is read as what it holds. -/
theorem Decoder.ofJson_eq_ok {α : Type} {d : Decoder α} {v : Json} {a : α} (h : d.shape.Admits v)
    (ha : d.build (.ofJson v) = a) : d.ofJson v = .ok a := by
  have hfault : d.shape.fault? (.ofJson v) = none := h
  rw [ofJson, run, hfault, ← ha]

/-! ## Fields with names of their own -/

variable {fields : List (FieldRule × Shape)} {f g : FieldRule × Shape} {ms : Members}

/-- Neither field goes by the name of the other one. -/
def Differ (f g : FieldRule × Shape) : Prop :=
  f.1.answers g.1.name = false ∧ g.1.answers f.1.name = false

instance : Std.Symm Differ := ⟨fun _ _ h => h.symm⟩

instance : Decidable (Differ f g) := inferInstanceAs (Decidable (_ ∧ _))

/-- No field goes by the name of another one. -/
def Separate (fields : List (FieldRule × Shape)) : Prop := fields.Pairwise Differ

instance : Decidable (Separate fields) := inferInstanceAs (Decidable (List.Pairwise Differ fields))

/-- A field goes by its own name. -/
theorem FieldRule.answers_name (f : FieldRule) : f.answers f.name = true := by
  simp [answers]

/-- A name is answered by the field that has it only. -/
theorem Separate.eq_of_answers (hsep : Separate fields) (hf : f ∈ fields) (hg : g ∈ fields)
    (h : f.1.answers g.1.name = true) : f = g := by
  by_contra hne
  cases (hsep.forall hf hg hne).1.symm.trans h

/-- No two fields have the same name. -/
theorem Separate.eq_of_name (hsep : Separate fields) (hf : f ∈ fields) (hg : g ∈ fields)
    (h : f.1.name = g.1.name) : f = g :=
  hsep.eq_of_answers hf hg (by rw [← h, FieldRule.answers_name])

/-- The rule for the name of a field is that of the field. -/
theorem Separate.ruleFor?_name (hsep : Separate fields) (hf : f ∈ fields) :
    Shape.ruleFor? fields f.1.name = some f := by
  cases h : Shape.ruleFor? fields f.1.name with
  | none =>
    have hnone := List.find?_eq_none.1 h f hf
    exact absurd f.1.answers_name hnone
  | some g =>
    rw [Shape.ruleFor?] at h
    have hanswers : g.1.answers f.1.name = true := by simpa using List.find?_some h
    rw [hsep.eq_of_answers (List.mem_of_find?_eq_some h) hf hanswers]

/-- Among members that stand under the names of fields, a field answers those under its own name. -/
theorem Separate.find?_ofMembers (hsep : Separate fields) (hf : f ∈ fields)
    (h : ∀ m ∈ ms, ∃ g ∈ fields, g.1.name = m.1) :
    ((Datum.ofMembers ms).find? fun m => m.1.any f.1.answers).map (·.2) =
      (ms.get? f.1.name).map Datum.ofJson := by
  induction ms with
  | nil => rfl
  | cons m ms ih =>
    obtain ⟨k, v⟩ := m
    obtain ⟨⟨g, hg, hk⟩, hms⟩ := List.forall_mem_cons.1 h
    obtain rfl : g.1.name = k := hk
    rw [Datum.ofMembers, Members.get?_cons, List.find?_cons]
    -- The first member stands under the name of the field or under that of another one.
    by_cases hname : g.1.name = f.1.name
    · have hanswers : f.1.answers g.1.name = true := by rw [hname, FieldRule.answers_name]
      rw [if_pos hname, show (some g.1.name).any f.1.answers = true from hanswers]
      rfl
    · have hanswers : f.1.answers g.1.name = false := by
        rw [Bool.eq_false_iff]
        exact fun h => hname (by rw [hsep.eq_of_answers hf hg h])
      rw [if_neg hname, show (some g.1.name).any f.1.answers = false from hanswers]
      exact ih hms

/-- The field that is looked for is the one of the name. -/
theorem Separate.findSome?_name {α : Type} (hsep : Separate fields) (hf : f ∈ fields)
    (found : FieldRule × Shape → Option α) :
    (fields.findSome? fun g => if g.1.name == f.1.name then found g else none) = found f := by
  rw [List.findSome?_eq_of_mem hf]
  · exact if_pos (beq_self_eq_true _)
  · intro g hg hfound
    by_contra hne
    -- Another field has another name, so it is passed over.
    exact hfound (if_neg fun hname => hne (hsep.eq_of_name hg hf (eq_of_beq hname)))

/-! ## Reading the members of a record -/

variable {rest : List (FieldRule × Shape)} {seen : List String}

/-- A reader who has seen fields of these names awaits the rest of all fields: none of the rest has been
seen, and nothing else that is required is missing. -/
structure Awaits (fields rest : List (FieldRule × Shape)) (seen : List String) : Prop where
  sublist : rest.Sublist fields
  fresh : ∀ f ∈ rest, f.1.name ∉ seen
  required : ∀ f ∈ fields, f.1.required = true → f.1.name ∈ seen ∨ f ∈ rest

namespace Awaits

/-- In front of all members, all fields are awaited. -/
theorem start : Awaits fields fields [] where
  sublist := .refl fields
  fresh _ _ := List.not_mem_nil
  required _ hf _ := .inr hf

/-- A field that may be left out is awaited no longer. -/
theorem skip (h : Awaits fields (f :: rest) seen) (hf : f.1.required = false) :
    Awaits fields rest seen where
  sublist := (List.sublist_cons_self f rest).trans h.sublist
  fresh g hg := h.fresh g (List.mem_cons_of_mem f hg)
  required g hg hr := by
    refine (h.required g hg hr).imp_right fun hmem => ?_
    rcases List.mem_cons.1 hmem with rfl | hmem
    · cases hf.symm.trans hr
    · exact hmem

/-- A field that is given has been seen. -/
theorem give (h : Awaits fields (f :: rest) seen) (hsep : Separate fields) :
    Awaits fields rest (f.1.name :: seen) where
  sublist := (List.sublist_cons_self f rest).trans h.sublist
  fresh g hg := by
    rw [List.mem_cons, not_or]
    -- Of the rest, none has been seen before, nor now.
    refine ⟨fun hname => ?_, h.fresh g (List.mem_cons_of_mem f hg)⟩
    -- There is only one field of the name.
    have hanswers := (List.rel_of_pairwise_cons (hsep.sublist h.sublist) hg).1
    rw [hname, f.1.answers_name] at hanswers
    cases hanswers
  required g hg hr := by
    rcases h.required g hg hr with hname | hmem
    · exact .inl (List.mem_cons_of_mem _ hname)
    · rcases List.mem_cons.1 hmem with rfl | hmem
      · exact .inl List.mem_cons_self
      · exact .inr hmem

/-- When no more fields are awaited, all that are required have been seen. -/
theorem complete (h : Awaits fields [] seen) : Shape.complete fields seen = true := by
  rw [Shape.complete, List.all_eq_true]
  intro f hf
  -- Fields that are not required may be missing.
  by_cases hr : f.1.required = true
  · have hname := (h.required f hf hr).resolve_right List.not_mem_nil
    simp [hname]
  · simp [hr]

end Awaits

/-! ## Objects that fill the fields of a record -/

/-- The members give some of the fields in their order, among them all that are required. -/
inductive Fills : List (FieldRule × Shape) → Members → Prop
  | nil : Fills [] []
  | skip {f : FieldRule} {s : Shape} {fields : List (FieldRule × Shape)} {ms : Members}
      (h : f.required = false) (hms : Fills fields ms) : Fills ((f, s) :: fields) ms
  | give {f : FieldRule} {s : Shape} {fields : List (FieldRule × Shape)} {ms : Members} {v : Json}
      (h : s.Admits v) (hms : Fills fields ms) : Fills ((f, s) :: fields) ((f.name, v) :: ms)

namespace Fills

/-- A field that may be left out can be given or not. -/
theorem option {α : Type} {f : FieldRule} {s : Shape} (a? : Option α) {encode : α → Json}
    (hf : f.required = false) (h : ∀ a, s.Admits (encode a)) (hms : Fills fields ms) :
    Fills ((f, s) :: fields) ((a?.map fun a => (f.name, encode a)).toList ++ ms) := by
  cases a? with
  | none => exact skip hf hms
  | some a => exact give (h a) hms

/-- Of fields that may all be left out, any can be given. -/
theorem filterMap {α β : Type} (field : α → FieldRule × Shape) {given? : α → Option β}
    {encode : β → Json} (hfield : ∀ a, (field a).1.required = false)
    (h : ∀ a b, (field a).2.Admits (encode b)) (as : List α) :
    Fills (as.map field)
      (as.filterMap fun a => (given? a).map fun b => ((field a).1.name, encode b)) := by
  induction as with
  | nil => exact nil
  | cons a as ih =>
    rw [List.filterMap_cons]
    cases given? a with
    | none => exact skip (hfield a) ih
    | some b => exact give (h a b) ih

/-- Each member is a field with a value of its shape. -/
theorem exists_field (h : Fills fields ms) {k : String} {v : Json} (hm : (k, v) ∈ ms) :
    ∃ f ∈ fields, f.1.name = k ∧ f.2.Admits v := by
  induction h with
  | nil => cases hm
  | skip _ _ ih =>
    obtain ⟨f, hf, hk⟩ := ih hm
    exact ⟨f, List.mem_cons_of_mem _ hf, hk⟩
  | @give f s _ _ _ hv _ ih =>
    -- It is the member in front, or one of the others.
    rcases List.mem_cons.1 hm with heq | hm
    · obtain ⟨rfl, rfl⟩ := Prod.mk.inj heq
      exact ⟨(f, s), List.mem_cons_self, rfl, hv⟩
    · obtain ⟨f, hf, hk⟩ := ih hm
      exact ⟨f, List.mem_cons_of_mem _ hf, hk⟩

/-- A reader who awaits the fields that the members fill meets no fault among them. -/
theorem membersFault?_eq_none (h : Fills rest ms) (hsep : Separate fields)
    (hawaits : Awaits fields rest seen) :
    Shape.membersFault? fields none seen (Datum.ofMembers ms) = none := by
  -- Member by member, with the names of the fields that have been given so far.
  induction h generalizing seen with
  | nil =>
    show Shape.endFault? none _ = none
    rw [hawaits.complete]
    rfl
  | skip hf _ ih => exact ih (hawaits.skip hf)
  | @give f s rest ms v hv _ ih =>
    have hf : (f, s) ∈ fields := hawaits.sublist.subset List.mem_cons_self
    have hseen : seen.contains f.name = false := by
      simpa using hawaits.fresh (f, s) List.mem_cons_self
    have hfault : s.fault? (.ofJson v) = none := hv
    rw [Datum.ofMembers, Shape.membersFault?, hsep.ruleFor?_name hf]
    show (if seen.contains f.name then _ else _) = none
    rw [hseen, hfault, ih (hawaits.give hsep)]
    simp

/-- An object that fills the fields of a record has its shape. -/
theorem admits (h : Fills fields ms) (hsep : Separate fields) :
    (Shape.record fields).Admits (.object ms) :=
  h.membersFault?_eq_none hsep .start

/-- The field that is taken out under a name is the value that stands there. -/
theorem field?_eq (h : Fills fields ms) (hsep : Separate fields) (name : String)
    (hname : name ∈ fields.map (·.1.name)) :
    Datum.field? fields name (.ofJson (.object ms)) = (ms.get? name).map Datum.ofJson := by
  obtain ⟨f, hf, rfl⟩ := List.mem_map.1 hname
  have hnames : ∀ m ∈ ms, ∃ g ∈ fields, g.1.name = m.1 := by
    rintro ⟨k, v⟩ hm
    obtain ⟨g, hg, hk, -⟩ := h.exists_field hm
    exact ⟨g, hg, hk⟩
  have hfound := hsep.findSome?_name hf fun g =>
    ((Datum.ofMembers ms).find? fun m => m.1.any g.1.answers).map (·.2)
  show Option.filter _ (fields.findSome? _) = _
  rw [hfound, hsep.find?_ofMembers hf hnames]
  -- No value that is given stands for an absent one.
  cases hv : ms.get? f.1.name with
  | none => rfl
  | some v =>
    obtain ⟨g, -, -, hadmits⟩ := h.exists_field (Members.mem_of_get? hv)
    simp [hadmits.isAbsent]

end Fills

end Stencil
