import Stencil.Profile.Codec
import Stencil.Proofs.Computation

/-!
# Checked profiles

The check of a profile looks at the entries of the base tags and at the templates for names. It does
not look at the entries of the extended tags, unless they are those of plain texts.

## Key results

- `Profile.check_eq_ok_iff`: what the check of a profile finds out
- `Profile.check_resolved`: filling in the types in comments does not change that
- `TypeTable.Filled.exists_given`: where an entry of a checked table can be unbalanced
-/

namespace Stencil

open Text

/-- A template passes the check iff it is balanced. -/
theorem checkTemplate_eq_ok_iff {field template : String} :
    checkTemplate field template = .ok () ↔ imbalance? template.toList = none := by
  rw [checkTemplate, mapError_eq_ok_iff, checkBalance_eq_ok_iff]

/-! ## Tables of types -/

namespace TypeTable

/-- A table with the same type for all tags. -/
def uniform (s : String) : TypeTable where
  null := s
  bool := s
  int := s
  float := s
  string := s
  object := s
  array := s
  arrayBool := s
  arrayInt := s
  arrayFloat := s
  arrayString := s
  arrayObject := s

/-- The entries of all base tags are there and balanced. -/
def Filled (t : TypeTable) : Prop :=
  ∀ tag ∈ Tag.base, isBlank (t.entry tag) = false ∧ imbalance? (t.entry tag).toList = none

variable {t : TypeTable} {tag : Tag}

/-- A table passes the check iff it is filled. -/
theorem check_eq_ok_iff {field : String} : t.check field = .ok () ↔ t.Filled := by
  rw [check, forM_eq_ok_iff]
  refine forall₂_congr fun tag _ => ?_
  dsimp only
  -- A blank entry is missing, any other has to be balanced.
  cases hblank : isBlank (t.entry tag) with
  | true =>
    rw [if_pos rfl]
    constructor
    · intro h
      cases h
    · rintro ⟨h, -⟩
      cases h
  | false =>
    rw [if_neg Bool.false_ne_true]
    show checkTemplate _ _ = _ ↔ _
    rw [checkTemplate_eq_ok_iff, eq_self, true_and]

/-- The entry of an extended tag is given, or else that of plain texts. -/
theorem entry_of_mem_extended (h : tag ∈ Tag.extended) :
    t.entry tag = (t.given? tag).getD t.string := by
  revert tag
  rw [Tag.extended]
  simp [entry, given?]

/-- An entry that is given for an extended tag is the one that is taken. -/
theorem entry_of_given {s : String} (h : t.given? tag = some s) : t.entry tag = s := by
  have hextended : tag ∈ Tag.extended := by
    cases tag <;> first | decide | cases h
  rw [entry_of_mem_extended hextended, h, Option.getD_some]

/-- Only entries that are given for extended tags can be unbalanced. -/
theorem Filled.exists_given (h : t.Filled) {i : Imbalance}
    (hi : imbalance? (t.entry tag).toList = some i) :
    tag ∈ Tag.extended ∧ ∃ s, t.given? tag = some s ∧ imbalance? s.toList = some i := by
  -- The entries of base tags are balanced, so the tag is an extended one.
  have hbase : tag ∉ Tag.base := fun hmem => by
    rw [(h tag hmem).2] at hi
    cases hi
  have hextended : tag ∈ Tag.extended := by
    revert hbase
    cases tag <;> decide
  rw [entry_of_mem_extended hextended] at hi
  cases hgiven : t.given? tag with
  | some s =>
    rw [hgiven] at hi
    exact ⟨hextended, s, rfl, hi⟩
  | none =>
    rw [hgiven] at hi
    have hstring := (h .string (by decide)).2
    cases hi.symm.trans hstring

end TypeTable

/-! ## Profiles -/

namespace Profile

/-- A profile has a code, filled tables and balanced templates. -/
structure WellFormed (p : Profile) : Prop where
  code : isBlank p.code = false
  types : p.types.Filled
  docTypes : p.docTypes.Filled
  className : imbalance? p.classNameTemplate.toList = none
  fileName : imbalance? p.fileNameTemplate.toList = none

variable {p : Profile}

/-- The check of the types in comments, if there are any. -/
def checkDocTypes (p : Profile) : Except Problem Unit :=
  match p.docTypes? with
  | some t => t.check "langSettings.typeDocMapping"
  | none => .ok ()

/-- With a code, the check goes through the tables and the templates for names. -/
theorem check_eq (h : isBlank p.code = false) :
    p.check = (do
      p.types.check "langSettings.typeMapping"
      p.checkDocTypes
      checkTemplate "langSettings.classNameTemplate" p.classNameTemplate
      checkTemplate "langSettings.fileNameTemplate" p.fileNameTemplate) := by
  rw [check, h, checkDocTypes]
  cases p.docTypes? <;> rfl

/-- Without types in comments, those of the code stand there, and they are checked anyway. -/
theorem checkDocTypes_eq_ok_iff (h : p.types.Filled) :
    p.checkDocTypes = .ok () ↔ p.docTypes.Filled := by
  rw [checkDocTypes, docTypes]
  cases p.docTypes? with
  | none => exact ⟨fun _ => h, fun _ => rfl⟩
  | some t => exact TypeTable.check_eq_ok_iff

/-- The check accepts exactly the well-formed profiles. -/
theorem check_eq_ok_iff : p.check = .ok () ↔ p.WellFormed := by
  -- A profile without a code fails at once.
  cases hcode : isBlank p.code with
  | true =>
    have hcheck : p.check = .error (.missingField "langSettings.code") := by
      rw [check, hcode]
      rfl
    rw [hcheck]
    exact ⟨fun h => (by cases h), fun h => absurd (hcode.symm.trans h.code) Bool.true_eq_false.mp⟩
  | false =>
    rw [check_eq hcode]
    simp only [bind_unit_eq_ok_iff, TypeTable.check_eq_ok_iff, checkTemplate_eq_ok_iff]
    constructor
    · rintro ⟨htypes, hdocTypes, hclass, hfile⟩
      exact ⟨hcode, htypes, (checkDocTypes_eq_ok_iff htypes).1 hdocTypes, hclass, hfile⟩
    · rintro ⟨-, htypes, hdocTypes, hclass, hfile⟩
      exact ⟨htypes, (checkDocTypes_eq_ok_iff htypes).2 hdocTypes, hclass, hfile⟩

/-- The types in comments pass the check when they are filled in. -/
theorem check_resolved : p.resolved.check = .ok () ↔ p.check = .ok () := by
  rw [check_eq_ok_iff, check_eq_ok_iff]
  exact ⟨fun h => ⟨h.code, h.types, h.docTypes, h.className, h.fileName⟩,
    fun h => ⟨h.code, h.types, h.docTypes, h.className, h.fileName⟩⟩

end Profile

end Stencil
