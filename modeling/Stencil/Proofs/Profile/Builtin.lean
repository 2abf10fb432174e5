import Stencil.Proofs.Format.SmallTemplates
import Stencil.Proofs.Profile.Checking

/-!
# Built-in profiles

The templates of the built-in profiles are plain text or hold the name of the node in a style. Such
templates are balanced, so the built-in profiles pass the check.

## Key results

- `Profile.namesOnly_of_builtin`: the templates of the built-in profiles
- `Profile.check_builtin`: they pass the check
-/

namespace Stencil

open Naming (Style)
open Text (isBlank)

/-! ## Templates that hold names only -/

/-- A template is plain text, or the name of the node in a style between text without braces. -/
inductive NameTemplate : String → Prop
  | plain {s : String} (hblank : isBlank s = false) (h : mayHoldMarks s.toList = false) :
      NameTemplate s
  | name (before after : String) (style : Style) (hbefore : '\x7b' ∉ before.toList)
      (hafter : '\x7b' ∉ after.toList) : NameTemplate (before ++ Profile.nameIn style ++ after)

/-- The name alone. -/
theorem NameTemplate.ofStyle (style : Style) : NameTemplate (Profile.nameIn style) := by
  have h := NameTemplate.name "" "" style (by decide) (by decide)
  rwa [String.empty_append, String.append_empty] at h

namespace NameTemplate

variable {s : String}

/-- A template that holds names only is balanced. -/
theorem imbalance?_eq_none (h : NameTemplate s) : imbalance? s.toList = none := by
  cases h with
  | plain _ h => exact imbalance?_of_mayHoldMarks h
  | name _ _ style hbefore hafter => exact imbalance?_nameIn style hbefore hafter

/-- It is not blank: the name stands between braces. -/
theorem isBlank_eq_false (h : NameTemplate s) : isBlank s = false := by
  cases h with
  | plain hblank _ => exact hblank
  | name before after style _ _ =>
    rw [isBlank, List.all_eq_false]
    refine ⟨'\x7b', ?_, by decide +kernel⟩
    simp [Profile.nameIn]

end NameTemplate

namespace Profile

/-- A profile that declares classes under the Pascal case of their names, and all of whose templates
hold names only. -/
structure NamesOnly (p : Profile) : Prop where
  types : ∀ tag, NameTemplate (p.types.entry tag)
  docTypes : ∀ tag, NameTemplate (p.docTypes.entry tag)
  className : p.classNameTemplate = nameIn .pascal
  fileName : ∃ style, p.fileNameTemplate = nameIn style

/-- A profile whose templates hold names only is well formed if it has a code. -/
theorem NamesOnly.wellFormed {p : Profile} (h : p.NamesOnly) (hcode : isBlank p.code = false) :
    p.WellFormed where
  code := hcode
  types tag _ := ⟨(h.types tag).isBlank_eq_false, (h.types tag).imbalance?_eq_none⟩
  docTypes tag _ := ⟨(h.docTypes tag).isBlank_eq_false, (h.docTypes tag).imbalance?_eq_none⟩
  className := by
    rw [h.className]
    exact (NameTemplate.ofStyle .pascal).imbalance?_eq_none
  fileName := by
    obtain ⟨style, hstyle⟩ := h.fileName
    rw [hstyle]
    exact (NameTemplate.ofStyle style).imbalance?_eq_none

/-! ## The built-in profiles -/

/-- The types of the common profile. -/
private theorem nameTemplate_common (tag : Tag) : NameTemplate (common.types.entry tag) := by
  cases tag with
  | object => exact .ofStyle .camel
  | arrayObject => exact .name "[]" "" .camel (by decide) (by decide)
  | _ => exact .plain (by decide) (by decide)

/-- The types of Go, where classes are pointers. -/
private theorem nameTemplate_go (tag : Tag) : NameTemplate (go.types.entry tag) := by
  cases tag with
  | object => exact .name "*" "" .pascal (by decide) (by decide)
  | arrayObject => exact .name "[]*" "" .pascal (by decide) (by decide)
  | _ => exact .plain (by decide) (by decide)

/-- The types of Go from version 1.20 on, which differ in none of the classes. -/
private theorem nameTemplate_go120 (tag : Tag) : NameTemplate (go120.types.entry tag) := by
  cases tag with
  | object => exact nameTemplate_go .object
  | arrayObject => exact nameTemplate_go .arrayObject
  | _ => exact .plain (by decide) (by decide)

/-- The types of PHP, and those of its comments, where arrays have their items. -/
private theorem nameTemplate_php (tag : Tag) :
    NameTemplate (php.types.entry tag) ∧ NameTemplate (php.docTypes.entry tag) := by
  cases tag with
  | object => exact ⟨.ofStyle .pascal, .ofStyle .pascal⟩
  | arrayObject =>
    exact ⟨.plain (by decide) (by decide), .name "" "[]" .pascal (by decide) (by decide)⟩
  | _ => exact ⟨.plain (by decide) (by decide), .plain (by decide) (by decide)⟩

/-- The built-in profiles are of this kind. -/
theorem namesOnly_of_builtin : ∀ p ∈ builtin, p.NamesOnly := by
  simp only [builtin, List.forall_mem_cons]
  exact ⟨⟨nameTemplate_common, nameTemplate_common, rfl, ⟨.camel, rfl⟩⟩,
    ⟨nameTemplate_go, nameTemplate_go, rfl, ⟨.snake, rfl⟩⟩,
    ⟨nameTemplate_go120, nameTemplate_go120, rfl, ⟨.snake, rfl⟩⟩,
    ⟨fun tag => (nameTemplate_php tag).1, fun tag => (nameTemplate_php tag).2, rfl, ⟨.pascal, rfl⟩⟩,
    fun p hp => absurd hp List.not_mem_nil⟩

/-- The built-in profiles pass the check. -/
theorem check_builtin : ∀ p ∈ builtin, p.check = .ok () := by
  have hcode : ∀ p ∈ builtin, isBlank p.code = false := by decide +kernel
  exact fun p hp => check_eq_ok_iff.2 ((namesOnly_of_builtin p hp).wellFormed (hcode p hp))

end Profile

end Stencil
