import Stencil.Proofs.Format.Filling
import Stencil.Proofs.Profile.Builtin

/-!
# Formatting with built-in profiles

The templates of the built-in profiles hold names only, so they can be rendered for every node, and
every tree can be formatted.

## Key results

- `className_eq`: the name under which the class of a key is declared
- `fileName_eq`: the name of a file in a style
- `exists_tree`: every tree can be formatted
-/

namespace Stencil

open Schema (Node)
open Naming (Style)

/-- A template that holds names only can be rendered for every node. -/
theorem NameTemplate.exists_renderInline {s : String} (h : NameTemplate s) (name : String)
    (n : Node) : ∃ out, renderInline name s (View.shallow n) = .ok out := by
  cases h with
  | plain _ h => exact ⟨s, renderInline_plain h name _⟩
  | name _ _ style hbefore hafter => exact ⟨_, renderInline_nameIn style hbefore hafter name n⟩

/-- The template of a style alone. -/
theorem renderInline_nameIn_alone (name : String) (style : Style) (n : Node) :
    renderInline name (Profile.nameIn style) (View.shallow n) = .ok (style.convert n.name) := by
  have h : renderInline name ("" ++ Profile.nameIn style ++ "") (View.shallow n) = _ :=
    renderInline_nameIn style (by decide) (by decide) name n
  rwa [String.empty_append, String.append_empty, String.empty_append, String.append_empty] at h

namespace Format

variable {p : Profile} {o : FormatOptions} {n m root t : Node}

/-- The name that the class of a key is made from. -/
def baseName (o : FormatOptions) (key : String) : String :=
  o.prefixClassName ++ Style.pascal.convert key ++ o.suffixClassName

/-- The name under which the class of a key is declared. -/
def declaredName (o : FormatOptions) (key : String) : String := Style.pascal.convert (baseName o key)

/-- The class of a key is declared under its `declaredName`. -/
theorem className_eq (h : p.classNameTemplate = Profile.nameIn .pascal) (o : FormatOptions)
    (key : String) : className p o key = .ok (declaredName o key) := by
  have hblank := (NameTemplate.ofStyle .pascal).isBlank_eq_false
  rw [className, h, hblank, if_neg Bool.false_ne_true, renderInline_nameIn_alone]
  rfl

/-- The name of a file in a style. -/
theorem fileName_eq {style : Style} (h : p.fileNameTemplate = Profile.nameIn style) (n : Node) :
    fileName p n = .ok (style.convert n.name ++ p.extension) := by
  have hblank := (NameTemplate.ofStyle style).isBlank_eq_false
  rw [fileName, h, hblank, if_neg Bool.false_ne_true, renderInline_nameIn_alone]
  rfl

/-- Every node can be given a file name. -/
theorem exists_fileName (h : p.NamesOnly) (n : Node) : ∃ f, fileName p n = .ok f := by
  obtain ⟨style, hstyle⟩ := h.fileName
  exact ⟨_, fileName_eq hstyle n⟩

/-- Every node can be named. -/
theorem exists_named (h : p.NamesOnly) (o : FormatOptions) (n : Node) :
    ∃ m, named p o n = .ok m := by
  -- The class name, the types and the file name are rendered one after the other.
  have hclassed : ∃ n₁, classed p o n = .ok n₁ := by
    rw [classed]
    split
    · rw [className_eq h.className]
      exact ⟨_, rfl⟩
    · exact ⟨n, rfl⟩
  obtain ⟨n₁, hclassed⟩ := hclassed
  obtain ⟨s, hs⟩ := (h.types n₁.tag).exists_renderInline "typeMapping" n₁
  obtain ⟨d, hd⟩ := (h.docTypes n₁.tag).exists_renderInline "typeDocMapping"
    { n₁ with typeName := some s }
  have htyped : typed p n₁ = .ok { n₁ with typeName := some s, docTypeName := some d } :=
    bind_eq_ok_iff.2 ⟨s, hs, bind_eq_ok_iff.2 ⟨d, hd, rfl⟩⟩
  have hfiled : ∀ n, ∃ m, filedClass p n = .ok m := by
    intro n
    rw [filedClass]
    split
    · obtain ⟨f, hf⟩ := exists_fileName h n
      rw [hf]
      exact ⟨_, rfl⟩
    · exact ⟨n, rfl⟩
  obtain ⟨m, hm⟩ := hfiled { n₁ with typeName := some s, docTypeName := some d }
  refine ⟨m, ?_⟩
  -- No step of the way fails.
  rw [named_eq]
  exact bind_eq_ok_iff.2 ⟨n₁, hclassed, bind_eq_ok_iff.2 ⟨_, htyped, hm⟩⟩

/-- Every tree can be formatted. -/
theorem exists_tree (h : p.NamesOnly) (o : FormatOptions) (root : Node) :
    ∃ t, tree p o root = .ok t := by
  rw [tree_eq]
  -- Formatting all nodes fails only if one of them does.
  cases hnodes : nodes p o (start o root) with
  | error e =>
    obtain ⟨c, -, hc⟩ := exists_named_eq_error hnodes
    obtain ⟨m, hm⟩ := exists_named h o c
    rw [hm] at hc
    cases hc
  | ok m =>
    show ∃ t, filed p m = .ok t
    rw [filed]
    split
    · exact ⟨m, rfl⟩
    · obtain ⟨f, hf⟩ := exists_fileName h m
      rw [hf]
      exact ⟨_, rfl⟩

end Format

end Stencil
