import Stencil.Profile.Builtin
import Stencil.Proofs.Directive.Rendering

/-!
# Small templates

The entries of a profile are templates for a single node, seen without what is below it. Text without
marks of the template engine stands for itself, and so for a balanced template: whether an entry fails
for its balance does not depend on the node.

## Key results

- `renderInline_eq_unbalanced_iff`: the small templates that fail for their balance
- `renderInline_nameIn`: what the name of a node in a style, between other text, stands for
-/

namespace Stencil

open Schema (Node)
open Template

/-! ## Balance -/

/-- Text without two braces in a row holds no directive. -/
theorem pieces_of_occursPair {cs : List Char} (h : occursPair '\x7b' '\x7b' cs = false) :
    pieces cs = cs.map .char := by
  induction cs with
  | nil => rfl
  | cons c cs ih =>
    rw [pieces_cons_char, ih (occursPair_cons h), List.map_cons]
    -- A brace that starts a directive would be followed by another one.
    rintro rfl hhead
    cases cs with
    | nil => cases hhead
    | cons d cs => exact ne_of_occursPair h (Option.some.inj hhead)

/-- A text without marks is balanced. -/
theorem imbalance?_of_mayHoldMarks {cs : List Char} (h : mayHoldMarks cs = false) :
    imbalance? cs = none := by
  have hpieces := pieces_of_occursPair (Bool.or_eq_false_iff.1 h).1
  have hcount : ∀ d, directiveCount d cs = 0 := fun d => by
    rw [directiveCount, hpieces, countP_chars]
  rw [imbalance?_eq_none_iff]
  exact ⟨fun b => by rw [hcount, hcount], by rw [hcount]; exact Nat.zero_le 1⟩

/-- A template compiles unless it is not balanced. -/
theorem compile_eq_error_iff {cs : List Char} {i : Imbalance} :
    compile cs = .error i ↔ imbalance? cs = some i := by
  rw [compile, checkBalance]
  cases imbalance? cs with
  | none => exact ⟨fun h => (by cases h), fun h => (by cases h)⟩
  | some j =>
    constructor
    · exact fun h => congrArg some (Except.error.inj h)
    · exact fun h => congrArg Except.error (Option.some.inj h)

/-- The template engine has failures of its own. -/
theorem renderSource_ne_unbalanced (name : String) (source : List Char) (view : View)
    (i : Imbalance) : renderSource name source view ≠ .error (.unbalanced i) := by
  rw [renderSource]
  split
  · exact fun h => by cases h
  · exact fun h => by cases h

/-- A small template fails for its balance exactly if it is not balanced. -/
theorem renderInline_eq_unbalanced_iff {name source : String} {view : View} {i : Imbalance} :
    renderInline name source view = .error (.unbalanced i) ↔ imbalance? source.toList = some i := by
  rw [renderInline]
  cases hmarks : mayHoldMarks source.toList with
  | false =>
    rw [if_neg Bool.false_ne_true, imbalance?_of_mayHoldMarks hmarks]
    exact ⟨fun h => (by cases h), fun h => (by cases h)⟩
  | true =>
    rw [if_pos rfl]
    -- Once the template has compiled, only the engine can fail.
    cases hcompile : compile source.toList with
    | error j =>
      rw [compile_eq_error_iff.1 hcompile]
      constructor
      · intro h
        injection h with h
        injection h with h
        rw [h]
      · intro h
        rw [Option.some.inj h]
        rfl
    | ok e =>
      rw [(compile_eq_ok_iff.1 hcompile).1]
      exact ⟨fun h => absurd h (renderSource_ne_unbalanced _ _ _ _), fun h => (by cases h)⟩

/-! ## Names -/

/-- A node seen without what is below it is seen as if it had no children. -/
theorem View.shallow_eq_deep (n : Node) : View.shallow n = View.deep { n with children := [] } := by
  cases n
  rfl

/-- A directive as it is written in profiles, with a blank on either side. -/
def Spelling.spaced (d : Directive) : Spelling d :=
  { Spelling.plain d with
    before := [' '], blankBefore := List.forall_mem_singleton.2 (by decide +kernel)
    after := [' '], blankAfter := List.forall_mem_singleton.2 (by decide +kernel) }

/-- Profiles write the name of a node in a style like this. -/
theorem source_spaced (style : Naming.Style) :
    (Spelling.spaced (.name (some style))).source = (Profile.nameIn style).toList := by
  cases style <;> rfl

/-- A pair occurs in a text that it is written in. -/
private theorem occursPair_append_cons (a b : Char) (xs ys : List Char) :
    occursPair a b (xs ++ a :: b :: ys) = true := by
  induction xs with
  | nil => simp [occursPair]
  | cons x xs ih => cases xs <;> simp_all [occursPair]

section NameIn

variable (style : Naming.Style) {before after : String} (hbefore : '\x7b' ∉ before.toList)
  (hafter : '\x7b' ∉ after.toList)

/-- A style of the name, between text without braces. -/
private def nameOutline : Outline :=
  .literal (.plain before.toList hbefore)
    (.placeholder (.name (some style)) (.spaced _) (.literal (.plain after.toList hafter) .empty))

/-- The outline is written as the entry of a profile. -/
private theorem source_nameOutline :
    (nameOutline style hbefore hafter).source = (before ++ Profile.nameIn style ++ after).toList := by
  simp [nameOutline, Outline.source, Literal.plain, Placeholder.directive, source_spaced]

include hbefore hafter in
/-- A style of the name, between text without braces, is balanced. -/
theorem imbalance?_nameIn : imbalance? (before ++ Profile.nameIn style ++ after).toList = none := by
  rw [← source_nameOutline style hbefore hafter]
  exact Outline.imbalance?_source _

include hbefore hafter in
/-- A style of the name, between text without braces, stands for the name in the style. -/
theorem renderInline_nameIn (name : String) (n : Node) :
    renderInline name (before ++ Profile.nameIn style ++ after) (View.shallow n) =
      .ok (before ++ style.convert n.name ++ after) := by
  let t := nameOutline style hbefore hafter
  have hsource : (before ++ Profile.nameIn style ++ after).toList = t.source :=
    (source_nameOutline style hbefore hafter).symm
  -- The outline holds a directive, so the template engine is needed.
  have hmarks : mayHoldMarks t.source = true := by
    simp only [t, nameOutline, Outline.source, Spelling.source, List.cons_append, mayHoldMarks,
      occursPair_append_cons, Bool.true_or]
  have hcompile : compile t.source = .ok t.expansion :=
    compile_eq_ok_iff.2 ⟨t.imbalance?_source, t.expand_source.symm⟩
  -- The engine sees the node without its children.
  have hscope : Scope.Holds [[("node", (View.shallow n).toValue)]] { n with children := [] } := by
    simp [Scope.Holds, Scope.get?, Value.field?, View.shallow_eq_deep]
  have helements : elements? t.expansion = some (t.elementsAfter [] false) := by
    have hnesting : t.nesting < Expr.maxDepth := Nat.zero_lt_succ 149
    rw [t.elements?_expansion, if_pos hnesting]
  have hrun : runAll [[("node", (View.shallow n).toValue)]] (t.elementsAfter [] false) =
      .ok ([[("node", (View.shallow n).toValue)]],
        before.toList ++ ((style.convert n.name).toList ++ (after.toList ++ []))) := by
    have hname := Placeholder.run_output_name (some style) hscope
    exact runAll_cons (run_text _ _) (runAll_cons hname
      (runAll_cons (run_text _ _) (runAll_nil _)))
  rw [renderInline, hsource, hmarks, if_pos rfl, hcompile]
  show renderSource name t.expansion _ = _
  rw [renderSource, Template.render, helements]
  simp only [hrun, Except.map]
  simp [String.append_assoc]

end NameIn

end Stencil
