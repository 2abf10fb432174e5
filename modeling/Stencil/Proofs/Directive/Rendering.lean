import Stencil.Proofs.Directive.Reading

/-!
# Rendering outlines

A template that is written as an outline compiles, and rendering it for a formatted node gives the
text that the outline stands for, as long as blocks are not nested too deep for the template engine.

## Key results

- `runAll_elements`: rendering the elements of an outline gives its meaning
- `render_outline`: compiling and rendering an outline gives its meaning
-/

namespace Stencil

open Schema (Node)
open Template
open Text (trimEnd)

/-! ## What expressions say about a node -/

/-- The name `node` stands for this node. -/
def Template.Scope.Holds (scope : Scope) (n : Node) : Prop :=
  scope.get? "node" = some (View.deep n).toValue

/-- The record that a template reads, field by field. -/
theorem View.toValue_deep (n : Node) :
    (View.deep n).toValue =
      .record [("key", .text n.key), ("name", .text n.name), ("type", textValue n.typeName),
        ("doc_type", textValue n.docTypeName), ("tag", .text n.tag.name),
        ("class_name", textValue n.className), ("file_name", textValue n.fileName),
        ("is_array", .bool n.tag.isArray), ("is_object", .bool n.tag.isObject),
        ("properties", .list (toValues (deepAll n.children)))] := by
  cases n
  simp [deep, toValue, shallow]

/-- Inside of a loop the name stands for the node that is gone through. -/
theorem Template.Scope.holds_set (scope : Scope) (v : Value) (n : Node) :
    ((scope.set "loop" v).set "node" (View.deep n).toValue).Holds n := by
  cases scope <;> simp [Holds, set, get?, Value.field?]

variable {scope : Scope} {n : Node}

/-- A member of the node. -/
private theorem eval_member (h : scope.Holds n) (m : String) :
    eval scope (.member (.variable "node") m) = (View.deep n).toValue.member m := by
  have hnode : scope.get? "node" = some (View.deep n).toValue := h
  simp only [eval, hnode]
  rfl

/-- The name of the node is a text. -/
private theorem eval_name (h : scope.Holds n) :
    eval scope (.member (.variable "node") "name") = .ok (.text n.name) := by
  rw [eval_member h, View.toValue_deep]
  rfl

/-- Printing the name of a node, perhaps in a style. -/
theorem Placeholder.run_output_name (style : Option Naming.Style) (h : scope.Holds n) :
    run scope (.output (Placeholder.name style).expr) =
      .ok (scope, ((Placeholder.name style).text n).toList) := by
  cases style with
  | none =>
    simp only [run, expr, eval_name h]
    rfl
  | some style =>
    -- The filter of a style is applied to the name, without arguments.
    have heval : eval scope (.filter (.member (.variable "node") "name") style.filterName [] []) =
        applyFilter style.filterName (.text n.name) ⟨[], []⟩ := by
      rw [eval, eval_name h, evalAll, evalNamed]
      rfl
    simp only [run, expr, heval, applyFilter_style]
    rfl

/-- Printing the expression for a directive prints its text. -/
theorem Placeholder.run_output (s : Placeholder) (h : scope.Holds n) (hn : Formatted n) :
    run scope (.output s.expr) = .ok (scope, (s.text n).toList) := by
  obtain ⟨htype, hdocType, -⟩ := hn
  cases s with
  | name style => exact run_output_name style h
  | type =>
    -- A formatted node has a type to print.
    obtain ⟨t, ht⟩ := Option.isSome_iff_exists.1 htype
    have hvalue : (View.deep n).toValue.member "type" = .ok (.text t) := by
      rw [View.toValue_deep, ht]
      rfl
    simp only [run, expr, eval_member h, hvalue, text, ht]
    rfl
  | docType =>
    obtain ⟨t, ht⟩ := Option.isSome_iff_exists.1 hdocType
    have hvalue : (View.deep n).toValue.member "doc_type" = .ok (.text t) := by
      rw [View.toValue_deep, ht]
      rfl
    simp only [run, expr, eval_member h, hvalue, text, ht]
    rfl

/-! ## Blocks -/

/-- Rendering a body for each of some nodes. -/
private theorem forEach_nodes {body : Scope → Rendering} {f : Node → List Char} (count : Nat)
    {ns : List Node} (hbody : ∀ m ∈ ns, ∀ scope : Scope, scope.Holds m →
      body scope = .ok (scope, f m)) (index : Nat) (scope : Scope) :
    ∃ scope', forEach body "node" count index scope (View.toValues (View.deepAll ns)) =
      .ok (scope', ns.flatMap f) := by
  induction ns generalizing index scope with
  | nil => exact ⟨scope, rfl⟩
  | cons m ns ih =>
    -- Each round sets the name and the loop variable anew, over what the round before has left.
    have hfirst := hbody m List.mem_cons_self _ (scope.holds_set (loopRecord index count) m)
    obtain ⟨scope', hrest⟩ :=
      ih (fun m hm => hbody m (List.mem_cons_of_mem _ hm)) (index + 1)
        ((scope.set "loop" (loopRecord index count)).set "node" (View.deep m).toValue)
    refine ⟨scope', ?_⟩
    rw [View.deepAll, View.toValues, forEach, hfirst]
    simp only [bind, Except.bind, hrest, List.flatMap_cons]
    rfl

/-- A branch renders its body if the member is true. -/
private theorem run_branch {m : String} {b : Bool} {body : List Element} {out : List Char}
    (h : scope.Holds n) (hvalue : (View.deep n).toValue.member m = .ok (.bool b))
    (hbody : b = true → runAll scope body = .ok (scope, out)) :
    run scope (.branch (.member (.variable "node") m) body []) =
      .ok (scope, if b then out else []) := by
  simp only [run, eval_member h, hvalue]
  cases b with
  | true => exact hbody rfl
  | false => exact runAll_nil scope

/-- A block renders its body for the nodes that it goes through. -/
theorem Region.run_element (r : Region) {body : List Element} {f : Node → List Char}
    (h : scope.Holds n)
    (hbody : ∀ m ∈ r.rounds n, ∀ scope : Scope, scope.Holds m →
      runAll scope body = .ok (scope, f m)) :
    run scope (r.element body) = .ok (scope, (r.rounds n).flatMap f) := by
  cases r with
  | properties =>
    have hvalue : (View.deep n).toValue.member "properties" =
        .ok (.list (View.toValues (View.deepAll n.children))) := by
      rw [View.toValue_deep]
      rfl
    -- The properties are gone through in a scope of their own.
    simp only [run, element, eval_member h, hvalue]
    -- Without properties there is no loop at all, but the text is the same.
    cases hc : n.children with
    | nil =>
      simp only [rounds, hc]
      exact runAll_nil scope
    | cons c cs =>
      rw [rounds, hc] at hbody
      obtain ⟨scope', hrun⟩ := forEach_nodes
        (View.toValues (View.deepAll (c :: cs))).length hbody 0 ([] :: scope)
      simp only [rounds, hc, Value.items, meeting, bind, Except.bind, hrun]
      rfl
  | isArray =>
    have hvalue : (View.deep n).toValue.member "is_array" = .ok (.bool n.tag.isArray) := by
      rw [View.toValue_deep]
      rfl
    rw [element, run_branch h hvalue fun hb => hbody n (by simp [rounds, hb]) scope h, rounds]
    split <;> simp
  | isObject =>
    have hvalue : (View.deep n).toValue.member "is_object" = .ok (.bool n.tag.isObject) := by
      rw [View.toValue_deep]
      rfl
    rw [element, run_branch h hvalue fun hb => hbody n (by simp [rounds, hb]) scope h, rounds]
    split <;> simp

/-! ## Outlines -/

/-- The nodes that a block goes through are formatted. -/
theorem Formatted.rounds {r : Region} (hn : Formatted n) : ∀ m ∈ r.rounds n, Formatted m := by
  intro m hm
  -- A loop goes through the children, a branch through the node itself or nothing.
  cases r with
  | properties =>
    obtain ⟨-, -, hchildren⟩ := hn
    exact hchildren m hm
  | isArray =>
    simp only [Region.rounds] at hm
    split at hm
    · rwa [List.mem_singleton.1 hm]
    · cases hm
  | isObject =>
    simp only [Region.rounds] at hm
    split at hm
    · rwa [List.mem_singleton.1 hm]
    · cases hm

/-- Two texts are put out one behind the other if the scope stays the same. -/
theorem Template.runAll_cons {e : Element} {es : List Element} {out rest : List Char}
    (he : run scope e = .ok (scope, out)) (hes : runAll scope es = .ok (scope, rest)) :
    runAll scope (e :: es) = .ok (scope, out ++ rest) := by
  simp only [runAll, he, bind, Except.bind, hes]
  rfl

/-- Rendering the elements of an outline gives its meaning. -/
theorem Outline.runAll_elements (t : Outline) (literal : List Char) (closes : Bool)
    (h : scope.Holds n) (hn : Formatted n) :
    runAll scope (t.elementsAfter literal closes) =
      .ok (scope, t.meaningAfter literal closes n) := by
  induction t generalizing scope n literal closes with
  | empty =>
    rw [elementsAfter, runAll_cons (run_text scope _) (runAll_nil scope), List.append_nil]
    rfl
  -- Literal text is held back until the next tag or block.
  | literal text rest ih => exact ih _ _ h hn
  | placeholder s spelling rest ih =>
    exact runAll_cons (run_text scope _) (runAll_cons (s.run_output h hn) (ih _ _ h hn))
  | block r opening body closing rest ihBody ihRest =>
    -- The body is rendered for other nodes in other scopes, so both are generalized.
    have hbody : ∀ m ∈ r.rounds n, ∀ scope : Scope, scope.Holds m →
        runAll scope (body.elementsAfter [] true) = .ok (scope, body.meaningAfter [] true m) :=
      fun m hm _ hscope => ihBody [] true hscope (hn.rounds m hm)
    exact runAll_cons (run_text scope _)
      (runAll_cons (r.run_element h hbody) (ihRest _ _ h hn))

/-- Rendering the expansion of an outline. -/
theorem Renderer.render_expansion (name : String) (t : Outline) (hn : Formatted n) :
    Renderer.render ⟨name, t.expansion, none⟩ n false =
      if t.nesting < Expr.maxDepth then .ok (String.ofList (t.meaning n))
      else .error (.unrenderable name .malformed) := by
  -- A template starts with the node it is rendered for.
  have hscope : Scope.Holds [[("node", (View.deep n).toValue)]] n := by
    simp [Scope.Holds, Scope.get?, Value.field?]
  simp only [Renderer.render, renderSource, Template.render, t.elements?_expansion,
    Bool.false_eq_true, if_false]
  by_cases h : t.nesting < Expr.maxDepth
  · simp only [if_pos h, t.runAll_elements [] false hscope hn]
    rfl
  · simp only [if_neg h]

/-- A template that is written as an outline compiles, and rendering it for a formatted node gives
the text that the outline stands for, unless blocks are nested too deep for the template engine. -/
theorem render_outline (name : String) (t : Outline) {n : Node} (hn : Formatted n) :
    ∃ r, Renderer.compile name (String.ofList t.source) = .ok r ∧
      r.render n false =
        if t.nesting < Expr.maxDepth then .ok (String.ofList (t.meaning n))
        else .error (.unrenderable name .malformed) :=
  ⟨_, Renderer.compile_source name t, Renderer.render_expansion name t hn⟩

/-- The types of the properties, behind a bracket whose white space is taken away. -/
theorem render_outline_types :
    Formatted ⟨"r", .object, [⟨"a", .int, [], none, none, some "int", some "integer"⟩], none, none,
      some "R", some "R"⟩ ∧
    ∃ r, Renderer.compile "main" (String.ofList (Outline.source
        (.literal (.plain ['<', ' '] (by decide))
          (.block .properties
            { Spelling.plain (.opening .properties) with
              before := ['\n'], blankBefore := List.forall_mem_singleton.2 (by decide +kernel),
              word := "propERTIES".toList, spells := by decide, length := by decide }
            (.placeholder .type (.plain _) .empty) (.plain _) .empty)))) = .ok r ∧
      r.render ⟨"r", .object, [⟨"a", .int, [], none, none, some "int", some "integer"⟩], none, none,
        some "R", some "R"⟩ false = .ok "<int" := by
  have hn : Formatted ⟨"r", .object, [⟨"a", .int, [], none, none, some "int", some "integer"⟩],
      none, none, some "R", some "R"⟩ :=
    .mk rfl rfl (List.forall_mem_singleton.2 (.mk rfl rfl (by simp)))
  obtain ⟨r, hcompile, hrender⟩ := render_outline "main" (.literal (.plain ['<', ' '] (by decide))
    (.block .properties
      { Spelling.plain (.opening .properties) with
        before := ['\n'], blankBefore := List.forall_mem_singleton.2 (by decide +kernel),
        word := "propERTIES".toList, spells := by decide, length := by decide }
      (.placeholder .type (.plain _) .empty) (.plain _) .empty)) hn
  exact ⟨hn, r, hcompile, hrender.trans (if_pos (by decide))⟩

/-- An outline inside of so many blocks. -/
def Outline.nested (t : Outline) : Nat → Outline
  | 0 => t
  | k + 1 => .block .isObject (.plain _) (t.nested k) (.plain _) .empty

/-- Each block around an outline nests it one deeper. -/
theorem Outline.nesting_nested (t : Outline) (k : Nat) : (t.nested k).nesting = t.nesting + k := by
  induction k with
  | zero => rfl
  | succ k ih => rw [nested, nesting, ih, nesting]; omega

/-- A name inside of a hundred and fifty blocks is not rendered. -/
theorem render_outline_nested_too_deep :
    ¬∃ r, Renderer.compile "main" (String.ofList
        ((Outline.placeholder (.name none) (.plain _) .empty).nested 150).source) = .ok r ∧
      r.render ⟨"a", .object, [], none, none, some "A", some "A"⟩ false =
        .ok (String.ofList
          (((Outline.placeholder (.name none) (.plain _) .empty).nested 150).meaning
          ⟨"a", .object, [], none, none, some "A", some "A"⟩)) := by
  rintro ⟨r, hcompile, hrender⟩
  rw [Renderer.compile_source] at hcompile
  obtain rfl := Except.ok.inj hcompile
  rw [Renderer.render_expansion _ _ (.mk rfl rfl (by simp)),
    if_neg (by rw [Outline.nesting_nested]; decide)] at hrender
  cases hrender

end Stencil
