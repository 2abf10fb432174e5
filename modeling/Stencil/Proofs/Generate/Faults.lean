import Stencil.Generate.Basic
import Stencil.Proofs.Format.Filling
import Stencil.Proofs.Profile.Checking

/-!
# Whose fault a failure is

A request that holds its template and its sample touches no files, and nothing else that can go wrong
is out of the hands of the one who makes it. So whatever step it fails at, the problem is the fault of
the request: a missing or blank part, an unknown language, a setting that is wanting, text that cannot
be read, or a template that cannot be rendered.

## Key results

- `Excusable.bind`, `Excusable.mapM`: a computation in parts, each of which fails for such problems only
- `excusable_tree`: formatting a tree
- `excusable_generate`: all steps of a request
-/

namespace Stencil

open Schema (Node infer)

variable {α β : Type}

/-- If the computation fails, then through the fault of the request. -/
def Excusable (x : Except Problem α) : Prop := ∀ e, x = .error e → e.isUserError = true

/-! ## Computations in parts -/

/-- A result is no failure. -/
theorem excusable_ok (a : α) : Excusable (.ok a) := by
  intro e h
  cases h

/-- A failure is excused if it is the fault of the request. -/
theorem excusable_error {e : Problem} (h : e.isUserError = true) :
    Excusable (.error e : Except Problem α) := by
  intro e' h'
  cases h'
  exact h

/-- So is any failure that is reported as such a problem. -/
theorem excusable_mapError {ε : Type} {g : ε → Problem} (h : ∀ e, (g e).isUserError = true)
    (x : Except ε α) : Excusable (x.mapError g) := by
  cases x with
  | ok a => exact excusable_ok a
  | error e => exact excusable_error (h e)

/-- Two computations, the second of which goes on with what the first has given. -/
theorem Excusable.bind {x : Except Problem α} {f : α → Except Problem β} (hx : Excusable x)
    (hf : ∀ a, Excusable (f a)) : Excusable (x >>= f) := by
  intro e h
  rcases bind_eq_error_iff.1 h with h | ⟨a, -, h⟩
  · exact hx e h
  · exact hf a e h

/-- What is made of a result cannot fail. -/
theorem Excusable.map {x : Except Problem α} (hx : Excusable x) (g : α → β) :
    Excusable (x >>= fun a => pure (g a)) :=
  hx.bind fun a => excusable_ok (g a)

/-- A computation for each item of a list. -/
theorem Excusable.mapM {f : α → Except Problem β} (hf : ∀ a, Excusable (f a)) (as : List α) :
    Excusable (as.mapM f) := by
  intro e h
  obtain ⟨a, -, h⟩ := exists_of_mapM_eq_error h
  exact hf a e h

/-- Likewise for a check of each item. -/
theorem Excusable.forM {f : α → Except Problem Unit} (hf : ∀ a, Excusable (f a)) (as : List α) :
    Excusable (as.forM f) := by
  induction as with
  | nil => exact excusable_ok ()
  | cons a as ih => exact (hf a).bind fun _ => ih

/-! ## Profiles -/

/-- A template that is not balanced is the fault of the request. -/
theorem excusable_checkTemplate (field template : String) :
    Excusable (checkTemplate field template) :=
  excusable_mapError (fun _ => rfl) (checkBalance template.toList)

/-- So is a type that is missing from a table. -/
theorem TypeTable.excusable_check (t : TypeTable) (field : String) : Excusable (t.check field) := by
  refine Excusable.forM (fun tag => ?_) Tag.base
  dsimp only
  -- A blank entry is missing; any other is checked for balance.
  split
  · exact (excusable_error rfl).bind fun _ => excusable_checkTemplate _ _
  · exact excusable_checkTemplate _ _

/-- A profile may have no types for comments. -/
theorem Profile.excusable_checkDocTypes (p : Profile) : Excusable p.checkDocTypes := by
  rw [checkDocTypes]
  split
  · exact TypeTable.excusable_check _ _
  · exact excusable_ok ()

/-- All that the check of a profile can find is in the request. -/
theorem Profile.excusable_check (p : Profile) : Excusable p.check := by
  -- A profile without a code is not looked at any further.
  cases hcode : Text.isBlank p.code with
  | true =>
    have hcheck : p.check = .error (.missingField "langSettings.code") := by
      rw [check, hcode]
      rfl
    rw [hcheck]
    exact excusable_error rfl
  | false =>
    rw [check_eq hcode]
    exact (p.types.excusable_check _).bind fun _ => p.excusable_checkDocTypes.bind fun _ =>
      (excusable_checkTemplate _ _).bind fun _ => excusable_checkTemplate _ _

/-- A language that is not registered has been asked for. -/
theorem Registry.excusable_require (registry : Registry) (lang : String) :
    Excusable (registry.require lang) := by
  rw [require]
  split
  · exact excusable_ok _
  · exact excusable_error rfl

/-- The profile is a registered one or comes with the request, which must name one of them. -/
theorem Config.excusable_profile (c : Config) (registry : Registry) :
    Excusable (c.profile registry) := by
  rw [profile]
  -- A language, settings of its own, or neither.
  split
  · exact registry.excusable_require _
  · exact (Profile.excusable_check _).bind fun _ => excusable_ok _
  · exact excusable_error rfl

/-! ## Templates -/

/-- A template that the engine cannot render is the fault of the request. -/
theorem excusable_renderSource (name : String) (source : List Char) (view : View) :
    Excusable (renderSource name source view) := by
  rw [renderSource]
  split
  · exact excusable_ok _
  · exact excusable_error rfl

/-- Likewise for small templates, which are not balanced or cannot be rendered. -/
theorem excusable_renderInline (name source : String) (view : View) :
    Excusable (renderInline name source view) := by
  rw [renderInline]
  split
  · exact (excusable_mapError (fun _ => rfl) _).bind fun _ => excusable_renderSource name _ view
  · exact excusable_ok source

/-- A template compiles unless it is not balanced. -/
theorem Renderer.excusable_compile (name source : String) : Excusable (compile name source) :=
  (excusable_mapError (fun _ => rfl) _).map _

/-! ## Formatting -/

namespace Format

variable (p : Profile) (o : FormatOptions)

/-- A class name is the default one, or rendered. -/
theorem excusable_className (key : String) : Excusable (className p o key) := by
  rw [className]
  split
  · exact excusable_ok _
  · exact excusable_renderInline _ _ _

/-- A file name is rendered, from the default template if there is none. -/
theorem excusable_fileName (n : Node) : Excusable (fileName p n) :=
  (excusable_renderInline _ _ _).map _

/-- Giving a node its class name. -/
theorem excusable_classed (n : Node) : Excusable (classed p o n) := by
  rw [classed]
  split
  · exact (excusable_className p o n.key).map _
  · exact excusable_ok n

/-- Giving a node its types, of which either can fail. -/
theorem excusable_typed (n : Node) : Excusable (typed p n) :=
  (excusable_renderInline _ _ _).bind fun _ => (excusable_renderInline _ _ _).map _

/-- Giving a node its file name. -/
theorem excusable_filedClass (n : Node) : Excusable (filedClass p n) := by
  rw [filedClass]
  split
  · exact (excusable_fileName p n).map _
  · exact excusable_ok n

/-- All three steps for one node. -/
theorem excusable_named (n : Node) : Excusable (named p o n) := by
  rw [named_eq]
  exact (excusable_classed p o n).bind fun n₁ => (excusable_typed p n₁).bind fun n₂ =>
    excusable_filedClass p n₂

/-- Giving the root a file if it has none. -/
theorem excusable_filed (root : Node) : Excusable (filed p root) := by
  rw [filed]
  split
  · exact excusable_ok root
  · exact (excusable_fileName p root).map _

/-- Formatting a tree fails through the fault of the request: what one of its nodes fails with, the
whole tree does. -/
theorem excusable_tree (root : Node) : Excusable (tree p o root) := by
  rw [tree_eq]
  refine Excusable.bind (fun e h => ?_) fun m => excusable_filed p m
  -- The failure of a tree is that of a node in it.
  obtain ⟨c, -, hc⟩ := exists_named_eq_error h
  exact excusable_named p o c e hc

end Format

/-! ## Requests -/

/-- A part that is blank is missing from the request. -/
theorem excusable_needText (what content : String) : Excusable (needText what content) := by
  rw [needText]
  split
  · exact excusable_error rfl
  · exact excusable_ok ()

/-- A format that there is none of has been asked for. -/
theorem DataFormat.excusable_ofText (s : String) : Excusable (DataFormat.ofText s) := by
  rw [ofText]
  split
  · exact excusable_ok _
  · exact excusable_error rfl

/-- A sample that cannot be read came with the request. -/
theorem excusable_readSample (format : DataFormat) (s : String) : Excusable (readSample format s) := by
  cases format
  exact excusable_mapError (fun _ => rfl) _

/-- A sample that is no object or array has no tree, which is the fault of the request. -/
theorem Schema.excusable_infer (refine : Bool) (doc : Json) : Excusable (infer refine doc) := by
  cases doc with
  | object ms => exact excusable_ok _
  | array es => exact excusable_ok _
  | _ => exact excusable_error rfl

theorem excusable_formattedTree (p : Profile) (c : Config) (doc : Json) :
    Excusable (formattedTree p c doc) :=
  (Schema.excusable_infer _ doc).bind fun root => Format.excusable_tree p c.options root

theorem excusable_renderFile (renderer : Renderer) (split : Bool) (n : Node) :
    Excusable (renderFile renderer split n) :=
  (excusable_renderSource _ _ _).map _

/-- Whatever step a request fails at, it is the fault of the request. -/
theorem excusable_generate (registry : Registry) (request : Request) :
    Excusable (generate registry request) := by
  rw [generate]
  -- Step by step, in the order in which a request is answered.
  refine (excusable_needText _ _).bind fun _ => (excusable_needText _ _).bind fun _ =>
    (request.config.excusable_profile registry).bind fun profile =>
    (Renderer.excusable_compile _ _).bind fun renderer =>
    (DataFormat.excusable_ofText _).bind fun format =>
    (excusable_readSample format _).bind fun sample =>
    (excusable_formattedTree profile request.config sample).bind fun root => ?_
  exact Excusable.mapM (excusable_renderFile renderer profile.splitByFiles) _

end Stencil
