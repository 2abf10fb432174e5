import Stencil.Proofs.Format.Builtin
import Stencil.Proofs.Naming.Pascal

/-!
# References to classes

The class of a node is declared under a name in Pascal case, and the types of Go and PHP refer to it
by the Pascal case of that name: the reference fits the declaration exactly if the second application
changes nothing. It may change the name where a single letter of the key, prefix or suffix is a word of
its own.

## Key results

- `convert_declaredName_iff`, `convert_declaredName`: the names that Pascal case keeps
- `classReference_iff`: each tree can be formatted, and the types of a class refer to it exactly if
  its name is kept by Pascal case
- `pascal_twice_stable`: what Pascal case has been applied to twice is kept, so types refer to all
  classes whose names are made from the Pascal case of an ASCII text
-/

namespace Stencil.Format

open Schema (Node)
open Naming

/-! ## What references look like -/

/-- In Go, a class is referred to through a pointer. -/
def GoReference (c : String) (n : Node) : Prop :=
  (n.tag = .object → n.typeName = some ("*" ++ c)) ∧
    (n.tag = .arrayObject → n.typeName = some ("[]*" ++ c))

/-- In PHP, only comments tell the class of the items of an array. -/
def PhpReference (c : String) (n : Node) : Prop :=
  (n.tag = .object → n.typeName = some c) ∧
    (n.tag = .arrayObject → n.docTypeName = some (c ++ "[]"))

/-- The profiles that refer to classes, each with what its references look like. -/
def references : List (Profile × (String → Node → Prop)) :=
  [(.go, GoReference), (.go120, GoReference), (.php, PhpReference)]

variable {p : Profile} {R : String → Node → Prop} {o : FormatOptions} {n m root : Node}

/-- A class that has been named refers to itself exactly if Pascal case keeps its name. -/
def RefersByPascal (p : Profile) (R : String → Node → Prop) : Prop :=
  ∀ (n : Node) (c t d : String), n.isComposite = true → n.className = some c →
    typeName p n = .ok t → docTypeName p { n with typeName := some t } = .ok d →
      ∀ m : Node, m.tag = n.tag → m.typeName = some t → m.docTypeName = some d →
        (R c m ↔ Style.pascal.convert c = c)

/-- Classes are objects, or the items of an array of objects. -/
private theorem composite_cases (h : n.isComposite = true) :
    n.tag = .object ∨ n.tag = .arrayObject := by
  revert h
  rw [Node.isComposite]
  cases n.tag <;> decide

/-- In both versions of Go, types are written as a pointer to the name in Pascal case. -/
private theorem refersByPascal_go (hobject : p.types.object = "*" ++ Profile.nameIn .pascal ++ "")
    (hitems : p.types.arrayObject = "[]*" ++ Profile.nameIn .pascal ++ "") :
    RefersByPascal p GoReference := by
  intro n c t d hn hc ht _ m hm hmt _
  have hname : n.name = c := by rw [Node.name, hc, Option.getD_some]
  rw [GoReference, hm, hmt]
  rw [typeName] at ht
  -- The reference is in the type of an object, and in the type of an array of them.
  rcases composite_cases hn with htag | htag
  · rw [htag, TypeTable.entry, hobject,
      renderInline_nameIn .pascal (by decide) (by decide), hname] at ht
    obtain rfl := Except.ok.inj ht
    simp [htag]
  · rw [htag, TypeTable.entry, hitems,
      renderInline_nameIn .pascal (by decide) (by decide), hname] at ht
    obtain rfl := Except.ok.inj ht
    simp [htag]

/-- In PHP, the types of objects are their names, and comments tell the items of arrays. -/
private theorem refersByPascal_php : RefersByPascal .php PhpReference := by
  intro n c t d hn hc ht hd m hm hmt hmd
  have hname : n.name = c := by rw [Node.name, hc, Option.getD_some]
  have hname' : Node.name { n with typeName := some t } = c := hname
  rw [PhpReference, hm, hmt, hmd]
  rw [typeName] at ht
  rw [docTypeName] at hd
  -- An object is referred to in its type, an array of objects in the type for comments.
  rcases composite_cases hn with htag | htag
  · have hobject : Profile.php.types.entry n.tag = "" ++ Profile.nameIn .pascal ++ "" := by
      rw [htag]
      rfl
    rw [hobject, renderInline_nameIn .pascal (by decide) (by decide), hname] at ht
    obtain rfl := Except.ok.inj ht
    simp [htag]
  · have hitems : Profile.php.docTypes.entry n.tag = "" ++ Profile.nameIn .pascal ++ "[]" := by
      rw [htag]
      rfl
    rw [hitems, renderInline_nameIn .pascal (by decide) (by decide), hname'] at hd
    obtain rfl := Except.ok.inj hd
    simp [htag]

/-- All of these profiles refer to classes by the Pascal case of their names. -/
private theorem references_spec (hp : (p, R) ∈ references) :
    p.NamesOnly ∧ RefersByPascal p R := by
  have hbuiltin : ∀ pR ∈ references, pR.1.NamesOnly ∧ RefersByPascal pR.1 pR.2 := by
    simp only [references, List.forall_mem_cons]
    exact ⟨⟨Profile.namesOnly_of_builtin _ (by decide), refersByPascal_go rfl rfl⟩,
      ⟨Profile.namesOnly_of_builtin _ (by decide), refersByPascal_go rfl rfl⟩,
      ⟨Profile.namesOnly_of_builtin _ (by decide), refersByPascal_php⟩,
      fun _ h => absurd h List.not_mem_nil⟩
  exact hbuiltin _ hp

/-- A class of a formatted tree is declared under its name, and has its types from a node that was
given this name before. -/
private theorem exists_typed_of_mem (hclassName : p.classNameTemplate = Profile.nameIn .pascal)
    {t : Node} (ht : tree p o root = .ok t) (hn : n ∈ t :: t.descendants)
    (hcomposite : n.isComposite = true) :
    n.className = some (declaredName o n.key) ∧
      ∃ c s d, c.tag = n.tag ∧ c.className = some (declaredName o n.key) ∧
        typeName p c = .ok s ∧ docTypeName p { c with typeName := some s } = .ok d ∧
        n.typeName = some s ∧ n.docTypeName = some d := by
  obtain ⟨c, -, c', hnamed, f?, hd⟩ := exists_named_of_mem_tree ht hn
  obtain ⟨c?, s, d, _, rfl, hclass, -, hs, hd'⟩ := named_steps hnamed
  have hkey : n.key = c.key := by rw [hd]
  have htag : n.tag = c.tag := by rw [hd]
  have hcomposite : c.isComposite = true := by rwa [Node.isComposite, ← htag]
  obtain ⟨⟨name, hname, rfl⟩, -⟩ := hclass hcomposite
  rw [className_eq hclassName] at hname
  obtain rfl := Except.ok.inj hname
  rw [hkey]
  -- The types have been made with the class name already there.
  exact ⟨by rw [hd], { c with className := some (declaredName o c.key) }, s, d, htag.symm, rfl, hs,
    hd', by rw [hd], by rw [hd]⟩

/-- In a formatted tree, the types of a class refer to it exactly if Pascal case keeps its name. -/
private theorem reference_of_mem (hp : (p, R) ∈ references) {t : Node} (ht : tree p o root = .ok t)
    (hn : n ∈ t :: t.descendants) (hcomposite : n.isComposite = true) :
    n.className = some (declaredName o n.key) ∧
      (R (declaredName o n.key) n ↔
        Style.pascal.convert (declaredName o n.key) = declaredName o n.key) := by
  obtain ⟨hnames, hrefers⟩ := references_spec hp
  obtain ⟨hclass, c, s, d, htag, hname, hs, hd, htype, hdocType⟩ :=
    exists_typed_of_mem hnames.className ht hn hcomposite
  have hcomposite : c.isComposite = true := by rwa [Node.isComposite, htag]
  exact ⟨hclass, hrefers c _ s d hcomposite hname hs hd n htag.symm htype hdocType⟩

/-! ## Names that Pascal case keeps -/

/-- The prefix and suffix consist of letters and digits, and no small letter comes first. -/
structure PlainAffixes (o : FormatOptions) : Prop where
  ofPrefix : o.prefixClassName.toList.all Char.isAlphanum = true
  ofSuffix : o.suffixClassName.toList.all Char.isAlphanum = true
  first : (o.prefixClassName.toList ++ o.suffixClassName.toList).head?.any Text.isLower = false

theorem toList_declaredName (o : FormatOptions) (key : String) :
    (declaredName o key).toList = Style.pascal.apply (baseName o key).toList :=
  String.toList_ofList

/-- The characters of the name that it is made from: prefix, key and suffix. -/
theorem toList_baseName (o : FormatOptions) (key : String) :
    (baseName o key).toList =
      o.prefixClassName.toList ++ Style.pascal.apply key.toList ++ o.suffixClassName.toList := by
  simp [baseName, Style.convert]

/-- What holds of letters and digits, and of prefix and suffix, holds of the whole name. -/
theorem forall_mem_baseName {P : Char → Prop} {key : String}
    (hbefore : ∀ c ∈ o.prefixClassName.toList, P c) (hafter : ∀ c ∈ o.suffixClassName.toList, P c)
    (hkey : Ascii key.toList) (h : ∀ c, c.isAlphanum = true → P c) :
    ∀ c ∈ (baseName o key).toList, P c := by
  rw [toList_baseName]
  intro c hc
  -- The key is in Pascal case, so it gives letters and digits only.
  rcases List.mem_append.1 hc with hc | hc
  · rcases List.mem_append.1 hc with hc | hc
    · exact hbefore c hc
    · exact h c (isAlphanum_of_mem_pascal hkey c hc)
  · exact hafter c hc

/-- A key does not bring a small letter to the front. -/
theorem isLower_head?_baseName (h : PlainAffixes o) {key : String} (hkey : Ascii key.toList) :
    (baseName o key).toList.head?.any Text.isLower = false := by
  rw [toList_baseName]
  have hfirst := h.first
  have hpascal := isLower_head?_pascal hkey
  -- What comes first is the prefix, else the key in Pascal case, else the suffix.
  cases hbefore : o.prefixClassName.toList with
  | cons c cs =>
    rw [hbefore] at hfirst
    exact hfirst
  | nil =>
    rw [hbefore] at hfirst
    cases hmiddle : Style.pascal.apply key.toList with
    | nil => exact hfirst
    | cons c cs =>
      rw [hmiddle] at hpascal
      exact hpascal

/-- A name is kept exactly if it is settled. -/
theorem convert_declaredName_iff {key : String} (h : Ascii (baseName o key).toList) :
    Style.pascal.convert (declaredName o key) = declaredName o key ↔
      settled (declaredName o key).toList = true := by
  rw [← String.toList_inj, Style.convert, String.toList_ofList, toList_declaredName,
    pascal_pascal_iff h]

/-- A name is kept if its prefix and suffix are plain. -/
theorem convert_declaredName (h : PlainAffixes o) {key : String} (hkey : Ascii key.toList) :
    Style.pascal.convert (declaredName o key) = declaredName o key := by
  -- All of the name is letters and digits, so what Pascal case gives is settled unless a small
  -- letter leads.
  have halnum := forall_mem_baseName (List.all_eq_true.1 h.ofPrefix)
    (List.all_eq_true.1 h.ofSuffix) hkey fun _ hc => hc
  rw [convert_declaredName_iff fun c hc => lt_of_isAlphanum (halnum c hc), toList_declaredName]
  exact settled_pascal halnum (isLower_head?_baseName h hkey)

/-- For each tree and all options: the tree can be formatted. Each class is declared under the Pascal
case of prefix, key and suffix, and its types refer to it exactly if a second application of Pascal
case keeps the name. With ASCII letters that is so exactly if the name is settled, which it always is
if prefix and suffix are plain. -/
theorem classReference_iff (hp : (p, R) ∈ references) (o : FormatOptions) (root : Node) :
    ∃ t, tree p o root = .ok t ∧ ∀ n ∈ t :: t.descendants, n.isComposite = true →
      n.className = some (declaredName o n.key) ∧
      (R (declaredName o n.key) n ↔
        Style.pascal.convert (declaredName o n.key) = declaredName o n.key) ∧
      (Ascii n.key.toList →
        (Ascii o.prefixClassName.toList → Ascii o.suffixClassName.toList →
          (R (declaredName o n.key) n ↔ settled (declaredName o n.key).toList = true)) ∧
        (PlainAffixes o → R (declaredName o n.key) n)) := by
  obtain ⟨t, ht⟩ := exists_tree (references_spec hp).1 o root
  refine ⟨t, ht, fun n hn hcomposite => ?_⟩
  -- The general condition is the same for all profiles; the others are about names only.
  obtain ⟨hclass, hiff⟩ := reference_of_mem hp ht hn hcomposite
  refine ⟨hclass, hiff, fun hkey => ⟨fun hbefore hafter => ?_, fun hplain => ?_⟩⟩
  · rw [hiff]
    exact convert_declaredName_iff
      (forall_mem_baseName hbefore hafter hkey fun _ => lt_of_isAlphanum)
  · exact hiff.2 (convert_declaredName hplain hkey)

/-- A root with one class below it, which has one property. -/
def classBelow (key : String) : Node :=
  { key := "", tag := .object
    children := [{ key, tag := .object, children := [{ key := "b", tag := .bool }] }] }

/-- With a plain prefix and suffix, the types of both classes refer to them. -/
theorem classReference_affixes :
    let o : FormatOptions := { prefixClassName := "Api", suffixClassName := "Dto" }
    (Profile.go, GoReference) ∈ references ∧ PlainAffixes o ∧
    ∃ t, tree .go o (classBelow "user_id") = .ok t ∧
      (t :: t.descendants).map (·.className) =
        [some "ApiRootClassDto", some "ApiUserIdDto", none] ∧
      ∀ n ∈ t :: t.descendants, n.isComposite = true → GoReference (declaredName o n.key) n := by
  intro o
  have hp : (Profile.go, GoReference) ∈ references := List.mem_cons_self
  have hplain : PlainAffixes o := ⟨by decide +kernel, by decide +kernel, by decide +kernel⟩
  obtain ⟨t, ht, hclasses⟩ := classReference_iff hp o (classBelow "user_id")
  -- Only keys and class names are evaluated, the references follow from them.
  have hnames : (tree .go o (classBelow "user_id")).toOption.map (fun t =>
      (t :: t.descendants).map fun n => (n.key, n.className)) =
        some [("RootClass", some "ApiRootClassDto"), ("user_id", some "ApiUserIdDto"),
          ("b", none)] := by
    decide +kernel
  rw [ht] at hnames
  replace hnames : (t :: t.descendants).map (fun n => (n.key, n.className)) = _ :=
    Option.some.inj hnames
  refine ⟨hp, hplain, t, ht, ?_, fun n hn hcomposite => ?_⟩
  · have h := congrArg (List.map Prod.snd) hnames
    rwa [List.map_map] at h
  · have hkeys : (t :: t.descendants).map (·.key) = ["RootClass", "user_id", "b"] := by
      have h := congrArg (List.map Prod.fst) hnames
      rwa [List.map_map] at h
    -- All keys of the tree are ASCII texts.
    have hascii : ∀ key ∈ ["RootClass", "user_id", "b"],
        key.toList.all (·.toNat < 128) = true := by
      decide +kernel
    have hkey : Ascii n.key.toList := fun c hc => of_decide_eq_true
      (List.all_eq_true.1 (hascii n.key (hkeys ▸ List.mem_map_of_mem hn)) c hc)
    exact ((hclasses n hn hcomposite).2.2 hkey).2 hplain

/-- With the prefix `x`, the class of the key `a` is declared as `XA`, and its type refers to `Xa`. -/
theorem exists_other_reference :
    let o : FormatOptions := { prefixClassName := "x" }
    ∃ root t, Schema.infer false (.object [("a", .object [("b", .bool true)])]) = .ok root ∧
      tree .go o root = .ok t ∧
      ∃ n ∈ t.descendants, n.tag = .object ∧ n.className = some "XA" ∧ n.typeName = some "*Xa" ∧
        ¬GoReference "XA" n := by
  intro o
  obtain ⟨t, ht⟩ := exists_tree (Profile.namesOnly_of_builtin .go (by decide)) o (classBelow "a")
  have hnames : (tree .go o (classBelow "a")).toOption.map (fun t =>
      t.descendants.map fun n => (n.tag, n.className, n.typeName)) =
        some [(.object, some "XA", some "*Xa"), (.bool, none, some "bool")] := by
    decide +kernel
  rw [ht] at hnames
  replace hnames : t.descendants.map (fun n => (n.tag, n.className, n.typeName)) = _ :=
    Option.some.inj hnames
  -- The first node below the root is the class.
  have hclass : (Tag.object, some "XA", some "*Xa") ∈
      t.descendants.map fun n => (n.tag, n.className, n.typeName) := by
    rw [hnames]
    exact List.mem_cons_self
  obtain ⟨n, hn, heq⟩ := List.mem_map.1 hclass
  simp only [Prod.mk.injEq] at heq
  obtain ⟨htag, hname, htype⟩ := heq
  refine ⟨classBelow "a", t, rfl, ht, n, hn, htag, hname, htype, fun h => ?_⟩
  have hother := h.1 htag
  rw [htype] at hother
  exact absurd hother (by decide)

/-! ## Names made from Pascal case -/

/-- The types of `n` that are written as its name in Pascal case, between text without braces, have
`c` in that place. -/
def PascalReference (p : Profile) (c : String) (n : Node) : Prop :=
  ∀ before after : String, '\x7b' ∉ before.toList → '\x7b' ∉ after.toList →
    (p.types.entry n.tag = before ++ Profile.nameIn .pascal ++ after →
        n.typeName = some (before ++ c ++ after)) ∧
      (p.docTypes.entry n.tag = before ++ Profile.nameIn .pascal ++ after →
        n.docTypeName = some (before ++ c ++ after))

/-- Types refer to a class by the Pascal case of the name under which it is declared. -/
theorem pascalReference_of_mem (hclassName : p.classNameTemplate = Profile.nameIn .pascal) {t : Node}
    (ht : tree p o root = .ok t) (hn : n ∈ t :: t.descendants) (hcomposite : n.isComposite = true) :
    PascalReference p (Style.pascal.convert (declaredName o n.key)) n := by
  obtain ⟨-, c, s, d, htag, hname, hs, hd, htype, hdocType⟩ :=
    exists_typed_of_mem hclassName ht hn hcomposite
  have hc : c.name = declaredName o n.key := by rw [Node.name, hname, Option.getD_some]
  have hc' : Node.name { c with typeName := some s } = declaredName o n.key := hc
  intro before after hbefore hafter
  -- First the type, then the type for comments.
  refine ⟨fun hentry => ?_, fun hentry => ?_⟩
  · rw [typeName, htag, hentry, renderInline_nameIn .pascal hbefore hafter, hc] at hs
    rw [htype, ← Except.ok.inj hs]
  · rw [← htag] at hentry
    rw [docTypeName, hentry, renderInline_nameIn .pascal hbefore hafter, hc'] at hd
    rw [hdocType, ← Except.ok.inj hd]

/-- Without a prefix and a suffix, names are made from the Pascal case of keys. -/
theorem baseName_of_no_affixes (hbefore : o.prefixClassName = "") (hafter : o.suffixClassName = "")
    (key : String) : baseName o key = Style.pascal.convert key := by
  rw [baseName, hbefore, hafter, String.empty_append, String.append_empty]

/-- Two applications of Pascal case leave an ASCII text that a third one keeps. So where the first has
been applied to make the name of a class, as it is without a prefix and a suffix, and the class name
template applies the second, the types that apply the third refer to the name under which the class is
declared. -/
theorem pascal_twice_stable {s : String} (h : Ascii s.toList) :
    let name := Style.pascal.convert (Style.pascal.convert s)
    Style.pascal.convert name = name ∧
      ∀ p : Profile, p.classNameTemplate = Profile.nameIn .pascal →
        ∀ (o : FormatOptions) (root t : Node), tree p o root = .ok t →
          ∀ n ∈ t :: t.descendants, n.isComposite = true →
            baseName o n.key = Style.pascal.convert s →
              n.className = some name ∧ PascalReference p name n := by
  intro name
  have hstable : Style.pascal.convert name = name := convert_convert_convert_pascal h
  refine ⟨hstable, fun p hclassName o root t ht n hn hcomposite hbase => ?_⟩
  have hdeclared : declaredName o n.key = name := by rw [declaredName, hbase]
  obtain ⟨hclass, -⟩ := exists_typed_of_mem hclassName ht hn hcomposite
  have hrefers := pascalReference_of_mem hclassName ht hn hcomposite
  -- The types apply Pascal case to a name that it has been applied to twice.
  rw [hdeclared, hstable] at hrefers
  rw [hdeclared] at hclass
  exact ⟨hclass, hrefers⟩

/-- The single letters of `x_a` are an acronym to the second application, but not to the third. -/
theorem pascal_twice_stable_letters :
    let o : FormatOptions := {}
    Style.pascal.convert "x_a" = "XA" ∧ Style.pascal.convert "XA" = "Xa" ∧
      Style.pascal.convert "Xa" = "Xa" ∧
      ∃ t, tree .php o (classBelow "x_a") = .ok t ∧
        ∃ n ∈ t :: t.descendants, n.key = "x_a" ∧ n.tag = .object ∧ n.className = some "Xa" ∧
          n.typeName = some "Xa" ∧ n.docTypeName = some "Xa" := by
  intro o
  have hascii : Ascii "x_a".toList := by
    have hall : "x_a".toList.all (fun c => decide (c.toNat < 128)) = true := by decide
    exact fun c hc => of_decide_eq_true (List.all_eq_true.1 hall c hc)
  have honce : Style.pascal.convert "x_a" = "XA" := by decide +kernel
  have htwice : Style.pascal.convert "XA" = "Xa" := by decide +kernel
  obtain ⟨hstable, hclasses⟩ := pascal_twice_stable hascii
  simp only [honce, htwice] at hstable hclasses
  have hshape : (tree .php o (classBelow "x_a")).toOption.map (fun t =>
      t.descendants.map fun n => (n.key, n.tag)) = some [("x_a", .object), ("b", .bool)] := by
    decide +kernel
  obtain ⟨t, ht, hshape⟩ := Option.map_eq_some_iff.1 hshape
  replace ht := eq_ok_of_toOption ht
  have hclass : ("x_a", Tag.object) ∈ t.descendants.map fun n => (n.key, n.tag) := by
    rw [hshape]
    exact List.mem_cons_self
  obtain ⟨n, hn, heq⟩ := List.mem_map.1 hclass
  obtain ⟨hkey, htag⟩ := Prod.mk.inj heq
  have hcomposite : n.isComposite = true := by rw [Node.isComposite, htag]; rfl
  have hbase : baseName o n.key = "XA" := by rw [baseName_of_no_affixes rfl rfl, hkey, honce]
  obtain ⟨hname, hrefers⟩ := hclasses .php rfl o _ t ht n (List.mem_cons_of_mem t hn) hcomposite hbase
  obtain ⟨htype, hdocType⟩ := hrefers "" "" (by decide) (by decide)
  -- Both entries for objects are the name in Pascal case alone.
  have htype := htype (by rw [htag]; rfl)
  have hdocType := hdocType (by rw [htag]; rfl)
  exact ⟨honce, htwice, hstable, t, ht, n, List.mem_cons_of_mem t hn, hkey, htag, hname,
    htype, hdocType⟩

end Stencil.Format
