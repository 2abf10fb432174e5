import Stencil.Proofs.Schema.Voting

/-!
# Trees with and without refined texts

A tree can tell texts that denote moments or lengths of time from other texts. It differs from the
tree that does not in nothing but the tags of these texts: `plain` takes the one to the other.

The tag of a position decides whether the positions below an array are shown, but a refined text is
no array, so it decides the same in both trees. And the items of an array vote by what they look
like, where refinement plays no part.

## Key results

- `plain_tagOf`: the tag of a position, once the refinement is taken back
- `plain_build`: the same for a position and all that is below it
- `plain_infer`: the same for the tree of a sample
-/

namespace Stencil

namespace Tag

/-- The tag with the refinement of texts taken back. -/
def plain : Tag → Tag
  | .date | .time | .dateTime | .duration => .string
  | t => t

/-- Every refinement is one of texts. -/
theorem plain_of_mem_extended {t : Tag} (h : t ∈ extended) : t.plain = .string := by
  have hall : ∀ t ∈ extended, t.plain = .string := by decide
  exact hall t h

/-- Tags of arrays refine nothing. -/
theorem plain_of_isArray {t : Tag} (h : t.isArray = true) : t.plain = t := by
  cases t <;> first | rfl | cases h

/-- Taking the refinement back makes no array of objects. -/
theorem plain_eq_arrayObject_iff {t : Tag} : t.plain = .arrayObject ↔ t = .arrayObject := by
  cases t <;> simp [plain]

end Tag

namespace Schema

namespace Node

mutual

/-- The tree with the refinement of texts taken back. -/
def plain : Node → Node
  | ⟨key, tag, children, className, fileName, typeName, docTypeName⟩ =>
    ⟨key, tag.plain, plainAll children, className, fileName, typeName, docTypeName⟩

/-- Trees with the refinement of texts taken back. -/
def plainAll : List Node → List Node
  | [] => []
  | n :: ns => plain n :: plainAll ns

end

/-- Siblings are treated one by one. -/
theorem plainAll_eq_map (ns : List Node) : plainAll ns = ns.map plain := by
  induction ns with
  | nil => rw [plainAll, List.map_nil]
  | cons n ns ih => rw [plainAll, ih, List.map_cons]

/-- A node keeps everything but its tag and its children. -/
theorem plain_eq (n : Node) :
    n.plain = { n with tag := n.tag.plain, children := n.children.map plain } := by
  obtain ⟨key, tag, children, className, fileName, typeName, docTypeName⟩ := n
  rw [plain, plainAll_eq_map]

end Node

/-! ## Tags -/

/-- The form of a value gives it one of the tags that refine nothing. -/
theorem plain_kind (v : Json) : (kind v).plain = kind v := by
  cases v with
  | number n =>
    rw [kind]
    split <;> rfl
  | array vs => exact Tag.plain_of_isArray (Tally.isArray_winner _)
  | _ => rfl

/-- Apart from texts, the tag of a value is the same with and without refinement. -/
theorem plain_kindOf (v : Json) : (kindOf true v).plain = kindOf false v := by
  cases v with
  | string s =>
    have htrue : kindOf true (.string s) = (Moment.refine? s).getD .string := rfl
    have hfalse : kindOf false (.string s) = .string := rfl
    rw [htrue, hfalse]
    -- A text has a refined tag, or that of texts.
    cases hr : Moment.refine? s with
    | none => rfl
    | some t => exact Tag.plain_of_mem_extended (Moment.mem_extended_of_refine? hr)
  | null => exact plain_kind .null
  | bool b => exact plain_kind (.bool b)
  | number n => exact plain_kind (.number n)
  | array vs => exact plain_kind (.array vs)
  | object ms => exact plain_kind (.object ms)

/-- The tag of a position, with the refinement taken back. -/
theorem plain_tagOf (vs : List Json) : (tagOf true vs).plain = tagOf false vs := by
  rw [tagOf_eq, tagOf_eq]
  split
  · rfl
  · split
    · -- Arrays vote by what their items look like, whether texts are refined or not.
      exact Tag.plain_of_isArray (Tally.isArray_winner _)
    · -- Elsewhere the leading value decides.
      exact plain_kindOf (lead vs)

/-! ## Trees -/

/-- Refinement does not decide which members of a shape have positions. -/
theorem branches_plain (tag : Tag) (shape : Json) : branches tag.plain shape = branches tag shape := by
  cases shape with
  | array vs => simp only [branches, Tag.plain_eq_arrayObject_iff]
  | _ => rfl

/-- The tree that is built from values, with the refinement taken back. -/
theorem plain_build (key : String) (samples : List Json) (shape : Json) :
    (build true key samples shape).plain = build false key samples shape := by
  induction shape using memberInduction generalizing key samples with
  | h shape ih =>
    -- The two tags show the same members, and below these the values are the same again.
    have hbranches : branches (tagOf false samples) shape = branches (tagOf true samples) shape := by
      rw [← plain_tagOf, branches_plain]
    have hchildren : ∀ m ∈ branches (tagOf true samples) shape,
        (build true m.1 (valuesUnder m.1 samples) m.2).plain =
          build false m.1 (valuesUnder m.1 samples) m.2 := by
      intro m hm
      obtain ⟨ms, hms, hm⟩ := mem_branches hm
      exact ih ms (mem_membersIn_of_shownObject? hms) m hm m.1 _
    rw [build_eq key samples shape, build_eq key samples shape, Node.plain_eq, List.map_map,
      plain_tagOf, hbranches]
    congr 1
    exact List.map_congr_left hchildren

/-- The tree of a sample in which texts are refined is, with the refinement taken back, the tree in
which they are not. There is a tree exactly of objects and arrays, and all other samples fail in the
same way. -/
theorem plain_infer (doc : Json) :
    (infer true doc).map Node.plain = infer false doc ∧
      ((∃ root, infer true doc = .ok root) ↔ doc.isObject = true ∨ doc.isArray = true) := by
  constructor
  · cases doc with
    | object ms => exact congrArg Except.ok (plain_build "" _ _)
    | array vs => exact congrArg Except.ok (plain_build "" _ _)
    | _ => rfl
  · cases doc <;> simp [infer, Json.isObject, Json.isArray]

/-- A refined text decides on the tag of `k`, where an object stands behind it. The same text in an
array is not refined. -/
example : infer true (.array [.array [.bool true, .object [("k", .string "1h")]],
    .object [("k", .object [("a", .array [.string "1h"])])]]) =
    .ok { key := "", tag := .arrayObject,
          children := [{ key := "k", tag := .duration,
                         children := [{ key := "a", tag := .arrayString }] }] } := by
  cbv

end Schema
end Stencil
