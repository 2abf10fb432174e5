import Stencil.Proofs.Json.Members
import Stencil.Schema.Merge

/-!
# Merging without a bound on the depth

`mergePair` goes down as many levels as its two arguments have. Here it is shown to be a fixed
point of `Merge.step`, so that merging can be reasoned about case by case, with no depth in sight.

An array of objects can become taller when an object is merged into it: `[{}]` and `{"k": []}` make
`[{"k": []}]`. What merging never increases is the number of levels in the sense of `Shallow`, in
which an array and the objects among its items count as one.

## Key results

- `step_cases`: everything that one level of merging can do
- `mergePair_eq_step`: one level of merging, with `mergePair` itself on the level below
- `mergePair_object_object`, `mergePair_array_array`, ...: the cases of that equation
-/

namespace Stencil

namespace Json

/-! ## Levels -/

/-- A value with at most so many levels, where an array and its object items make up one level. -/
inductive Shallow : Nat → Json → Prop
  | null (n : Nat) : Shallow n .null
  | scalar (n : Nat) {v : Json} (h : v.isScalar = true) : Shallow n v
  | object {n : Nat} {ms : Members} (h : ∀ m ∈ ms, Shallow n m.2) : Shallow (n + 1) (.object ms)
  | array {n : Nat} {vs : List Json} (hitems : ∀ v ∈ vs, v.isObject = false → Shallow n v)
      (hmembers : ∀ ms, .object ms ∈ vs → ∀ m ∈ ms, Shallow n m.2) : Shallow (n + 1) (.array vs)

/-- A level more is allowed. -/
theorem Shallow.succ {n : Nat} {v : Json} (h : Shallow n v) : Shallow (n + 1) v := by
  induction h with
  | null => exact .null _
  | scalar n h => exact .scalar _ h
  | object _ ih => exact .object ih
  | array _ _ ih₁ ih₂ => exact .array ih₁ ih₂

/-- Any number of levels more is allowed. -/
theorem Shallow.mono {m n : Nat} {v : Json} (h : Shallow m v) (hmn : m ≤ n) : Shallow n v := by
  induction hmn with
  | refl => exact h
  | step _ ih => exact ih.succ

/-- The members of an object item count as one level less than the object itself. -/
theorem Shallow.members {n : Nat} {ms : Members} (h : Shallow (n + 1) (.object ms)) :
    ∀ m ∈ ms, Shallow n m.2 := by
  cases h with
  | scalar _ h => simp [isScalar] at h
  | object h => exact h

/-- No item is higher than all items together. -/
private theorem le_heightItems {vs : List Json} {v : Json} (h : v ∈ vs) :
    v.height ≤ heightItems vs := by
  induction vs with
  | nil => simp at h
  | cons w vs ih =>
    rw [heightItems]
    rcases List.mem_cons.1 h with rfl | h
    · omega
    · have := ih h
      omega

/-- No member's value is higher than all members together. -/
private theorem le_heightMembers {ms : Members} {m : String × Json} (h : m ∈ ms) :
    m.2.height ≤ heightMembers ms := by
  induction ms with
  | nil => simp at h
  | cons m' ms ih =>
    rw [heightMembers]
    rcases List.mem_cons.1 h with rfl | h
    · omega
    · have := ih h
      omega

/-- A value has no more levels than it is high. -/
theorem shallow_of_height_le {n : Nat} {v : Json} (h : v.height ≤ n) : Shallow n v := by
  induction n generalizing v with
  | zero =>
    cases v with
    | null => exact .null _
    | array _ | object _ => simp [height] at h
    | _ => exact .scalar _ rfl
  | succ n ih =>
    cases v with
    | null => exact .null _
    | array vs =>
      rw [height] at h
      -- An object item and its members are two steps of the height, but one level.
      refine .array (fun v hv _ => ih ?_) fun ms hms m hm => ih ?_
      · have := le_heightItems hv
        omega
      · have := le_heightItems hms
        have := le_heightMembers hm
        rw [height] at *
        omega
    | object ms =>
      rw [height] at h
      refine .object fun m hm => ih ?_
      have := le_heightMembers hm
      omega
    | _ => exact .scalar _ rfl

end Json

namespace Schema

open Json (Members Shallow)

namespace Merge

variable {p q : Json → Json → Json} {n : Nat}

/-! ## One level of merging, case by case -/

/-- The members of the object that a list of items consists of, if it consists of one object. -/
def lone? : List Json → Option Members
  | [.object ms] => some ms
  | _ => none

/-- Lists that consist of one object have no other form. -/
theorem lone?_eq_some_iff {vs : List Json} {ms : Members} :
    lone? vs = some ms ↔ vs = [.object ms] := by
  unfold lone?
  split <;> simp_all

/-- Merged into null, the members of an object are merged with each other only. -/
theorem step_null_left_object (b : Members) :
    step p .null (.object b) = .object (members p [] b) := by
  simp only [step]

/-- Merged into null, an array is reduced on its own. -/
theorem step_null_left_array (b : List Json) : step p .null (.array b) = .array (elements p b) := by
  simp only [step]

/-- Two objects are merged member by member. -/
theorem step_object_object (a b : Members) :
    step p (.object a) (.object b) = .object (members p a b) := by
  simp only [step]

/-- Two arrays are reduced together. -/
theorem step_array_array (a b : List Json) :
    step p (.array a) (.array b) = .array (elements p (a ++ b)) := by
  simp only [step]

/-- An object takes in an array only if one object is left of it. -/
theorem step_object_array (a : Members) (b : List Json) :
    step p (.object a) (.array b) =
      .object ((lone? (elements p b)).elim a fun m => members p a m) := by
  simp only [step]
  -- The engine matches on the reduced items, `lone?` says the same as a function.
  split
  · next m h => simp [h, lone?]
  · next h =>
    cases hl : lone? (elements p b) with
    | none => rfl
    | some m => exact absurd (lone?_eq_some_iff.1 hl) (h m)

/-- An array takes in an object only if it consists of one. -/
theorem step_array_object (a : List Json) (b : Members) :
    step p (.array a) (.object b) =
      .array ((lone? a).elim a fun m => [.object (members p m b)]) := by
  cases hl : lone? a with
  | some m =>
    obtain rfl := lone?_eq_some_iff.1 hl
    simp only [step, Option.elim_some]
  | none =>
    unfold step
    split <;> simp_all [lone?]

/-- A scalar stays as it is. -/
theorem step_of_isScalar {acc : Json} (h : acc.isScalar = true) (next : Json) :
    step p acc next = acc := by
  cases acc <;> simp [Json.isScalar] at h <;> cases next <;> simp only [step]

/-- A scalar adds nothing to a value that is there. -/
theorem step_scalar_right {acc next : Json} (ha : acc ≠ .null) (h : next.isScalar = true) :
    step p acc next = acc := by
  cases next <;> simp [Json.isScalar] at h <;> cases acc <;> simp_all [step]

/-- The first scalar takes the place of null. -/
theorem step_null_left_scalar {next : Json} (h : next.isScalar = true) :
    step p .null next = next := by
  cases next <;> simp [Json.isScalar] at h <;> simp only [step]

/-- Everything that one level of merging can do. -/
theorem step_cases {motive : Json → Json → Json → Prop} (acc next : Json)
    (kept : ∀ acc next, motive acc next acc)
    (scalar : ∀ v, v.isScalar = true → motive .null v v)
    (nullObject : ∀ b, motive .null (.object b) (.object (members p [] b)))
    (nullArray : ∀ b, motive .null (.array b) (.array (elements p b)))
    (objects : ∀ a b, motive (.object a) (.object b) (.object (members p a b)))
    (arrays : ∀ a b, motive (.array a) (.array b) (.array (elements p (a ++ b))))
    (objectArray : ∀ a b m, elements p b = [.object m] →
      motive (.object a) (.array b) (.object (members p a m)))
    (arrayObject : ∀ a b, motive (.array [.object a]) (.object b)
      (.array [.object (members p a b)])) :
    motive acc next (step p acc next) := by
  -- A scalar on either side needs no further split.
  by_cases ha : acc.isScalar = true
  · rw [step_of_isScalar ha]; exact kept acc next
  by_cases hn : next.isScalar = true
  · cases acc with
    | null => rw [step_null_left_scalar hn]; exact scalar next hn
    | _ => rw [step_scalar_right (by simp) hn]; exact kept _ next
  cases next with
  | null => rw [step_null_right]; exact kept acc .null
  | object b =>
    cases acc with
    | null => rw [step_null_left_object]; exact nullObject b
    | object a => rw [step_object_object]; exact objects a b
    | array a =>
      rw [step_array_object]
      cases hl : lone? a with
      | none => exact kept (.array a) (.object b)
      | some m => obtain rfl := lone?_eq_some_iff.1 hl; exact arrayObject m b
    | _ => simp [Json.isScalar] at ha
  | array b =>
    cases acc with
    | null => rw [step_null_left_array]; exact nullArray b
    | array a => rw [step_array_array]; exact arrays a b
    | object a =>
      rw [step_object_array]
      cases hl : lone? (elements p b) with
      | none => exact kept (.object a) (.array b)
      | some m => exact objectArray a b m (lone?_eq_some_iff.1 hl)
    | _ => simp [Json.isScalar] at ha
  | _ => simp [Json.isScalar] at hn

/-! ## Merging adds no levels -/

/-- Values with at most so many levels are merged into one that has no more. -/
def Bounded (p : Json → Json → Json) : Prop :=
  ∀ n acc next, Shallow n acc → Shallow n next → Shallow n (p acc next)

/-- The value under a key has no more levels than the members allow. -/
private theorem shallow_getD {ms : Members} (h : ∀ m ∈ ms, Shallow n m.2) (k : String) :
    Shallow n ((ms.get? k).getD .null) := by
  cases hk : ms.get? k with
  | none => exact .null _
  | some v => exact h _ (Members.mem_of_get? hk)

/-- Merging members adds no levels if merging two values does not. -/
private theorem members_shallow (hp : Bounded p) {s t : Members} (ht : ∀ m ∈ t, Shallow n m.2)
    (hs : ∀ m ∈ s, Shallow n m.2) : ∀ m ∈ members p t s, Shallow n m.2 := by
  unfold members
  -- Induction on the members that are merged in, with what they are merged into.
  induction s generalizing t with
  | nil => exact ht
  | cons m s ih =>
    rw [List.foldl_cons]
    apply ih _ fun m' hm' => hs m' (List.mem_cons_of_mem _ hm')
    intro m' hm'
    -- A member is the one that was just merged, or was there before.
    rcases Members.mem_of_mem_insert hm' with rfl | hm'
    · exact hp _ _ _ (shallow_getD ht _) (hs m List.mem_cons_self)
    · exact ht m' hm'

/-- An item with at most so many levels below it. -/
private def ItemWithin (n : Nat) (v : Json) : Prop :=
  (v.isObject = false → Shallow n v) ∧ ∀ ms, v = .object ms → ∀ m ∈ ms, Shallow n m.2

/-- An array has one level more than what lies below its items. -/
private theorem shallow_array_iff {vs : List Json} :
    Shallow (n + 1) (.array vs) ↔ ∀ v ∈ vs, ItemWithin n v := by
  constructor
  · intro h v hv
    cases h with
    | scalar _ h => simp [Json.isScalar] at h
    | array h₁ h₂ => exact ⟨h₁ v hv, fun ms hms => h₂ ms (hms ▸ hv)⟩
  · exact fun h => .array (fun v hv => (h v hv).1) fun ms hms => (h _ hms).2 ms rfl

/-- The items of a reduction have at most so many levels below them. -/
private def Within (n : Nat) (r : Reduction) : Prop :=
  (∀ v ∈ r.others, ItemWithin n v) ∧ ∀ m ∈ r.object.getD [], Shallow n m.2

/-- Appending an item adds no levels. -/
private theorem push_within {r : Reduction} (hr : Within n r) {v : Json} (hv : ItemWithin n v) :
    Within n (r.push v) := by
  unfold Reduction.push
  split
  · exact hr
  · exact ⟨List.forall_mem_append.2 ⟨hr.1, List.forall_mem_singleton.2 hv⟩, hr.2⟩

/-- Adding an item, whichever of its forms it has, adds no levels. -/
private theorem add_within (hp : Bounded p) {r : Reduction} (hr : Within n r) {v : Json}
    (hv : ItemWithin n v) : Within n (r.add p v) := by
  unfold Reduction.add
  split
  · next ms => exact ⟨hr.1, members_shallow hp hr.2 (hv.2 ms rfl)⟩
  · next vs =>
    have hred := hp n .null (.array vs) (.null _) (hv.1 rfl)
    split
    · next ms heq =>
      rw [heq] at hred
      -- The object stands one level below the array, so there is a level to spare.
      have hms := (shallow_array_iff.1 hred.succ _ (List.mem_singleton_self _)).2 ms rfl
      exact ⟨hr.1, members_shallow hp hr.2 hms⟩
    · exact push_within hr ⟨fun _ => hred, fun ms hms => (hms ▸ hred).succ.members⟩
  · exact push_within hr hv

/-- Reducing items adds no levels. -/
private theorem elements_within (hp : Bounded p) {vs : List Json} (hvs : ∀ v ∈ vs, ItemWithin n v) :
    ∀ v ∈ elements p vs, ItemWithin n v := by
  -- Each item keeps `Within`, which the empty reduction has.
  suffices h : ∀ r, Within n r → Within n (vs.foldl (Reduction.add p) r) by
    obtain ⟨hothers, hobject⟩ := h .empty ⟨by simp [Reduction.empty], by simp [Reduction.empty]⟩
    refine List.forall_mem_append.2 ⟨hothers, fun v hv => ?_⟩
    obtain ⟨ms, hms, rfl⟩ := Option.map_eq_some_iff.1 (Option.mem_toList.1 hv)
    rw [hms] at hobject
    exact ⟨by simp [Json.isObject], fun ms' h => Json.object.inj h ▸ hobject⟩
  induction vs with
  | nil => exact fun r hr => hr
  | cons v vs ih =>
    intro r hr
    exact ih (fun w hw => hvs w (List.mem_cons_of_mem _ hw)) _
      (add_within hp hr (hvs v List.mem_cons_self))

/-- If merging adds no levels below, it adds none on this level. -/
theorem step_bounded (hp : Bounded p) : Bounded (step p) := by
  intro n acc next
  cases n with
  | zero =>
    -- Without a level there are only scalars and null.
    intro ha hn
    cases hn with
    | null => rwa [step_null_right]
    | scalar _ hs =>
      by_cases h : acc = .null
      · rw [h, step_null_left_scalar hs]; exact .scalar _ hs
      · rwa [step_scalar_right h hs]
  | succ n =>
    -- What remains is one case for each thing that merging can do.
    refine step_cases (motive := fun acc next v =>
      Shallow (n + 1) acc → Shallow (n + 1) next → Shallow (n + 1) v) acc next ?kept ?scalar
      ?nullObject ?nullArray ?objects ?arrays ?objectArray ?arrayObject
    case kept => intro acc next ha _; exact ha
    case scalar => intro v _ _ hv; exact hv
    case nullObject =>
      intro b _ hb
      exact .object (members_shallow hp (by simp) hb.members)
    case nullArray =>
      intro b _ hb
      exact shallow_array_iff.2 (elements_within hp (shallow_array_iff.1 hb))
    case objects =>
      intro a b ha hb
      exact .object (members_shallow hp ha.members hb.members)
    case arrays =>
      intro a b ha hb
      have hab := List.forall_mem_append.2 ⟨shallow_array_iff.1 ha, shallow_array_iff.1 hb⟩
      exact shallow_array_iff.2 (elements_within hp hab)
    case objectArray =>
      intro a b m hm ha hb
      have hred := elements_within hp (shallow_array_iff.1 hb) (.object m) (by simp [hm])
      exact .object (members_shallow hp ha.members (hred.2 m rfl))
    case arrayObject =>
      intro a b ha hb
      have hitem := shallow_array_iff.1 ha _ (List.mem_singleton_self _)
      have hab := members_shallow hp (hitem.2 a rfl) hb.members
      exact shallow_array_iff.2 (List.forall_mem_singleton.2
        ⟨by simp [Json.isObject], fun ms h => Json.object.inj h ▸ hab⟩)

/-! ## More depth changes nothing -/

/-- Two ways to merge give the same for values with at most so many levels. -/
def AgreeWithin (n : Nat) (p q : Json → Json → Json) : Prop :=
  ∀ acc next, Shallow n acc → Shallow n next → p acc next = q acc next

/-- Members are merged in the same way by two functions that agree on their values. -/
private theorem members_congr (hp : Bounded p) (h : AgreeWithin n p q) {s t : Members}
    (ht : ∀ m ∈ t, Shallow n m.2) (hs : ∀ m ∈ s, Shallow n m.2) :
    members p t s = members q t s := by
  unfold members
  induction s generalizing t with
  | nil => rfl
  | cons m s ih =>
    have hm := hs m List.mem_cons_self
    rw [List.foldl_cons, List.foldl_cons, ← h _ _ (shallow_getD ht _) hm]
    -- The members merged so far have no more levels, so the induction goes on.
    apply ih _ fun m' hm' => hs m' (List.mem_cons_of_mem _ hm')
    intro m' hm'
    rcases Members.mem_of_mem_insert hm' with rfl | hm'
    · exact hp _ _ _ (shallow_getD ht _) hm
    · exact ht m' hm'

/-- An item is added in the same way by two functions that agree below it. -/
private theorem add_congr (hp : Bounded p) (h : AgreeWithin n p q) {r : Reduction}
    (hr : Within n r) {v : Json} (hv : ItemWithin n v) : r.add p v = r.add q v := by
  cases v with
  | object ms =>
    simp only [Reduction.add, Reduction.addObject, members_congr hp h hr.2 (hv.2 ms rfl)]
  | array vs =>
    -- An array is reduced first, and what is left of it decides how it is added.
    have hred := hp n .null (.array vs) (.null _) (hv.1 rfl)
    simp only [Reduction.add, ← h _ _ (.null _) (hv.1 rfl)]
    split
    · next ms heq =>
      rw [heq] at hred
      have hms := (shallow_array_iff.1 hred.succ _ (List.mem_singleton_self _)).2 ms rfl
      simp only [Reduction.addObject, members_congr hp h hr.2 hms]
    · rfl
  | _ => rfl

/-- Items are reduced in the same way by two functions that agree below them. -/
private theorem elements_congr (hp : Bounded p) (h : AgreeWithin n p q) {vs : List Json}
    (hvs : ∀ v ∈ vs, ItemWithin n v) : elements p vs = elements q vs := by
  -- The reduction that the fold starts from is general, so that the induction goes through.
  suffices hfold : ∀ r, Within n r →
      vs.foldl (Reduction.add p) r = vs.foldl (Reduction.add q) r by
    rw [elements, elements, hfold _ ⟨by simp [Reduction.empty], by simp [Reduction.empty]⟩]
  induction vs with
  | nil => exact fun _ _ => rfl
  | cons v vs ih =>
    intro r hr
    have hv := hvs v List.mem_cons_self
    rw [List.foldl_cons, List.foldl_cons, ← add_congr hp h hr hv]
    exact ih (fun w hw => hvs w (List.mem_cons_of_mem _ hw)) _ (add_within hp hr hv)

/-- If two functions agree below, one level of merging with them agrees. -/
private theorem step_congr (hp : Bounded p) (h : AgreeWithin n p q) :
    AgreeWithin (n + 1) (step p) (step q) := by
  intro acc next ha hn
  -- Only objects and arrays ask the two functions for anything.
  by_cases has : acc.isScalar = true
  · rw [step_of_isScalar has, step_of_isScalar has]
  by_cases hns : next.isScalar = true
  · cases acc with
    | null => rw [step_null_left_scalar hns, step_null_left_scalar hns]
    | _ => rw [step_scalar_right (by simp) hns, step_scalar_right (by simp) hns]
  cases next with
  | null => rw [step_null_right, step_null_right]
  | object b =>
    cases acc with
    | null =>
      have hb := members_congr (t := []) hp h (by simp) hn.members
      simp only [step_null_left_object, hb]
    | object a => simp only [step_object_object, members_congr hp h ha.members hn.members]
    | array a =>
      rw [step_array_object, step_array_object]
      cases hl : lone? a with
      | none => rfl
      | some m =>
        obtain rfl := lone?_eq_some_iff.1 hl
        have hm := (shallow_array_iff.1 ha _ (List.mem_singleton_self _)).2 m rfl
        simp only [Option.elim_some, members_congr hp h hm hn.members]
    | _ => simp [Json.isScalar] at has
  | array b =>
    have hb := shallow_array_iff.1 hn
    cases acc with
    | null => simp only [step_null_left_array, elements_congr hp h hb]
    | array a =>
      have hab := List.forall_mem_append.2 ⟨shallow_array_iff.1 ha, hb⟩
      simp only [step_array_array, elements_congr hp h hab]
    | object a =>
      -- Both reduce the array to the same items, so both see one object or neither does.
      rw [step_object_array, step_object_array, ← elements_congr hp h hb]
      cases hl : lone? (elements p b) with
      | none => rfl
      | some m =>
        have hm := elements_within hp hb (.object m) (by simp [lone?_eq_some_iff.1 hl])
        simp only [Option.elim_some, members_congr hp h ha.members (hm.2 m rfl)]
    | _ => simp [Json.isScalar] at has
  | _ => simp [Json.isScalar] at hns

/-- No depth of merging adds levels. -/
private theorem upTo_bounded (n : Nat) : Bounded (upTo n) := by
  induction n with
  | zero => exact step_bounded fun _ _ _ ha _ => ha
  | succ n ih => exact step_bounded ih

/-- One more depth changes nothing for values that have no use for it. -/
private theorem upTo_succ (n : Nat) : AgreeWithin n (upTo n) (upTo (n + 1)) := by
  induction n with
  | zero =>
    -- The two differ only in how they merge what lies below, and there is nothing.
    intro acc next _ hn
    cases hn with
    | null => rw [upTo, upTo, step_null_right, step_null_right]
    | scalar _ hs =>
      by_cases h : acc = .null
      · rw [h, upTo, upTo, step_null_left_scalar hs, step_null_left_scalar hs]
      · rw [upTo, upTo, step_scalar_right h hs, step_scalar_right h hs]
  | succ n ih => exact step_congr (upTo_bounded n) ih

/-- Nor does any greater depth. -/
private theorem upTo_eq {m n : Nat} (hmn : m ≤ n) : AgreeWithin m (upTo m) (upTo n) := by
  intro acc next ha hn
  induction hmn with
  | refl => rfl
  | @step n hmn ih => rw [ih, upTo_succ n acc next (ha.mono hmn) (hn.mono hmn)]

end Merge

/-! ## Merging values of any depth -/

open Merge

/-- Any depth that is enough for both values gives the merged value. -/
theorem mergePair_eq_upTo {n : Nat} {acc next : Json} (ha : acc.height ≤ n)
    (hn : next.height ≤ n) : mergePair acc next = upTo n acc next :=
  upTo_eq (Nat.max_le.2 ⟨ha, hn⟩) acc next (Json.shallow_of_height_le (Nat.le_max_left ..))
    (Json.shallow_of_height_le (Nat.le_max_right ..))

/-- Merging is merging with a depth that is enough. -/
private theorem mergePair_agree (n : Nat) : AgreeWithin n mergePair (upTo n) := by
  intro acc next ha hn
  -- Compare at a depth that is enough for the bound and for both values.
  rw [mergePair_eq_upTo (n := max n (max acc.height next.height)) (by omega) (by omega)]
  exact (upTo_eq (Nat.le_max_left ..) acc next ha hn).symm

/-- Merging two values adds no levels. -/
theorem mergePair_bounded : Bounded mergePair := by
  intro n acc next ha hn
  rw [mergePair_agree n acc next ha hn]
  exact upTo_bounded n n acc next ha hn

/-- One level of merging, with merging itself on the level below. -/
theorem mergePair_eq_step (acc next : Json) : mergePair acc next = step mergePair acc next := by
  let n := max acc.height next.height
  have ha := (Json.shallow_of_height_le (Nat.le_max_left acc.height next.height)).succ
  have hn := (Json.shallow_of_height_le (Nat.le_max_right acc.height next.height)).succ
  -- With one level more than needed, there are enough left for the level below.
  rw [mergePair_agree (n + 1) acc next ha hn, upTo]
  exact (step_congr mergePair_bounded (mergePair_agree n) acc next ha hn).symm

/-- Merge the members of an object into those of another. -/
def joinMembers (a b : Members) : Members := Merge.members mergePair a b

/-- Null adds nothing. -/
@[simp] theorem mergePair_null_right (acc : Json) : mergePair acc .null = acc := by
  rw [mergePair_eq_step, step_null_right]

/-- Merged into null, a value is reduced on its own. -/
@[simp] theorem mergePair_null_left (next : Json) : mergePair .null next = collapse next := rfl

/-- Two objects are merged member by member. -/
theorem mergePair_object_object (a b : Members) :
    mergePair (.object a) (.object b) = .object (joinMembers a b) := by
  rw [mergePair_eq_step, step_object_object, joinMembers]

/-- Two arrays are reduced together. -/
theorem mergePair_array_array (a b : List Json) :
    mergePair (.array a) (.array b) = .array (mergeElements (a ++ b)) := by
  rw [mergePair_eq_step, step_array_array, mergeElements]

/-- An object takes in an array only if one object is left of it. -/
theorem mergePair_object_array (a : Members) (b : List Json) :
    mergePair (.object a) (.array b) =
      .object ((lone? (mergeElements b)).elim a fun m => joinMembers a m) := by
  rw [mergePair_eq_step, step_object_array, mergeElements]
  rfl

/-- An array takes in an object only if it consists of one. -/
theorem mergePair_array_object (a : List Json) (b : Members) :
    mergePair (.array a) (.object b) =
      .array ((lone? a).elim a fun m => [.object (joinMembers m b)]) := by
  rw [mergePair_eq_step, step_array_object]
  rfl

/-- A scalar stays as it is. -/
theorem mergePair_of_isScalar {acc : Json} (h : acc.isScalar = true) (next : Json) :
    mergePair acc next = acc := by
  rw [mergePair_eq_step, step_of_isScalar h]

/-- A scalar adds nothing to a value that is there. -/
theorem mergePair_scalar_right {acc next : Json} (ha : acc ≠ .null) (h : next.isScalar = true) :
    mergePair acc next = acc := by
  rw [mergePair_eq_step, step_scalar_right ha h]

@[simp] theorem collapse_null : collapse .null = .null := mergePair_null_right .null

/-- A scalar on its own stays as it is. -/
theorem collapse_of_isScalar {v : Json} (h : v.isScalar = true) : collapse v = v := by
  rw [collapse, mergePair_eq_step, step_null_left_scalar h]

/-- On its own, an object is merged key by key: a key that is repeated has one value. -/
theorem collapse_object (ms : Members) : collapse (.object ms) = .object (joinMembers [] ms) := by
  rw [collapse, mergePair_eq_step, step_null_left_object, joinMembers]

/-- On its own, an array is reduced. -/
theorem collapse_array (vs : List Json) : collapse (.array vs) = .array (mergeElements vs) := by
  rw [collapse, mergePair_eq_step, step_null_left_array, mergeElements]

end Schema
end Stencil
