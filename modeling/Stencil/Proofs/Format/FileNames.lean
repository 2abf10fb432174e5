import Stencil.Proofs.FileTree.Paths
import Stencil.Proofs.Format.Builtin
import Stencil.Proofs.Format.Frame
import Stencil.Proofs.Naming.Alphabet

/-!
# The files of built-in profiles

The built-in profiles name files after classes, or after the root if it is none, in a style without
dots. Whatever the keys of a document and the options are, there is no dot, slash or backslash in
front of the extension, so the name leads to something in the directory that it is joined to.

## Key results

- `Path.plain_append`: a stem without dots and slashes, with an extension
- `Profile.exists_fileStyle_of_builtin`: the styles of the built-in profiles
- `exists_fileName_of_mem_tree`: all file names of a formatted tree have been made by the profile
- `fileNames_of_builtin`: the files of built-in profiles stay in their directory
-/

namespace Stencil

open Schema (Node infer)
open Naming (Style)

/-- A stem without dots and slashes is a plain name if it is not empty, whatever plain name follows. -/
theorem Path.plain_append {stem ext : String} (hdot : '.' ∉ stem.toList) (hslash : '/' ∉ stem.toList)
    (hext : ext = "" ∨ Plain ext) : stem ++ ext = "" ∨ Plain (stem ++ ext) := by
  by_cases hstem : stem = ""
  · rwa [hstem, String.empty_append]
  · right
    obtain ⟨c, cs, hc⟩ := List.exists_cons_of_ne_nil (by simpa using hstem : stem.toList ≠ [])
    have htext : (stem ++ ext).toList = c :: (cs ++ ext.toList) := by
      rw [String.toList_append, hc, List.cons_append]
    -- The name starts with a character of the stem, unlike the two names that are dots.
    have hne : c ≠ '.' := fun heq => hdot (by rw [hc, heq]; exact List.mem_cons_self)
    have hextSlash : '/' ∉ ext.toList := by
      rcases hext with rfl | hext
      · decide
      · exact hext.slash
    -- It is not empty, has no slash, and is neither of the two names that are dots.
    refine ⟨fun h => ?_, fun h => ?_, fun h => ?_, fun h => ?_⟩
    · rw [h] at htext
      cases htext
    · rw [String.toList_append, List.mem_append] at h
      exact h.elim hslash hextSlash
    · rw [h] at htext
      exact hne (List.cons.inj htext).1.symm
    · rw [h] at htext
      exact hne (List.cons.inj htext).1.symm

namespace Profile

/-- No built-in profile names files in dot case. -/
theorem exists_fileStyle_of_builtin : ∀ p ∈ builtin, ∃ style : Style,
    style ≠ .dot ∧ p.fileNameTemplate = nameIn style := by
  simp only [builtin, List.forall_mem_cons]
  exact ⟨⟨.camel, by decide, rfl⟩, ⟨.snake, by decide, rfl⟩, ⟨.snake, by decide, rfl⟩,
    ⟨.pascal, by decide, rfl⟩, fun p hp => absurd hp List.not_mem_nil⟩

/-- The extensions of the built-in profiles are plain names, or there is none. -/
theorem extension_of_builtin : ∀ p ∈ builtin, p.extension = "" ∨ Path.Plain p.extension := by
  have hall : ∀ p ∈ builtin, p.extension = "" ∨ p.extension = ".go" ∨ p.extension = ".php" := by
    decide +kernel
  intro p hp
  rcases hall p hp with h | h | h
  · exact .inl h
  · rw [h]
    exact .inr ⟨by decide, by decide, by decide, by decide⟩
  · rw [h]
    exact .inr ⟨by decide, by decide, by decide, by decide⟩

end Profile

namespace Format

variable {p : Profile} {o : FormatOptions} {n m : Node} {f : String}

/-- A node that had no file name before has been given the one that the profile makes. -/
theorem exists_fileName_of_named (hn : n.Nameless) (h : named p o n = .ok m)
    (hf : m.fileName = some f) : ∃ n', fileName p n' = .ok f := by
  obtain ⟨c?, t, d, f?, rfl, hclass, hother, -, -⟩ := named_steps h
  obtain rfl : f? = some f := hf
  -- Only a class gets a file here, any other node keeps what it had, which is none.
  cases hcomposite : n.isComposite with
  | true =>
    obtain ⟨-, f', hf', heq⟩ := hclass hcomposite
    obtain rfl := Option.some.inj heq
    exact ⟨_, hf'⟩
  | false =>
    obtain ⟨-, hnone⟩ := hother hcomposite
    rw [hn.2] at hnone
    cases hnone

/-- An inferred tree has no names before its nodes are named one by one. -/
theorem nameless_start {refine : Bool} {doc : Json} {root : Node}
    (h : infer refine doc = .ok root) :
    ∀ d ∈ start o root :: (start o root).descendants, d.Nameless := by
  -- The root takes a key, and nodes are sorted: neither is a name.
  rw [start_of_infer h]
  refine Node.nameless_sortedIf ?_
  have hnameless := Schema.nameless_of_infer h
  rw [List.forall_mem_cons] at hnameless ⊢
  rwa [Node.descendants_withKey]

/-- All file names of a formatted tree have been made by the profile. -/
theorem exists_fileName_of_mem_tree {refine : Bool} {doc : Json} {root t d : Node}
    (hroot : infer refine doc = .ok root) (h : tree p o root = .ok t) (hd : d ∈ t :: t.descendants)
    (hf : d.fileName = some f) : ∃ n, fileName p n = .ok f := by
  rw [tree_eq] at h
  obtain ⟨m, hnodes, hfiled⟩ := bind_eq_ok_iff.1 h
  have hbelow : ∀ d ∈ m :: m.descendants, d.fileName = some f → ∃ n, fileName p n = .ok f := by
    intro d hd hf
    obtain ⟨c, hc, hcd⟩ := exists_nodes_of_mem_descendants hnodes hd
    obtain ⟨d', hnamed, heq⟩ := exists_named_of_nodes hcd
    rw [heq] at hf
    exact exists_fileName_of_named (nameless_start hroot c hc) hnamed hf
  -- The root keeps the file that it has as a class, or gets one because it is the root.
  obtain ⟨f', rfl, hf'⟩ := filed_inv hfiled
  rcases List.mem_cons.1 hd with rfl | hd
  · obtain rfl := Option.some.inj hf
    rcases hf' with hkept | ⟨-, hmade⟩
    · exact hbelow m List.mem_cons_self hkept
    · exact ⟨m, hmade⟩
  · rw [Node.descendants_withFileName] at hd
    exact hbelow d (List.mem_cons_of_mem m hd) hf

/-- Whatever the document and the options are, a built-in profile gives the root a file, and every
file name has a stem without dots, slashes and backslashes in front of the extension. So it does not
lead out of the directory that it is joined to. -/
theorem fileNames_of_builtin {p : Profile} (hp : p ∈ Profile.builtin) (o : FormatOptions)
    {refine : Bool} {doc : Json} {root : Node} (hroot : infer refine doc = .ok root) :
    ∃ t, tree p o root = .ok t ∧ t.fileName.isSome = true ∧
      ∀ d ∈ t :: t.descendants, ∀ f, d.fileName = some f →
        (∃ stem, f = stem ++ p.extension ∧
          '.' ∉ stem.toList ∧ '/' ∉ stem.toList ∧ '\\' ∉ stem.toList) ∧
        ∀ directory, Path.Within (Path.ofText directory) (Path.ofText (Path.join directory f)) := by
  obtain ⟨t, ht⟩ := exists_tree (Profile.namesOnly_of_builtin p hp) o root
  obtain ⟨-, hfile, -⟩ := tree_inv ht
  refine ⟨t, ht, hfile, fun d hd f hf => ?_⟩
  obtain ⟨style, hstyle, htemplate⟩ := Profile.exists_fileStyle_of_builtin p hp
  obtain ⟨n, hn⟩ := exists_fileName_of_mem_tree hroot ht hd hf
  -- Each name is a node's name in the style of the profile, with the extension.
  rw [fileName_eq htemplate] at hn
  obtain rfl := Except.ok.inj hn
  have hdot : '.' ∉ (style.convert n.name).toList :=
    Naming.not_mem_convert_of_ne_dot hstyle (by decide) n.name
  have hslash : '/' ∉ (style.convert n.name).toList :=
    Naming.not_mem_convert_of_ne_dot hstyle (by decide) n.name
  have hbackslash : '\\' ∉ (style.convert n.name).toList :=
    Naming.not_mem_convert_of_ne_dot hstyle (by decide) n.name
  exact ⟨⟨_, rfl, hdot, hslash, hbackslash⟩, Path.within_join
    (Path.plain_append hdot hslash (Profile.extension_of_builtin p hp))⟩

/-- Names that try to lead out of the directory. -/
theorem fileNames_of_builtin_hostile :
    let doc : Json := .object [("..\\b.c", .object [("/d", .null)])]
    let o : FormatOptions := { rootClassName := "../etc", prefixClassName := "/" }
    Profile.go ∈ Profile.builtin ∧ ∃ root, infer true doc = .ok root ∧
      ∃ t stem, tree Profile.go o root = .ok t ∧ t.fileName = some (stem ++ ".go") ∧
        '.' ∉ stem.toList ∧ '/' ∉ stem.toList ∧ '\\' ∉ stem.toList ∧
        Path.Within (Path.ofText "out") (Path.ofText (Path.join "out" (stem ++ ".go"))) := by
  intro doc o
  have hgo : Profile.go ∈ Profile.builtin := by decide
  have hextension : Profile.go.extension = ".go" := by decide +kernel
  obtain ⟨root, hroot⟩ : ∃ root, infer true doc = .ok root := ⟨_, rfl⟩
  obtain ⟨t, ht, hfile, hsafe⟩ := fileNames_of_builtin hgo o hroot
  -- The root has a file, and its name is one of those that are safe.
  obtain ⟨f, hf⟩ := Option.isSome_iff_exists.1 hfile
  obtain ⟨⟨stem, rfl, hdot, hslash, hbackslash⟩, hwithin⟩ := hsafe t List.mem_cons_self f hf
  rw [hextension] at hf hwithin
  exact ⟨hgo, root, hroot, t, stem, ht, hf, hdot, hslash, hbackslash, hwithin "out"⟩

end Format

end Stencil
