import Stencil.Generate.Files
import Stencil.Proofs.FileTree.Writing

/-!
# Writing the files of a response

Files with plain names are put into one directory, one after the other. Each of them replaces what an
earlier one of its name has left, so of several files with one name the last one stays, and nothing
else in the tree is changed but that the directory is made.

## Key results

- `find?_putAll_of_last`, `find?_putAll_of_ne`: what there is after putting files into a directory
- `writeText_join_inv`: one file
- `writeAll_inv`: all files put them into the directory, and their paths lead to them
- `writeFiles_last_wins`: the last file of each name can be read, and all else is as it was
-/

namespace Stencil

variable {directory : String} {place q : Place} {t t' : FileTree} {fs : List RenderedFile}
  {paths : List String}

/-! ## Files in a directory -/

/-- Put files into a directory, in order. -/
def putAll (place : Place) : List RenderedFile → FileTree → FileTree
  | [], t => t
  | f :: fs, t => putAll place fs (t.insert (place ++ [f.fileName]) (.file f.content.toUTF8))

/-- Files are put one after the other. -/
theorem putAll_append (place : Place) (fs gs : List RenderedFile) (t : FileTree) :
    putAll place (fs ++ gs) t = putAll place gs (putAll place fs t) := by
  induction fs generalizing t with
  | nil => rfl
  | cons f fs ih => exact ih _

/-- A file is at its place, and all else is as it was. -/
theorem find?_put (place q : Place) (name : String) (e : Entry) (t : FileTree) :
    (t.insert (place ++ [name]) e).find? q = if q = place ++ [name] then some e else t.find? q :=
  FileTree.find?_insert t _ q e (by simp)

/-- Where no file is put, there is what there was. -/
theorem find?_putAll_of_ne (h : ∀ f ∈ fs, q ≠ place ++ [f.fileName]) (t : FileTree) :
    (putAll place fs t).find? q = t.find? q := by
  induction fs generalizing t with
  | nil => rfl
  | cons f fs ih =>
    rw [putAll, ih (fun g hg => h g (List.mem_cons_of_mem f hg)), find?_put,
      if_neg (h f List.mem_cons_self)]

/-- A file stays if no later one has its name. -/
theorem find?_putAll_of_last {f : RenderedFile} {after : List RenderedFile}
    (h : ∀ g ∈ after, g.fileName ≠ f.fileName) (place : Place) (before : List RenderedFile)
    (t : FileTree) : (putAll place (before ++ f :: after) t).find? (place ++ [f.fileName]) =
      some (.file f.content.toUTF8) := by
  -- The earlier files do not matter, the later ones have other places.
  rw [putAll_append, putAll, find?_putAll_of_ne, find?_put, if_pos rfl]
  intro g hg heq
  have hname : f.fileName = g.fileName := List.singleton_inj.1 (List.append_cancel_left heq)
  exact h g hg hname.symm

/-! ## Runs -/

/-- What is asked of files succeeds iff it meets no fault. -/
theorem run_settle_eq_ok_iff {α : Type} {act : StateM FileTree (Except FileFault α)} {a : α} :
    (settle act).run t = (.ok a, t') ↔ act t = (.ok a, t') := by
  have hrun : (settle act).run t = ((act t).1.mapError .file, (act t).2) := rfl
  rw [hrun, Prod.ext_iff, Prod.ext_iff, mapError_eq_ok_iff]

/-- Writing a text gives the tree in which it stands. -/
theorem writeText_eq_ok_iff {file content : String} :
    (FileAccess.writeText file content : StateM FileTree (Except FileFault Unit)) t = (.ok (), t') ↔
      t.writeText file content = .ok t' := by
  simp only [FileAccess.writeText]
  cases t.writeText file content with
  | ok t₁ => exact ⟨fun h => congrArg Except.ok (Prod.mk.inj h).2, fun h => by cases h; rfl⟩
  | error fault => exact ⟨fun h => (by cases (Prod.mk.inj h).1), fun h => (by cases h)⟩

/-- Writing one file puts it into the directory, and its path leads to it. -/
theorem writeText_join_inv {name content : String} (hname : Path.Plain name)
    (hplace : t.locate (Path.ofText directory) = .ok place)
    (h : t.writeText (Path.join directory name) content = .ok t') :
    t' = t.insert (place ++ [name]) (.file content.toUTF8) ∧ t.KeepsDirectories t' ∧
      FileTree.path (Path.join directory name) = .ok (Path.ofText (Path.join directory name)) ∧
      t.locate (Path.ofText (Path.join directory name)) = .ok (place ++ [name]) := by
  obtain ⟨hpath, -, q, hq, hfile, rfl⟩ := FileTree.writeText_inv h
  obtain ⟨d, hd, rfl⟩ := FileTree.locate_join hname hq
  obtain rfl : place = d := Except.ok.inj (hplace.symm.trans hd)
  exact ⟨rfl, FileTree.keepsDirectories_insert hfile _, hpath, hq⟩

/-- Writing all files puts them into the directory, and their paths lead to them. -/
theorem writeAll_inv (hplain : ∀ f ∈ fs, Path.Plain f.fileName)
    (hplace : t.locate (Path.ofText directory) = .ok place)
    (h : (writeAll directory fs : ExceptT Problem (StateM FileTree) (List String)).run t =
      (.ok paths, t')) :
    paths = (fs.map fun f => Path.join directory f.fileName) ∧ t' = putAll place fs t ∧
      t.KeepsDirectories t' ∧ ∀ f ∈ fs,
        FileTree.path (Path.join directory f.fileName) =
          .ok (Path.ofText (Path.join directory f.fileName)) ∧
        t'.locate (Path.ofText (Path.join directory f.fileName)) = .ok (place ++ [f.fileName]) := by
  induction fs generalizing t paths with
  | nil =>
    obtain ⟨hpaths, rfl⟩ := Prod.mk.inj h
    exact ⟨(Except.ok.inj hpaths).symm, rfl, .refl t, by simp⟩
  | cons f fs ih =>
    obtain ⟨hf, hfs⟩ := List.forall_mem_cons.1 hplain
    -- The first file, and then the rest in the tree that it has left.
    rw [writeAll] at h
    obtain ⟨⟨⟩, t₁, hfirst, h⟩ := run_bind_eq_ok_iff.1 h
    obtain ⟨rest, t₂, hrest, h⟩ := run_bind_eq_ok_iff.1 h
    obtain ⟨hpaths, rfl⟩ := Prod.mk.inj h
    obtain rfl := Except.ok.inj hpaths
    obtain ⟨rfl, hkeeps, hpath, hlocate⟩ :=
      writeText_join_inv hf hplace (writeText_eq_ok_iff.1 (run_settle_eq_ok_iff.1 hfirst))
    -- The directory is still where it was when the rest is written.
    obtain ⟨rfl, rfl, hkeeps', hlead⟩ :=
      ih hfs (FileTree.locate_of_keepsDirectories hkeeps hplace) hrest
    have hall := hkeeps.trans hkeeps'
    refine ⟨rfl, rfl, hall, List.forall_mem_cons.2 ⟨⟨hpath, ?_⟩, hlead⟩⟩
    exact FileTree.locate_of_keepsDirectories hall hlocate

/-- After the files of a response have been written, the last file of each name is in the directory and
can be read at its path. Everything else is as it was, but that directories may have been made where
there was nothing. There is one path for each file, in the order of the response. -/
theorem writeFiles_last_wins (hplain : ∀ f ∈ fs, Path.Plain f.fileName)
    (h : (writeFiles directory fs : ExceptT Problem (StateM FileTree) (List String)).run t =
      (.ok paths, t')) :
    paths = (fs.map fun f => Path.join directory f.fileName) ∧ t'.home = t.home ∧
      ∃ place, t'.locate (Path.ofText directory) = .ok place ∧
        (∀ before f after, fs = before ++ f :: after → (∀ g ∈ after, g.fileName ≠ f.fileName) →
          t'.find? (place ++ [f.fileName]) = some (.file f.content.toUTF8) ∧
            t'.readText (Path.join directory f.fileName) = .ok f.content) ∧
        ∀ q, (∀ f ∈ fs, q ≠ place ++ [f.fileName]) →
          t'.find? q = t.find? q ∨ t.find? q = none ∧ t'.find? q = some .directory := by
  rw [writeFiles] at h
  obtain ⟨⟨⟩, t₁, hmake, h⟩ := run_bind_eq_ok_iff.1 h
  have hmake' : t.createDirectories directory = (.ok (), t₁) := run_settle_eq_ok_iff.1 hmake
  -- Making the directory leaves all files alone, and then there is a place for those of the response.
  have hgrown : t.Grown t₁ := by
    have hgrown := FileTree.grown_createDirectories t directory
    rwa [hmake'] at hgrown
  obtain ⟨place, hplace⟩ := FileTree.exists_locate_of_createDirectories hmake'
  obtain ⟨rfl, rfl, hkeeps, hlead⟩ := writeAll_inv hplain hplace h
  refine ⟨rfl, hkeeps.home.trans hgrown.home, place,
    FileTree.locate_of_keepsDirectories hkeeps hplace, ?_, ?_⟩
  · -- No later file takes the place of this one.
    rintro before f after rfl hlast
    have hmem : f ∈ before ++ f :: after := List.mem_append_right before List.mem_cons_self
    have hfind := find?_putAll_of_last hlast place before t₁
    obtain ⟨hpath, hlocate⟩ := hlead f hmem
    exact ⟨hfind, FileTree.readText_eq hpath (hplain f hmem).slashed_join hlocate hfind⟩
  · intro q hq
    rw [find?_putAll_of_ne hq]
    exact hgrown.find? q

/-- A tree in which a directory holds a file already. -/
def treeWithFile : FileTree :=
  ((FileTree.withHome ["w"]).insert ["w", "out"] .directory).insert ["w", "out", "a.go"]
    (.file "0".toUTF8)

/-- Files of which two have one name. -/
def threeFiles : List RenderedFile := [⟨"a.go", "1"⟩, ⟨"b.go", "2"⟩, ⟨"a.go", "3"⟩]

theorem writeFiles_last_wins_twice :
    (∀ f ∈ threeFiles, Path.Plain f.fileName) ∧
      ∃ t', (writeFiles "out" threeFiles :
          ExceptT Problem (StateM FileTree) (List String)).run treeWithFile =
            (.ok ["out/a.go", "out/b.go", "out/a.go"], t') ∧
        t'.readText "out/a.go" = .ok "3" ∧ t'.readText "out/b.go" = .ok "2" := by
  have hplain : ∀ f ∈ threeFiles, Path.Plain f.fileName := by
    simp only [threeFiles, List.forall_mem_cons]
    exact ⟨⟨by decide, by decide, by decide, by decide⟩,
      ⟨by decide, by decide, by decide, by decide⟩,
      ⟨by decide, by decide, by decide, by decide⟩, by simp⟩
  obtain ⟨t', hrun⟩ : ∃ t', (writeFiles "out" threeFiles :
      ExceptT Problem (StateM FileTree) (List String)).run treeWithFile =
        (.ok ["out/a.go", "out/b.go", "out/a.go"], t') :=
    exists_eq_ok_of_toOption (by decide +kernel)
  obtain ⟨-, -, place, -, hlast, -⟩ := writeFiles_last_wins hplain hrun
  exact ⟨hplain, t', hrun, (hlast [⟨"a.go", "1"⟩, ⟨"b.go", "2"⟩] ⟨"a.go", "3"⟩ [] rfl (by simp)).2,
    (hlast [⟨"a.go", "1"⟩] ⟨"b.go", "2"⟩ [⟨"a.go", "3"⟩] rfl (by decide)).2⟩

end Stencil
