import SpecSkeleton.Discovery
import SpecSkeleton.Proofs.File.Contents
import SpecSkeleton.Proofs.List.FirstFailure

/-!
# Trees with all files emptied

What is looked up in a tree, but for the bytes of its files, is looked up as well in the tree with
all files emptied. So the spec files of a project are those of any tree that differs from it in the
bytes of files only (`specFiles_sameShape`).
-/

namespace SpecSkeleton

namespace FileTree

mutual

/-- The tree with all files emptied. -/
def emptied : FileTree → FileTree
  | file _ => file []
  | directory entries => directory (emptiedAll entries)

def emptiedAll : List (String × FileTree) → List (String × FileTree)
  | [] => []
  | (name, t) :: rest => (name, emptied t) :: emptiedAll rest

end

/-- Whether two trees differ in the bytes of files only. -/
def SameShape (t u : FileTree) : Prop :=
  t.emptied = u.emptied

theorem emptiedAll_eq (entries : List (String × FileTree)) :
    emptiedAll entries = entries.map fun e => (e.1, e.2.emptied) := by
  induction entries with
  | nil => rw [emptiedAll, List.map_nil]
  | cons e rest ih => rw [emptiedAll, ih, List.map_cons]

theorem entries_emptied (t : FileTree) :
    t.emptied.entries = t.entries.map fun e => (e.1, e.2.emptied) := by
  cases t with
  | file bytes => rw [emptied]; rfl
  | directory entries => rw [emptied]; exact emptiedAll_eq entries

@[simp]
theorem isDirectory_emptied (t : FileTree) : t.emptied.isDirectory = t.isDirectory := by
  cases t <;> rw [emptied] <;> rfl

theorem entry?_emptied (t : FileTree) (name : String) :
    t.emptied.entry? name = (t.entry? name).map emptied := by
  cases t with
  | file bytes => rw [emptied]; rfl
  | directory entries =>
    rw [emptied, emptiedAll_eq]
    show (entries.map _).lookup name = (entries.lookup name).map emptied
    induction entries with
    | nil => rfl
    | cons e rest ih =>
      rw [List.map_cons, List.lookup_cons, List.lookup_cons]
      split
      · rfl
      · exact ih

/-- The same names lead to the same place. -/
theorem follow_emptied (stack : List FileTree) (names : List String) :
    follow (stack.map emptied) names = (follow stack names).map emptied := by
  induction names generalizing stack with
  | nil => cases stack <;> simp [follow, Except.map]
  | cons name names ih =>
    cases stack with
    | nil => simp [follow, Except.map]
    | cons here above =>
      simp only [List.map_cons, follow, isDirectory_emptied, entry?_emptied]
      split
      · rfl
      split
      · cases above with
        | nil => exact ih [here]
        | cons up rest => exact ih (up :: rest)
      split
      · rfl
      · cases here.entry? name with
        | none => rfl
        | some next => exact ih (next :: here :: above)

mutual

theorem directoriesAt_emptied (p : FilePath) : ∀ t : FileTree,
    directoriesAt p t.emptied = directoriesAt p t
  | file bytes => by rw [emptied, directoriesAt, directoriesAt]
  | directory entries => by
    rw [emptied, directoriesAt, directoriesAt, directoriesIn_emptied p entries]

theorem directoriesIn_emptied (p : FilePath) : ∀ entries : List (String × FileTree),
    directoriesIn p (emptiedAll entries) = directoriesIn p entries
  | [] => by rw [emptiedAll]
  | (name, t) :: rest => by
    rw [emptiedAll, directoriesIn, directoriesIn, directoriesAt_emptied (p.child name) t,
      directoriesIn_emptied p rest]

end

/-! ## One file anew -/

section Put

variable {t : FileTree} {names : List String} {old : List UInt8}

theorem lookup_setEntry (name other : String) (u : FileTree) (entries : List (String × FileTree)) :
    (setEntry name u entries).lookup other =
      if other = name then some u else entries.lookup other := by
  induction entries with
  | nil =>
    rw [setEntry, List.lookup_cons]
    split
    · next h => rw [if_pos (by simpa using h)]
    · next h => rw [if_neg (by simpa using h)]
  | cons e entries ih =>
    rw [setEntry]
    split
    · next h =>
      rw [List.lookup_cons, List.lookup_cons, h]
      split
      · next h => rw [if_pos (by simpa using h)]
      · next h => rw [if_neg (by simpa using h)]
    · next h =>
      rw [List.lookup_cons, ih, List.lookup_cons]
      split
      · next hother =>
        have hother : other = e.1 := by simpa using hother
        rw [if_neg (by rwa [hother])]
      · rfl

theorem emptiedAll_setEntry {name : String} {u next : FileTree} {entries : List (String × FileTree)}
    (hentry : entries.lookup name = some next) (hsame : u.emptied = next.emptied) :
    emptiedAll (setEntry name u entries) = emptiedAll entries := by
  induction entries with
  | nil => cases hentry
  | cons e entries ih =>
    rw [setEntry]
    rw [List.lookup_cons] at hentry
    split
    · next h =>
      rw [h, beq_self_eq_true] at hentry
      cases hentry
      rw [emptiedAll, emptiedAll, hsame, h]
    · next h =>
      rw [beq_false_of_ne (Ne.symm h)] at hentry
      rw [emptiedAll, emptiedAll, ih hentry]

/-- The directory that leads to a file, with other bytes in that file. -/
theorem put_cons {name : String} {next new : FileTree} {entries : List (String × FileTree)}
    (hentry : entries.lookup name = some next) :
    (directory entries).put (name :: names) new =
      directory (setEntry name (next.put names new) entries) := by
  rw [put, entry?, hentry]
  rfl

theorem sameShape_put (hdots : ".." ∉ names) (hfile : follow [t] names = .ok (.file old))
    (bytes : List UInt8) : t.SameShape (t.put names (.file bytes)) := by
  induction names generalizing t with
  | nil =>
    cases hfile
    rw [SameShape, put, emptied, emptied]
    simp
  | cons name names ih =>
    obtain ⟨hdirectory, -, next, hentry, hnext⟩ := (follow_cons_eq_ok hdots).mp hfile
    cases t with
    | file bytes => cases hdirectory
    | directory entries =>
      have hsame := ih (fun hm => hdots (List.mem_cons_of_mem _ hm)) hnext
      rw [SameShape, put_cons hentry, emptied, emptied, emptiedAll_setEntry hentry hsame.symm]

/-- Other files are as they were. -/
theorem follow_put_iff (hdots : ".." ∉ names) (hfile : follow [t] names = .ok (.file old))
    {other : List String} (hother : ".." ∉ other) (hne : other ≠ names) (bytes found : List UInt8) :
    follow [t.put names (.file bytes)] other = .ok (.file found) ↔
      follow [t] other = .ok (.file found) := by
  induction names generalizing t other with
  | nil =>
    cases hfile
    cases other with
    | nil => exact absurd rfl hne
    | cons name other =>
      rw [follow_cons_eq_ok hother, follow_cons_eq_ok hother]
      simp [put, isDirectory]
  | cons name names ih =>
    obtain ⟨hdirectory, -, next, hentry, hnext⟩ := (follow_cons_eq_ok hdots).mp hfile
    cases t with
    | file bytes => cases hdirectory
    | directory entries =>
      rw [put_cons hentry]
      cases other with
      | nil => simp [follow]
      | cons name' other =>
        rw [follow_cons_eq_ok hother, follow_cons_eq_ok hother]
        simp only [isDirectory, entry?, lookup_setEntry]
        by_cases hname : name' = name
        · subst hname
          have hother : ".." ∉ other := fun hm => hother (List.mem_cons_of_mem _ hm)
          have hrest := ih (fun hm => hdots (List.mem_cons_of_mem _ hm)) hnext hother
            (by simpa using hne)
          have hlookup : entries.lookup name' = some next := hentry
          simp [hlookup, hrest]
        · simp [hname]

end Put

end FileTree

namespace Surroundings

variable {s : Surroundings}

/-- The surroundings with all files emptied. -/
def emptied (s : Surroundings) : Surroundings :=
  { s with tree := s.tree.emptied }

theorem find_emptied (s : Surroundings) (p : FilePath) :
    s.emptied.find p = (s.find p).map FileTree.emptied := by
  unfold find
  split
  · rfl
  · exact FileTree.follow_emptied [s.tree] _

theorem directoriesBelow_emptied (s : Surroundings) (p : FilePath) :
    s.emptied.directoriesBelow p = s.directoriesBelow p := by
  unfold directoriesBelow
  rw [find_emptied]
  cases s.find p with
  | error trouble => rfl
  | ok t => exact FileTree.directoriesAt_emptied p t

theorem entriesOf_emptied (s : Surroundings) (p : FilePath) :
    s.emptied.entriesOf p = (s.entriesOf p).map fun e => (e.1, e.2.emptied) := by
  unfold entriesOf
  rw [find_emptied]
  cases s.find p with
  | error trouble => rfl
  | ok t => exact FileTree.entries_emptied t

theorem select_emptied (s : Surroundings) (pattern : PathPattern) (p : FilePath) :
    s.emptied.select pattern p = s.select pattern p := by
  induction pattern generalizing p with
  | nil => rw [select, select]
  | cons part rest ih =>
    cases part with
    | here => rw [select, select]
    | below =>
      rw [select, select, directoriesBelow_emptied]
      exact congrArg _ (mapM_congr fun q _ => ih q)
    | accepted accepted =>
      rw [select, select, entriesOf_emptied]
      simp only [List.filter_map, Function.comp_def, FileTree.isDirectory_emptied]
      rw [List.mapM_map]
      exact congrArg _ (mapM_congr fun e _ => ih _)
    | named name =>
      rw [select, select, find_emptied]
      cases s.find (p.child name) with
      | error trouble => cases trouble <;> rfl
      | ok t =>
        simp only [Except.map, FileTree.isDirectory_emptied, ih]

theorem specFilesAt_emptied (s : Surroundings) (suffix : String) (base : FilePath) :
    s.emptied.specFilesAt suffix base = s.specFilesAt suffix base := by
  unfold specFilesAt withSuffix
  rw [find_emptied]
  simp only [select_emptied]
  cases s.find base with
  | error trouble => cases trouble <;> rfl
  | ok t => cases t <;> simp only [Except.map, FileTree.emptied]

theorem specFiles_emptied (s : Surroundings) (settings : Settings) (root : FilePath) :
    s.emptied.specFiles settings root = s.specFiles settings root := by
  unfold specFiles
  simp only [specFilesAt_emptied]
  rfl

theorem emptied_sameShape {tree : FileTree} (h : s.tree.SameShape tree) :
    Surroundings.emptied { s with tree } = s.emptied := by
  unfold emptied
  rw [h]

/-- Discovery does not depend on what files hold. -/
theorem specFiles_sameShape {tree : FileTree} (h : s.tree.SameShape tree) (settings : Settings)
    (root : FilePath) :
    Surroundings.specFiles { s with tree } settings root = s.specFiles settings root := by
  rw [← specFiles_emptied, emptied_sameShape h, specFiles_emptied]

/-- Reading a path depends on the bytes that are there, not on those of other files. -/
theorem readText_sameShape {tree : FileTree} (h : s.tree.SameShape tree) {p : FilePath}
    (hfile : Surroundings.fileAt? { s with tree } p = s.fileAt? p) :
    Surroundings.readText { s with tree } p = s.readText p := by
  have hfind : (Surroundings.find { s with tree } p).map FileTree.emptied =
      (s.find p).map FileTree.emptied := by
    rw [← find_emptied, ← find_emptied, emptied_sameShape h]
  unfold fileAt? at hfile
  unfold readText
  cases hnew : Surroundings.find { s with tree } p with
  | error trouble =>
    cases hold : s.find p with
    | error other => simp_all [Except.map]
    | ok t => simp_all [Except.map]
  | ok t =>
    cases hold : s.find p with
    | error other => simp_all [Except.map]
    | ok u =>
      cases t <;> cases u <;> simp_all [Except.map, FileTree.emptied]

theorem find_of_isPlain {p : FilePath} (hp : p.IsPlain) :
    s.find p = if longestPath < p.toString.utf8ByteSize then .error .nameTooLong
      else FileTree.follow [s.tree] p.names := by
  have hjoin : s.directory.join p = p := by
    rw [FilePath.join, FilePath.isAbsolute, hp.root_eq]
    rfl
  rw [find, hjoin]

/-- Other bytes in one file keep the shape of the tree and what is in other files. -/
theorem put_file {p : FilePath} (hp : p.IsPlain) (hfile : s.isFile p = true) (bytes : List UInt8) :
    s.tree.SameShape (s.tree.put p.names (.file bytes)) ∧
      ∀ q : FilePath, q.IsPlain → q ≠ p →
        Surroundings.fileAt? { s with tree := s.tree.put p.names (.file bytes) } q =
          s.fileAt? q := by
  rw [isFile_eq] at hfile
  obtain ⟨old, hold⟩ := Option.isSome_iff_exists.mp hfile
  have hfind := fileAt?_eq_some_iff.mp hold
  rw [find_of_isPlain hp] at hfind
  split at hfind
  · cases hfind
  refine ⟨FileTree.sameShape_put hp.no_dots hfind bytes, fun q hq hne => ?_⟩
  have hnames : q.names ≠ p.names := by
    intro hnames
    obtain ⟨root, names⟩ := p
    obtain ⟨root', names'⟩ := q
    cases hp.root_eq
    cases hq.root_eq
    exact hne (congrArg (FilePath.mk .slash) hnames)
  ext found
  rw [fileAt?_eq_some_iff, fileAt?_eq_some_iff, find_of_isPlain hq, find_of_isPlain hq]
  split
  · rfl
  · exact FileTree.follow_put_iff hp.no_dots hfind hq.no_dots hnames bytes found

end Surroundings

end SpecSkeleton
