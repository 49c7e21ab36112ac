import SpecSkeleton.File.Tree

/-!
# The directories above a path

`selfAndParents` goes from a path up to its root, one name at a time (`selfAndParents_cons`), to
paths that are ever shorter (`selfAndParents_pairwise`). A path that is resolved is plain: it starts
at the root and has no dots. `fileAt?` is what the file tree holds at a path, and nothing lies below
a file (`fileAt?_child`).
-/

namespace SpecSkeleton

/-! ## Going upward -/

namespace FilePath

variable {p q : FilePath}

theorem selfAndParents_cons (h : p.names ≠ []) :
    p.selfAndParents = p :: p.parent.selfAndParents := by
  have hlen : 0 < p.names.length := List.length_pos_iff.mpr h
  have hrange : p.parent.names.length + 1 = p.names.length := by
    simp only [parent, List.length_dropLast]
    omega
  unfold selfAndParents
  rw [hrange, List.range_succ_eq_map, List.map_cons, List.map_map]
  congr 1
  · simp
  · apply List.map_congr_left
    intro n hn
    have hn := List.mem_range.mp hn
    simp only [Function.comp, parent, List.dropLast_eq_take, List.take_take, List.length_take]
    congr 2
    omega

theorem selfAndParents_pairwise (p : FilePath) :
    p.selfAndParents.Pairwise fun a b =>
      b.names <+: a.names ∧ b.names.length < a.names.length := by
  unfold selfAndParents
  rw [List.pairwise_map]
  refine List.pairwise_lt_range.imp_of_mem ?_
  intro i j hi hj hlt
  have hj := List.mem_range.mp hj
  refine ⟨List.take_prefix_take_left (by omega), ?_⟩
  simp only [List.length_take]
  omega

theorem mem_selfAndParents (h : q ∈ p.selfAndParents) : q.root = p.root ∧ q.names <+: p.names := by
  obtain ⟨n, -, rfl⟩ := List.mem_map.mp h
  exact ⟨rfl, List.take_prefix _ _⟩

@[simp]
theorem parent_child (p : FilePath) (name : String) : (p.child name).parent = p := by
  simp [child, parent]

theorem child_inj {a b : String} : p.child a = q.child b ↔ p = q ∧ a = b := by
  constructor
  · intro h
    have hnames : p.names ++ [a] = q.names ++ [b] := congrArg names h
    obtain ⟨-, hname⟩ := List.append_inj' hnames rfl
    have hparent := congrArg parent h
    simp only [parent_child] at hparent
    exact ⟨hparent, List.cons.inj hname |>.1⟩
  · rintro ⟨rfl, rfl⟩
    rfl

/-! ## Plain paths -/

/-- Whether a path starts at the root and has no dots. -/
structure IsPlain (p : FilePath) : Prop where
  root_eq : p.root = .slash
  no_dots : ".." ∉ p.names

theorem IsPlain.child (h : p.IsPlain) {name : String} (hname : name ≠ "..") :
    (p.child name).IsPlain := by
  refine ⟨h.root_eq, fun hm => ?_⟩
  rcases List.mem_append.mp hm with hm | hm
  · exact h.no_dots hm
  · exact hname (List.mem_singleton.mp hm).symm

theorem IsPlain.above (h : p.IsPlain) (hq : q ∈ p.selfAndParents) : q.IsPlain := by
  obtain ⟨hroot, hnames⟩ := mem_selfAndParents hq
  exact ⟨hroot.trans h.root_eq, fun hm => h.no_dots (hnames.subset hm)⟩

theorem not_mem_cancelDots (names : List String) : ".." ∉ cancelDots names := by
  have hkept : ∀ kept : List String, ".." ∉ kept →
      ".." ∉ names.foldl (fun kept name => if name = ".." then kept.drop 1 else name :: kept)
        kept := by
    induction names with
    | nil => exact fun _ h => h
    | cons name names ih =>
      intro kept h
      apply ih
      dsimp only
      split
      · exact fun hm => h (List.mem_of_mem_drop hm)
      · next hname =>
        intro hm
        rcases List.mem_cons.mp hm with hm | hm
        · exact hname hm.symm
        · exact h hm
  intro hm
  exact hkept [] List.not_mem_nil (List.mem_reverse.mp hm)

theorem isPlain_resolve (p directory : FilePath) : (p.resolve directory).IsPlain :=
  ⟨rfl, not_mem_cancelDots _⟩

end FilePath

/-! ## Files in a tree -/

/-- Without dots a way leads nowhere above its start. -/
theorem FileTree.follow_of_no_dots {names : List String} (hdots : ".." ∉ names) (here : FileTree)
    (above : List FileTree) : follow (here :: above) names = follow [here] names := by
  induction names generalizing here above with
  | nil => rfl
  | cons name names ih =>
    obtain ⟨hname, hdots⟩ := List.ne_and_not_mem_of_not_mem_cons hdots
    unfold follow
    rw [if_neg (Ne.symm hname), if_neg (Ne.symm hname)]
    cases here.entry? name with
    | none => rfl
    | some next =>
      dsimp only
      rw [ih hdots next (here :: above), ih hdots next [here]]

/-- Without dots only the entry of the first name matters. -/
theorem FileTree.follow_congr {name : String} {names : List String} (hdots : ".." ∉ name :: names)
    {t t' : FileTree} (hentry : t.entry? name = t'.entry? name)
    (hdirectory : t.isDirectory = t'.isDirectory) (above above' : List FileTree) :
    follow (t :: above) (name :: names) = follow (t' :: above') (name :: names) := by
  obtain ⟨hname, hdots⟩ := List.ne_and_not_mem_of_not_mem_cons hdots
  unfold follow
  rw [hdirectory, hentry, if_neg (Ne.symm hname), if_neg (Ne.symm hname)]
  cases t'.entry? name with
  | none => rfl
  | some next =>
    dsimp only
    rw [follow_of_no_dots hdots next (t :: above), follow_of_no_dots hdots next (t' :: above')]

theorem FileTree.follow_below_file {stack : List FileTree} {names : List String}
    {bytes : List UInt8} (h : follow stack names = .ok (.file bytes)) (name : String)
    (rest : List String) : follow stack (names ++ name :: rest) = .error .notADirectory := by
  induction names generalizing stack with
  | nil =>
    cases stack with
    | nil => cases h
    | cons here above =>
      cases h
      rfl
  | cons name' names ih =>
    cases stack with
    | nil => cases h
    | cons here above =>
      simp only [List.cons_append, follow] at h ⊢
      split at h
      · cases h
      next hdirectory =>
      rw [if_neg hdirectory]
      split at h
      · next hdots =>
        rw [if_pos hdots]
        exact ih h
      next hdots =>
      rw [if_neg hdots]
      split at h
      · cases h
      next hlong =>
      rw [if_neg hlong]
      cases hnext : here.entry? name' with
      | none =>
        rw [hnext] at h
        cases h
      | some next =>
        rw [hnext] at h
        exact ih h

namespace Surroundings

variable {s : Surroundings} {p : FilePath}

/-- The bytes of the file at a path, if there is one. -/
def fileAt? (s : Surroundings) (p : FilePath) : Option (List UInt8) :=
  match s.find p with
  | .ok (.file bytes) => some bytes
  | _ => none

theorem fileAt?_eq_some_iff {bytes : List UInt8} :
    s.fileAt? p = some bytes ↔ s.find p = .ok (.file bytes) := by
  unfold fileAt?
  split
  · next h => simp [h]
  · next h =>
    constructor
    · exact nofun
    · intro hfind
      exact absurd hfind (h bytes)

theorem isFile_eq (s : Surroundings) (p : FilePath) : s.isFile p = (s.fileAt? p).isSome := by
  unfold isFile fileAt?
  cases s.find p with
  | error trouble => rfl
  | ok t => cases t <;> rfl

/-- The text of a file is what its bytes decode to. -/
theorem readText_of_file (hnull : p.hasNull = false) {bytes : List UInt8}
    (hfile : s.fileAt? p = some bytes) :
    s.readText p =
      match Text.Utf8.decode bytes with
      | .error fault => .error (.encoding fault)
      | .ok cs => .ok (String.ofList (Text.foldNewlines cs)) := by
  unfold readText
  rw [hnull, fileAt?_eq_some_iff.mp hfile]
  rfl

theorem fileAt?_congr {s' : Surroundings} (h : s.find p = s'.find p) :
    s.fileAt? p = s'.fileAt? p := by
  unfold fileAt?
  rw [h]

theorem join_child (p q : FilePath) (name : String) :
    (p.join (q.child name)).names = (p.join q).names ++ [name] := by
  have habsolute : (q.child name).isAbsolute = q.isAbsolute := rfl
  unfold FilePath.join
  rw [habsolute]
  split
  · rfl
  · simp [FilePath.child]

/-- Nothing lies below a file. -/
theorem fileAt?_child (h : s.isFile p = true) (name : String) : s.fileAt? (p.child name) = none := by
  rw [isFile_eq] at h
  obtain ⟨bytes, hbytes⟩ := Option.isSome_iff_exists.mp h
  have hfind := fileAt?_eq_some_iff.mp hbytes
  unfold find at hfind
  split at hfind
  · cases hfind
  · have hbelow : s.find (p.child name) = .error .nameTooLong ∨
        s.find (p.child name) = .error .notADirectory := by
      unfold find
      split
      · exact .inl rfl
      · rw [join_child]
        exact .inr (FileTree.follow_below_file hfind name [])
    unfold fileAt?
    rcases hbelow with hbelow | hbelow <;> rw [hbelow]

end Surroundings

end SpecSkeleton
