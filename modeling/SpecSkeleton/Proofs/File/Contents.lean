import SpecSkeleton.Proofs.File.Upward

/-!
# What a file tree holds

`Has` says what stands at the end of a way through a tree, and `HasBelow` what a tree has below a
path. Without dots, what is found is there (`has_of_follow`, `hasBelow_of_find`); in an ordinary
tree, what is there is found, unless its path is too long (`hasAt_iff`).
-/

namespace SpecSkeleton

/-- The path at the end of a way from another. -/
def FilePath.descend (p : FilePath) (names : List String) : FilePath :=
  { p with names := p.names ++ names }

theorem FilePath.IsPlain.eq_descend {p q : FilePath} (hp : p.IsPlain) (hq : q.IsPlain)
    {names : List String} (h : p.names = q.names ++ names) : p = q.descend names := by
  obtain ⟨root, pnames⟩ := p
  rw [descend, ← h, hq.root_eq.trans hp.root_eq.symm]

@[simp]
theorem FilePath.descend_nil (p : FilePath) : p.descend [] = p := by
  simp [descend]

theorem FilePath.descend_cons (p : FilePath) (name : String) (names : List String) :
    p.descend (name :: names) = (p.child name).descend names := by
  simp [descend, child]

/-- A path below a root is written as the path above it, then a slash unless there is one, and the
name. -/
theorem FilePath.toString_child {p : FilePath} (hp : p.root = .slash) (name : String) :
    (p.child name).toString = p.toString ++ (if p.names = [] then "" else "/") ++ name := by
  have hroot : ∀ names, (FilePath.mk .slash names).toString = "/" ++ "/".intercalate names := by
    intro names
    rw [toString, if_neg (by simp)]
    rfl
  obtain ⟨root, names⟩ := p
  cases hp
  rw [child, hroot, hroot]
  by_cases hnames : names = []
  · subst hnames
    simp
  · simp [String.intercalate_append_of_ne_nil hnames, hnames, String.append_assoc]

namespace FileTree

variable {t u : FileTree} {p q : FilePath} {names : List String}

/-- The tree has another one at the end of a way. -/
inductive Has : FileTree → List String → FileTree → Prop where
  | here (t : FileTree) : Has t [] t
  | entry {entries : List (String × FileTree)} {name : String} {next u : FileTree}
      {names : List String} (hentry : (name, next) ∈ entries) (h : Has next names u) :
      Has (directory entries) (name :: names) u

/-- No entry is called by two dots. -/
inductive Dotless : FileTree → Prop where
  | file (bytes : List UInt8) : Dotless (file bytes)
  | directory {entries : List (String × FileTree)} (hnames : ∀ e ∈ entries, e.1 ≠ "..")
      (hentries : ∀ e ∈ entries, Dotless e.2) : Dotless (directory entries)

theorem Dotless.no_dots (h : t.Dotless) (hhas : t.Has names u) : ".." ∉ names := by
  induction hhas with
  | here t => exact List.not_mem_nil
  | entry hentry _ ih =>
    cases h with
    | directory hnames hentries =>
      exact List.not_mem_cons_of_ne_of_not_mem (hnames _ hentry).symm (ih (hentries _ hentry))

theorem Dotless.of_has (h : t.Dotless) (hhas : t.Has names u) : u.Dotless := by
  induction hhas with
  | here t => exact h
  | entry hentry _ ih =>
    cases h with
    | directory _ hentries => exact ih (hentries _ hentry)

/-- Each name of a directory is there once, is not two dots and not too long. -/
inductive Ordinary : FileTree → Prop where
  | file (bytes : List UInt8) : Ordinary (file bytes)
  | directory {entries : List (String × FileTree)} (hnodup : (entries.map Prod.fst).Nodup)
      (hnames : ∀ e ∈ entries, e.1 ≠ ".." ∧ e.1.utf8ByteSize ≤ longestName)
      (hentries : ∀ e ∈ entries, Ordinary e.2) : Ordinary (directory entries)

theorem Ordinary.of_has (h : t.Ordinary) (hhas : t.Has names u) : u.Ordinary := by
  induction hhas with
  | here t => exact h
  | entry hentry _ ih =>
    cases h with
    | directory _ _ hentries => exact ih (hentries _ hentry)

theorem Ordinary.of_entries {entries : List (String × FileTree)}
    (h : (FileTree.directory entries).Ordinary) : (entries.map Prod.fst).Nodup ∧
      ∀ e ∈ entries, e.1 ≠ ".." ∧ e.1.utf8ByteSize ≤ longestName := by
  cases h with
  | directory hnodup hnames _ => exact ⟨hnodup, hnames⟩

theorem lookup_of_nodup {entries : List (String × FileTree)} {name : String}
    (hnodup : (entries.map Prod.fst).Nodup) (hentry : (name, t) ∈ entries) :
    entries.lookup name = some t := by
  induction entries with
  | nil => cases hentry
  | cons e entries ih =>
    rw [List.map_cons, List.nodup_cons] at hnodup
    rw [List.lookup_cons]
    rcases List.mem_cons.mp hentry with rfl | hentry
    · simp
    · have hne : name ≠ e.1 := by
        rintro rfl
        exact hnodup.1 (List.mem_map.mpr ⟨_, hentry, rfl⟩)
      rw [beq_false_of_ne hne]
      exact ih hnodup.2 hentry

/-! ## Ways without dots -/

theorem follow_cons_eq_ok {name : String} (hdots : ".." ∉ name :: names) :
    follow [t] (name :: names) = .ok u ↔ t.isDirectory = true ∧
      name.utf8ByteSize ≤ longestName ∧ ∃ next, t.entry? name = some next ∧
        follow [next] names = .ok u := by
  obtain ⟨hname, hdots⟩ := List.ne_and_not_mem_of_not_mem_cons hdots
  have hrest : ∀ next, follow [next, t] names = follow [next] names :=
    fun next => follow_of_no_dots hdots next [t]
  rw [follow, if_neg hname.symm]
  cases t.isDirectory with
  | false => simp
  | true =>
    by_cases hlong : longestName < name.utf8ByteSize
    · simp [hlong, Nat.not_le.mpr hlong]
    · cases t.entry? name <;> simp [hlong, Nat.not_lt.mp hlong, hrest]

theorem follow_append_eq_ok {more : List String} (hdots : ".." ∉ names ++ more) :
    follow [t] (names ++ more) = .ok u ↔
      ∃ v, follow [t] names = .ok v ∧ follow [v] more = .ok u := by
  induction names generalizing t with
  | nil => simp [follow]
  | cons name names ih =>
    have hrest : ".." ∉ names ++ more := fun hm => hdots (List.mem_cons_of_mem _ hm)
    have hnames : ".." ∉ name :: names := fun hm => hdots (List.mem_append_left _ hm)
    rw [List.cons_append] at hdots ⊢
    rw [follow_cons_eq_ok hdots]
    simp only [ih hrest, follow_cons_eq_ok hnames]
    constructor
    · rintro ⟨hdirectory, hshort, next, hentry, v, hv, hu⟩
      exact ⟨v, ⟨hdirectory, hshort, next, hentry, hv⟩, hu⟩
    · rintro ⟨v, ⟨hdirectory, hshort, next, hentry, hv⟩, hu⟩
      exact ⟨hdirectory, hshort, next, hentry, v, hv, hu⟩

/-- What is found by following names that are no dots is in the tree. -/
theorem has_of_follow (hdots : ".." ∉ names) (h : follow [t] names = .ok u) : t.Has names u := by
  induction names generalizing t with
  | nil =>
    cases h
    exact .here u
  | cons name names ih =>
    obtain ⟨-, -, next, hentry, hnext⟩ := (follow_cons_eq_ok hdots).mp h
    have hnext := ih (fun hm => hdots (List.mem_cons_of_mem _ hm)) hnext
    cases t with
    | file bytes => cases hentry
    | directory entries =>
      obtain ⟨front, back, rfl, -⟩ := List.lookup_eq_some_iff.mp hentry
      exact .entry (by simp) hnext

end FileTree

namespace Surroundings

variable {s : Surroundings} {p q : FilePath}

/-! ## Below a path -/

theorem find_plain (hp : p.IsPlain) : s.find p =
    if longestPath < p.toString.utf8ByteSize then .error .nameTooLong
    else FileTree.follow [s.tree] p.names := by
  have habsolute : p.isAbsolute = true := by simp [FilePath.isAbsolute, hp.root_eq]
  rw [find, FilePath.join, if_pos habsolute]

theorem follow_of_find (hp : p.IsPlain) {t : FileTree} (h : s.find p = .ok t) :
    FileTree.follow [s.tree] p.names = .ok t := by
  rw [find_plain hp] at h
  split at h
  · cases h
  · exact h

/-- A directory is found at a path and has an entry. -/
def HasEntry (s : Surroundings) (p : FilePath) (name : String) (t : FileTree) : Prop :=
  ∃ entries, s.find p = .ok (.directory entries) ∧ (name, t) ∈ entries

/-- The tree has an entry strictly below a path. -/
def HasBelow (s : Surroundings) (base p : FilePath) (t : FileTree) : Prop :=
  ∃ d name, d.IsPlain ∧ base.names <+: d.names ∧ s.HasEntry d name t ∧ p = d.child name

/-- The tree has something at or below a path. -/
def HasAt (s : Surroundings) (base p : FilePath) (t : FileTree) : Prop :=
  p = base ∧ s.find base = .ok t ∨ s.HasBelow base p t

variable {base : FilePath} {t : FileTree}

theorem size_le_child (hp : p.root = .slash) (name : String) :
    p.toString.utf8ByteSize ≤ (p.child name).toString.utf8ByteSize := by
  rw [FilePath.toString_child hp, String.utf8ByteSize_append, String.utf8ByteSize_append,
    Nat.add_assoc]
  exact Nat.le_add_right _ _

theorem size_le_descend (hp : p.root = .slash) (names : List String) :
    p.toString.utf8ByteSize ≤ (p.descend names).toString.utf8ByteSize := by
  induction names generalizing p with
  | nil => simp
  | cons name names ih =>
    rw [FilePath.descend_cons]
    exact Nat.le_trans (size_le_child hp name) (ih hp)

/-- Above a directory there are directories. -/
theorem find_above (hbase : base.IsPlain) (hp : p.IsPlain) (habove : base.names <+: p.names)
    {entries : List (String × FileTree)} (hfind : s.find p = .ok (.directory entries)) :
    ∃ more, s.find base = .ok (.directory more) := by
  obtain ⟨names, hnames⟩ := habove
  obtain rfl : p = base.descend names := hp.eq_descend hbase hnames.symm
  rw [find_plain hp] at hfind
  split at hfind
  · cases hfind
  next hsize =>
  have hshort : ¬ longestPath < base.toString.utf8ByteSize := fun hlong =>
    hsize (Nat.lt_of_lt_of_le hlong (size_le_descend hbase.root_eq names))
  obtain ⟨v, hv, hrest⟩ := (FileTree.follow_append_eq_ok hp.no_dots).mp hfind
  rw [find_plain hbase, if_neg hshort, hv]
  cases v with
  | directory more => exact ⟨more, rfl⟩
  | file bytes => cases names <;> cases hrest

/-- What is found strictly below a path is in the tree. -/
theorem hasBelow_of_find (hp : p.IsPlain) (habove : base.names <+: p.names)
    (hne : p.names ≠ base.names) (hfind : s.find p = .ok t) : s.HasBelow base p t := by
  have hnonempty : p.names ≠ [] := by
    intro hnil
    rw [hnil, List.prefix_nil] at habove
    exact hne (hnil.trans habove.symm)
  obtain ⟨names, name, hnames⟩ : ∃ names name, p.names = names ++ [name] :=
    ⟨_, _, (List.dropLast_concat_getLast hnonempty).symm⟩
  obtain ⟨root, _⟩ := p
  obtain rfl : root = .slash := hp.root_eq
  obtain rfl := hnames
  have hd : (FilePath.mk .slash names).IsPlain :=
    ⟨rfl, fun hm => hp.no_dots (List.mem_append_left _ hm)⟩
  have hbase : base.names <+: names := by
    rcases List.prefix_concat_iff.mp habove with h | h
    · exact absurd h.symm hne
    · exact h
  rw [find_plain hp] at hfind
  split at hfind
  · cases hfind
  next hsize =>
  obtain ⟨v, hv, hname⟩ := (FileTree.follow_append_eq_ok hp.no_dots).mp hfind
  have hdots : ".." ∉ [name] := fun hm => hp.no_dots (List.mem_append_right _ hm)
  obtain ⟨-, -, next, hnext, ht⟩ := (FileTree.follow_cons_eq_ok hdots).mp hname
  cases ht
  cases v with
  | file bytes => cases hnext
  | directory entries =>
    obtain ⟨front, back, rfl, -⟩ := List.lookup_eq_some_iff.mp hnext
    have hshort : ¬ longestPath < (FilePath.mk .slash names).toString.utf8ByteSize :=
      fun hlong => hsize (Nat.lt_of_lt_of_le hlong (size_le_child hd.root_eq name))
    have hfound : s.find ⟨.slash, names⟩ = .ok (.directory (front ++ (name, t) :: back)) := by
      rw [find_plain hd, if_neg hshort]
      exact hv
    exact ⟨⟨.slash, names⟩, name, hd, hbase, ⟨_, hfound, by simp⟩, rfl⟩

/-- In an ordinary tree, what it has below a path is found there, unless the whole path is too
long. -/
theorem HasBelow.find_eq (h : s.HasBelow base p t) (htree : s.tree.Ordinary)
    (hshort : p.toString.utf8ByteSize ≤ longestPath) : s.find p = .ok t := by
  obtain ⟨d, name, hd, -, ⟨entries, hentries, hentry⟩, rfl⟩ := h
  have hfollow := follow_of_find hd hentries
  obtain ⟨hnodup, hnames⟩ :=
    (htree.of_has (FileTree.has_of_follow hd.no_dots hfollow)).of_entries
  obtain ⟨hdots, hname⟩ := hnames _ hentry
  have hchild := hd.child hdots
  have hall : ".." ∉ d.names ++ [name] := hchild.no_dots
  rw [find_plain hchild, if_neg (Nat.not_lt.mpr hshort), FilePath.child,
    FileTree.follow_append_eq_ok hall]
  exact ⟨_, hfollow, (FileTree.follow_cons_eq_ok (by simpa using hdots.symm)).mpr
    ⟨rfl, hname, t, FileTree.lookup_of_nodup hnodup hentry, rfl⟩⟩

/-- In an ordinary tree, what it has at and below a path is what is found there, as long as a path
is not too long to be looked up. -/
theorem hasAt_iff (htree : s.tree.Ordinary) (hbase : base.IsPlain)
    (hshort : p.toString.utf8ByteSize ≤ longestPath) :
    s.HasAt base p t ↔ p.IsPlain ∧ base.names <+: p.names ∧ s.find p = .ok t := by
  constructor
  · rintro (⟨rfl, hfind⟩ | hbelow)
    · exact ⟨hbase, List.prefix_rfl, hfind⟩
    · have hfind := hbelow.find_eq htree hshort
      obtain ⟨d, name, hd, habove, ⟨entries, hentries, hentry⟩, rfl⟩ := hbelow
      have hinner := htree.of_has (FileTree.has_of_follow hd.no_dots (follow_of_find hd hentries))
      have hplain := hd.child (hinner.of_entries.2 _ hentry).1
      exact ⟨hplain, habove.trans (List.prefix_append _ _), hfind⟩
  · rintro ⟨hp, habove, hfind⟩
    by_cases hnames : p.names = base.names
    · have heq := hp.eq_descend hbase (hnames.trans (List.append_nil _).symm)
      rw [FilePath.descend_nil] at heq
      exact .inl ⟨heq, heq ▸ hfind⟩
    · exact .inr (hasBelow_of_find hp habove hnames hfind)

end Surroundings

end SpecSkeleton
