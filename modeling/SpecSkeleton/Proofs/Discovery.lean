import SpecSkeleton.Discovery
import SpecSkeleton.Proofs.File.Found

/-!
# Which spec files are found

The paths that are found are sorted and different (`sortedPaths_pairwise`). For each directory that
the settings name, `Yields` says what is found at or below it, and `BaseFails` why nothing can be. A
plain suffix, which has no wildcards and no slash, yields the files that end in it, and also the
directories below that do (`yields_plain`). `specFiles_spec` puts this together.
-/

namespace SpecSkeleton

/-! ## Sorting -/

theorem nodup_eraseDups {α : Type} [DecidableEq α] (xs : List α) : xs.eraseDups.Nodup := by
  cases xs with
  | nil => exact List.nodup_nil
  | cons x xs =>
    rw [List.eraseDups_cons, List.nodup_cons]
    refine ⟨fun hm => ?_, nodup_eraseDups _⟩
    have hne := List.of_mem_filter (List.mem_eraseDups.mp hm)
    simp at hne
termination_by xs.length
decreasing_by exact Nat.lt_succ_of_le (List.length_filter_le _ _)

theorem FilePath.sortKey_inj {p q : FilePath} (hp : p.root = .slash) (hq : q.root = .slash)
    (h : p.sortKey = q.sortKey) : p = q := by
  obtain ⟨root, names⟩ := p
  obtain ⟨root', names'⟩ := q
  cases hp
  cases hq
  exact congrArg (FilePath.mk .slash) (List.cons.inj h).2

theorem mem_sortedPaths {p : FilePath} {paths : List FilePath} :
    p ∈ sortedPaths paths ↔ p ∈ paths := by
  rw [sortedPaths, List.mem_mergeSort, List.mem_eraseDups]

theorem sortedPaths_pairwise {paths : List FilePath} (h : ∀ p ∈ paths, p.root = .slash) :
    (sortedPaths paths).Pairwise fun p q => p.sortKey < q.sortKey := by
  have hle (p q : FilePath) : (!q.sortKey.lex p.sortKey fun a b => a < b) = true ↔
      p.sortKey.le q.sortKey := by
    rw [Bool.not_eq_true', ← Bool.not_eq_true]
    exact not_congr List.lex_eq_true_iff_lt
  have hsorted : (sortedPaths paths).Pairwise fun p q => p.sortKey.le q.sortKey := by
    refine List.Pairwise.imp (fun {p q} hpq => (hle p q).mp hpq) (List.pairwise_mergeSort ?_ ?_ _)
    · intro p q r hpq hqr
      exact (hle p r).mpr (List.le_trans ((hle p q).mp hpq) ((hle q r).mp hqr))
    · intro p q
      rw [Bool.or_eq_true, hle, hle]
      exact List.le_total _ _
  have hnodup : (sortedPaths paths).Nodup :=
    (List.mergeSort_perm _ _).nodup_iff.mpr (nodup_eraseDups paths)
  refine (hsorted.and hnodup).imp_of_mem ?_
  rintro p q hp hq ⟨hpq, hne⟩
  by_contra hnot
  have heq := List.le_antisymm hpq (List.not_lt.mp hnot)
  exact hne (FilePath.sortKey_inj (h p (mem_sortedPaths.mp hp)) (h q (mem_sortedPaths.mp hq)) heq)

/-! ## Suffixes of paths -/

/-- A suffix without a slash does not reach beyond the last slash. -/
theorem suffix_append_slash_iff {cs front name : List Char} (h : '/' ∉ cs) :
    cs <:+ front ++ '/' :: name ↔ cs <:+ name := by
  constructor
  · intro hsuffix
    have hlast : '/' :: name <:+ front ++ '/' :: name := List.suffix_append ..
    rcases Nat.lt_or_ge name.length cs.length with hlong | hshort
    · have hslash := List.suffix_of_suffix_length_le hlast hsuffix hlong
      exact absurd (hslash.subset List.mem_cons_self) h
    · exact List.suffix_of_suffix_length_le hsuffix
        ((List.suffix_cons '/' name).trans hlast) hshort
  · exact fun hsuffix => (hsuffix.trans (List.suffix_cons '/' name)).trans (List.suffix_append ..)

theorem isSpecPath_child {p : FilePath} (hp : p.root = .slash) {suffix : String}
    (hsuffix : '/' ∉ suffix.toList) (name : String) :
    isSpecPath suffix (p.child name).toString = true ↔ suffix.toList <:+ name.toList := by
  have hwritten : ∃ front, (p.child name).toString.toList = front ++ '/' :: name.toList := by
    rw [FilePath.toString_child hp]
    split
    next hnames =>
      have hroot : p.toString = "/" := by
        obtain ⟨root, names⟩ := p
        cases hp
        cases hnames
        rfl
      exact ⟨[], by simp [hroot]⟩
    next => exact ⟨p.toString.toList, by simp⟩
  obtain ⟨front, hfront⟩ := hwritten
  rw [isSpecPath, List.isSuffixOf_iff_suffix, hfront]
  exact suffix_append_slash_iff hsuffix

namespace Surroundings

variable {s : Surroundings} {suffix : String} {root base p : FilePath} {directory : String}

/-! ## One directory of the settings -/

/-- The path of a directory that the settings name, seen from the root of a project. -/
def baseOf (s : Surroundings) (root : FilePath) (directory : String) : FilePath :=
  (root.join (.ofString directory)).resolve s.directory

/-- Why nothing can be found at or below a directory that the settings name. -/
inductive BaseFails (s : Surroundings) (suffix : String) (root : FilePath) (directory : String) :
    DiscoveryFault → Prop where
  | null (hnull : (root.join (.ofString directory)).hasNull = true) :
      BaseFails s suffix root directory (.path .nullInPath)
  | tooLong (hnull : (root.join (.ofString directory)).hasNull = false)
      (hfind : s.find (s.baseOf root directory) = .error .nameTooLong) :
      BaseFails s suffix root directory
        (.path (.file ⟨(s.baseOf root directory).toString, .nameTooLong⟩))
  | badPattern {entries : List (String × FileTree)}
      (hnull : (root.join (.ofString directory)).hasNull = false)
      (hfind : s.find (s.baseOf root directory) = .ok (.directory entries))
      (hpattern : PathPattern.ofChars? ('*' :: suffix.toList) = none) :
      BaseFails s suffix root directory .badPattern
  | stumbles {entries : List (String × FileTree)} {pattern : PathPattern} {fault : FileFault}
      (hnull : (root.join (.ofString directory)).hasNull = false)
      (hfind : s.find (s.baseOf root directory) = .ok (.directory entries))
      (hpattern : PathPattern.ofChars? ('*' :: suffix.toList) = some pattern)
      (h : s.Stumbles (.below :: pattern) (s.baseOf root directory) fault) :
      BaseFails s suffix root directory (.path (.file fault))

/-- What is found at or below a path: the path itself if a spec file is there, and if a directory
is there, all that a star and the suffix lead to as a pattern, from it and each directory below. -/
inductive Yields (s : Surroundings) (suffix : String) (base : FilePath) : FilePath → Prop where
  | own {bytes : List UInt8} (hfind : s.find base = .ok (.file bytes))
      (hspec : isSpecPath suffix base.toString = true) : Yields s suffix base base
  | found {entries : List (String × FileTree)} {pattern : PathPattern} {p : FilePath}
      (hfind : s.find base = .ok (.directory entries))
      (hpattern : PathPattern.ofChars? ('*' :: suffix.toList) = some pattern)
      (h : s.Selects (.below :: pattern) base p) : Yields s suffix base p

/-- What is found for one directory that the settings name. -/
def specFilesIn (s : Surroundings) (suffix : String) (root : FilePath) (directory : String) :
    Except DiscoveryFault (List FilePath) :=
  if (root.join (.ofString directory)).hasNull then .error (.path .nullInPath)
  else s.specFilesAt suffix (s.baseOf root directory)

theorem specFiles_eq (settings : Settings) (root : FilePath) :
    s.specFiles settings root =
      ((settings.specDirs.mapM (s.specFilesIn settings.specSuffix root)).map List.flatten).map
        sortedPaths := by
  have hmap : s.specFiles settings root = (do
      let found ← settings.specDirs.mapM (s.specFilesIn settings.specSuffix root)
      return sortedPaths found.flatten) := rfl
  rw [hmap]
  cases settings.specDirs.mapM (s.specFilesIn settings.specSuffix root) <;> rfl

theorem mem_withSuffix {entries : List (String × FileTree)}
    (hfind : s.find base = .ok (.directory entries)) {paths : List FilePath}
    (h : s.withSuffix suffix base = .ok paths) : p ∈ paths ↔ s.Yields suffix base p := by
  unfold withSuffix at h
  split at h
  next pattern hpattern =>
    cases hselect : s.select (.below :: pattern) base with
    | error fault =>
      rw [hselect] at h
      cases h
    | ok found =>
      rw [hselect] at h
      cases h
      rw [mem_select hselect]
      constructor
      · exact .found hfind hpattern
      · intro hyields
        cases hyields with
        | own hfile => cases hfind.symm.trans hfile
        | found _ hpattern' h =>
          cases hpattern.symm.trans hpattern'
          exact h
  next => cases h

theorem mem_specFilesAt {paths : List FilePath} (h : s.specFilesAt suffix base = .ok paths) :
    p ∈ paths ↔ s.Yields suffix base p := by
  unfold specFilesAt at h
  cases hfind : s.find base with
  | error trouble =>
    have hnone : ¬ s.Yields suffix base p := by
      rintro (⟨hfile, -⟩ | ⟨hdirectory, -, -⟩)
      · cases hfind.symm.trans hfile
      · cases hfind.symm.trans hdirectory
    rw [hfind] at h
    cases trouble <;> cases h <;> simp [hnone]
  | ok t =>
    rw [hfind] at h
    cases t with
    | directory entries => exact mem_withSuffix hfind h
    | file bytes =>
      cases h
      by_cases hspec : isSpecPath suffix base.toString = true
      · rw [if_pos hspec, List.mem_singleton]
        constructor
        · rintro rfl
          exact .own hfind hspec
        · rintro (_ | ⟨hdirectory, -, -⟩)
          · rfl
          · cases hfind.symm.trans hdirectory
      · rw [if_neg hspec]
        refine iff_of_false List.not_mem_nil ?_
        rintro (⟨-, hspec'⟩ | ⟨hdirectory, -, -⟩)
        · exact hspec hspec'
        · cases hfind.symm.trans hdirectory

theorem mem_specFilesIn {paths : List FilePath}
    (h : s.specFilesIn suffix root directory = .ok paths) :
    p ∈ paths ↔ s.Yields suffix (s.baseOf root directory) p := by
  unfold specFilesIn at h
  split at h
  · cases h
  · exact mem_specFilesAt h

theorem specFilesIn_error {fault : DiscoveryFault}
    (h : s.specFilesIn suffix root directory = .error fault) :
    s.BaseFails suffix root directory fault := by
  unfold specFilesIn at h
  split at h
  next hnull =>
    cases h
    exact .null hnull
  next hnull =>
  have hnull := Bool.eq_false_iff.mpr hnull
  unfold specFilesAt at h
  split at h
  next hfind =>
    cases h
    exact .tooLong hnull hfind
  · cases h
  · cases h
  next entries hfind =>
  unfold withSuffix at h
  split at h
  next pattern hpattern =>
    cases hselect : s.select (.below :: pattern) (s.baseOf root directory) with
    | error fault =>
      rw [hselect] at h
      cases h
      exact .stumbles hnull hfind hpattern (select_error hselect)
    | ok found =>
      rw [hselect] at h
      cases h
  next hpattern =>
    cases h
    exact .badPattern hnull hfind hpattern

theorem BaseFails.fails {fault : DiscoveryFault} (h : s.BaseFails suffix root directory fault) :
    ∃ first, s.specFilesIn suffix root directory = .error first := by
  unfold specFilesIn
  cases h with
  | null hnull => exact ⟨_, if_pos hnull⟩
  | tooLong hnull hfind =>
    rw [hnull, specFilesAt, hfind]
    exact ⟨_, rfl⟩
  | badPattern hnull hfind hpattern =>
    rw [hnull, specFilesAt, hfind]
    dsimp only
    rw [withSuffix, hpattern]
    exact ⟨_, rfl⟩
  | stumbles hnull hfind hpattern h =>
    obtain ⟨first, hfirst⟩ := h.select_fails
    rw [hnull, specFilesAt, hfind]
    dsimp only
    rw [withSuffix, hpattern]
    dsimp only
    rw [hfirst]
    exact ⟨_, rfl⟩

theorem Yields.root_eq (hbase : base.IsPlain) (h : s.Yields suffix base p) : p.root = .slash := by
  cases h with
  | own => exact hbase.root_eq
  | found _ _ h =>
    obtain ⟨left, _, h, rfl, -⟩ := h
    exact h.root_eq.trans hbase.root_eq

/-! ## Plain suffixes -/

/-- A star and a suffix lead to the entries of directories at and below a path that end in it. -/
theorem selects_suffix (htree : s.tree.Dotless) (hbase : base.IsPlain)
    (hslash : '/' ∉ suffix.toList) {entries : List (String × FileTree)}
    (hfind : s.find base = .ok (.directory entries)) :
    s.Selects [.below, .accepted (.star :: NamePattern.literal suffix.toList)] base p ↔
      isSpecPath suffix p.toString = true ∧ ∃ t, s.HasBelow base p t := by
  rw [selects_below]
  constructor
  · rintro ⟨d, hd, h⟩
    obtain ⟨name, t, hname, ⟨more, hmore, hentry⟩, -, hp⟩ := selects_accepted.mp h
    obtain rfl := selects_nil.mp hp
    obtain ⟨hplain, habove⟩ := (descends_iff htree hbase hfind hmore).mp hd
    rw [isSpecPath_child hplain.root_eq hslash]
    exact ⟨NamePattern.matches_star_literal.mp hname, t, d, name, hplain, habove,
      ⟨more, hmore, hentry⟩, rfl⟩
  · rintro ⟨hspec, t, d, name, hplain, habove, ⟨more, hmore, hentry⟩, rfl⟩
    rw [isSpecPath_child hplain.root_eq hslash] at hspec
    exact ⟨d, (descends_iff htree hbase hfind hmore).mpr ⟨hplain, habove⟩,
      selects_accepted.mpr ⟨name, t, NamePattern.matches_star_literal.mpr hspec,
        ⟨more, hmore, hentry⟩, .inl rfl, selects_nil.mpr rfl⟩⟩

/-- A plain suffix yields the files that end in it, and the directories below that do. -/
theorem yields_plain (htree : s.tree.Dotless) (hbase : base.IsPlain)
    (hsuffix : PathPattern.IsPlainSuffix suffix.toList) :
    s.Yields suffix base p ↔ isSpecPath suffix p.toString = true ∧
      ((∃ bytes, s.HasAt base p (.file bytes)) ∨
        ∃ entries, s.HasBelow base p (.directory entries)) := by
  have hpattern := PathPattern.ofChars?_plain hsuffix
  constructor
  · intro h
    cases h with
    | own hfind hspec => exact ⟨hspec, .inl ⟨_, .inl ⟨rfl, hfind⟩⟩⟩
    | found hfind hpattern' h =>
      cases hpattern.symm.trans hpattern'
      obtain ⟨hspec, t, hbelow⟩ := (selects_suffix htree hbase hsuffix.no_slash hfind).mp h
      cases t with
      | file bytes => exact ⟨hspec, .inl ⟨bytes, .inr hbelow⟩⟩
      | directory entries => exact ⟨hspec, .inr ⟨entries, hbelow⟩⟩
  · rintro ⟨hspec, h⟩
    have hfound {t : FileTree} (hbelow : s.HasBelow base p t) : s.Yields suffix base p := by
      have ⟨d, _, hplain, habove, ⟨_, hmore, _⟩, _⟩ := hbelow
      obtain ⟨entries, hfind⟩ := find_above hbase hplain habove hmore
      exact .found hfind hpattern
        ((selects_suffix htree hbase hsuffix.no_slash hfind).mpr ⟨hspec, t, hbelow⟩)
    obtain ⟨bytes, ⟨rfl, hfind⟩ | hbelow⟩ | ⟨entries, hbelow⟩ := h
    · exact .own hfind hspec
    · exact hfound hbelow
    · exact hfound hbelow

/-- Looking for a plain suffix fails only where a directory of the settings cannot be looked up. -/
theorem BaseFails.of_plain {fault : DiscoveryFault}
    (h : s.BaseFails suffix root directory fault)
    (hsuffix : PathPattern.IsPlainSuffix suffix.toList) :
    (root.join (.ofString directory)).hasNull = true ∨
      s.find (s.baseOf root directory) = .error .nameTooLong := by
  have hpattern := PathPattern.ofChars?_plain hsuffix
  cases h with
  | null hnull => exact .inl hnull
  | tooLong _ hfind => exact .inr hfind
  | badPattern _ _ hnone => cases hpattern.symm.trans hnone
  | stumbles _ _ hsome h =>
    cases hpattern.symm.trans hsome
    obtain ⟨d, -, h⟩ := stumbles_below.mp h
    obtain ⟨name, t, -, -, -, h⟩ := stumbles_accepted.mp h
    exact absurd h not_stumbles_nil

/-! ## All directories of the settings -/

theorem specFiles_error {settings : Settings} {fault : DiscoveryFault}
    (h : s.specFiles settings root = .error fault) :
    ∃ before directory after, settings.specDirs = before ++ directory :: after ∧
      (∀ d ∈ before, ∀ first, ¬ s.BaseFails settings.specSuffix root d first) ∧
      s.BaseFails settings.specSuffix root directory fault := by
  rw [specFiles_eq] at h
  have hfirst : FailsFirst (s.specFilesIn settings.specSuffix root) settings.specDirs fault := by
    rw [← mapM_flatten_eq_error_iff]
    cases hfound : (settings.specDirs.mapM (s.specFilesIn settings.specSuffix root)).map
        List.flatten with
    | error first =>
      rw [hfound] at h
      cases h
      rfl
    | ok found =>
      rw [hfound] at h
      cases h
  obtain ⟨before, directory, after, hdirs, hbefore, herror⟩ := hfirst
  refine ⟨before, directory, after, hdirs, fun d hd first hfails => ?_, specFilesIn_error herror⟩
  obtain ⟨found, hfound⟩ := hbefore d hd
  obtain ⟨fault, hfault⟩ := hfails.fails
  cases hfound.symm.trans hfault

theorem specFiles_ok {settings : Settings} {files : List FilePath}
    (h : s.specFiles settings root = .ok files) :
    (∀ d ∈ settings.specDirs, ∀ fault, ¬ s.BaseFails settings.specSuffix root d fault) ∧
      files.Pairwise (fun p q => p.sortKey < q.sortKey) ∧
      ∀ p, p ∈ files ↔
        ∃ d ∈ settings.specDirs, s.Yields settings.specSuffix (s.baseOf root d) p := by
  rw [specFiles_eq] at h
  cases hfound : (settings.specDirs.mapM (s.specFilesIn settings.specSuffix root)).map
      List.flatten with
  | error first =>
    rw [hfound] at h
    cases h
  | ok found =>
    rw [hfound] at h
    cases h
    obtain ⟨hok, hmem⟩ := mapM_flatten_eq_ok hfound
    have hyields (p : FilePath) : p ∈ found ↔
        ∃ d ∈ settings.specDirs, s.Yields settings.specSuffix (s.baseOf root d) p := by
      rw [hmem]
      refine exists_congr fun d => and_congr_right fun hd => ?_
      obtain ⟨paths, hpaths⟩ := hok d hd
      rw [← mem_specFilesIn hpaths, hpaths]
      simp
    refine ⟨fun d hd fault hfails => ?_, sortedPaths_pairwise fun p hp => ?_, fun p => ?_⟩
    · obtain ⟨paths, hpaths⟩ := hok d hd
      obtain ⟨first, hfirst⟩ := hfails.fails
      cases hpaths.symm.trans hfirst
    · obtain ⟨d, -, hyield⟩ := (hyields p).mp hp
      exact hyield.root_eq (FilePath.isPlain_resolve _ _)
    · rw [mem_sortedPaths, hyields]

/-- With a plain suffix spec files are found if all directories of the settings can be looked up. -/
theorem exists_specFiles_iff {settings : Settings}
    (hsuffix : PathPattern.IsPlainSuffix settings.specSuffix.toList) :
    (∃ files, s.specFiles settings root = .ok files) ↔ ∀ d ∈ settings.specDirs,
      (root.join (.ofString d)).hasNull = false ∧
        s.find (s.baseOf root d) ≠ .error .nameTooLong := by
  constructor
  · rintro ⟨files, hfiles⟩ d hd
    have hfails := (specFiles_ok hfiles).1 d hd
    have hnull : (root.join (.ofString d)).hasNull = false :=
      Bool.eq_false_iff.mpr fun hnull => hfails _ (.null hnull)
    exact ⟨hnull, fun hlong => hfails _ (.tooLong hnull hlong)⟩
  · intro h
    cases hfiles : s.specFiles settings root with
    | ok files => exact ⟨files, rfl⟩
    | error fault =>
      obtain ⟨before, d, after, hdirs, -, hfails⟩ := specFiles_error hfiles
      obtain ⟨hnull, hlong⟩ := h d (by rw [hdirs]; simp)
      rcases hfails.of_plain hsuffix with hnull' | hlong'
      · cases hnull.symm.trans hnull'
      · exact absurd hlong' hlong

/-- The default settings name a directory that can be looked up from the root above it. -/
theorem lookup_default (entries : List (String × FileTree)) :
    let s : Surroundings := ⟨.directory [("spec", .directory entries)], ⟨.slash, []⟩⟩
    (∀ d ∈ Settings.specDirs {}, ((FilePath.mk .slash []).join (.ofString d)).hasNull = false ∧
      s.find (s.baseOf ⟨.slash, []⟩ d) ≠ .error .nameTooLong) ∧
    ∀ name t, (name, t) ∈ entries →
      s.HasBelow (s.baseOf ⟨.slash, []⟩ "spec/") ⟨.slash, ["spec", name]⟩ t := by
  intro s
  have hjoin : (FilePath.mk .slash []).join (.ofString "spec/") = ⟨.slash, ["spec"]⟩ := by
    decide +kernel
  have hbase : s.baseOf ⟨.slash, []⟩ "spec/" = ⟨.slash, ["spec"]⟩ := by
    rw [baseOf, hjoin]
    change (FilePath.mk .slash ["spec"]).resolve ⟨.slash, []⟩ = _
    decide
  have hfind : s.find ⟨.slash, ["spec"]⟩ = .ok (.directory entries) := by rfl
  refine ⟨fun d hd => ?_, fun name t hentry => ?_⟩
  · obtain rfl := List.mem_singleton.mp hd
    rw [hjoin, hbase, hfind]
    exact ⟨by simp [FilePath.hasNull], nofun⟩
  · rw [hbase]
    exact ⟨⟨.slash, ["spec"]⟩, name, ⟨rfl, by decide⟩, List.prefix_rfl, ⟨_, hfind, hentry⟩, rfl⟩

/-- Spec files are found unless one of the directories of the settings fails, and the first that
does so gives the fault. What is found are the paths that the directories yield, each once and in
the order of their names. With a plain suffix this fails only for directories that cannot be looked
up. What is found then are the files at and below the directories that end in the suffix, but also
the directories below them that do. -/
theorem specFiles_spec (s : Surroundings) (htree : s.tree.Dotless) (settings : Settings)
    (root : FilePath) :
    let suffix := settings.specSuffix
    (∀ fault, s.specFiles settings root = .error fault →
      ∃ before directory after, settings.specDirs = before ++ directory :: after ∧
        (∀ d ∈ before, ∀ first, ¬ s.BaseFails suffix root d first) ∧
        s.BaseFails suffix root directory fault) ∧
    (∀ files, s.specFiles settings root = .ok files →
      (∀ d ∈ settings.specDirs, ∀ fault, ¬ s.BaseFails suffix root d fault) ∧
      files.Pairwise (fun p q => p.sortKey < q.sortKey) ∧
      ∀ p, p ∈ files ↔ ∃ d ∈ settings.specDirs, s.Yields suffix (s.baseOf root d) p) ∧
    (PathPattern.IsPlainSuffix suffix.toList →
      ((∃ files, s.specFiles settings root = .ok files) ↔ ∀ d ∈ settings.specDirs,
        (root.join (.ofString d)).hasNull = false ∧
          s.find (s.baseOf root d) ≠ .error .nameTooLong) ∧
      ∀ files, s.specFiles settings root = .ok files → ∀ p, p ∈ files ↔
        isSpecPath suffix p.toString = true ∧ ∃ d ∈ settings.specDirs,
          (∃ bytes, s.HasAt (s.baseOf root d) p (.file bytes)) ∨
            ∃ entries, s.HasBelow (s.baseOf root d) p (.directory entries)) := by
  intro suffix
  refine ⟨fun fault => specFiles_error, fun files => specFiles_ok, fun hsuffix =>
    ⟨exists_specFiles_iff hsuffix, fun files hfiles p => ?_⟩⟩
  have hplain (directory : String) : (s.baseOf root directory).IsPlain :=
    FilePath.isPlain_resolve _ _
  rw [(specFiles_ok hfiles).2.2 p]
  constructor
  · rintro ⟨d, hd, h⟩
    obtain ⟨hspec, h⟩ := (yields_plain htree (hplain d) hsuffix).mp h
    exact ⟨hspec, d, hd, h⟩
  · rintro ⟨hspec, d, hd, h⟩
    exact ⟨d, hd, (yields_plain htree (hplain d) hsuffix).mpr ⟨hspec, h⟩⟩

/-- A file that ends in the suffix is found, and so is a directory that does. -/
theorem specFiles_spec_default :
    let s : Surroundings := ⟨.directory [("spec", .directory
      [("b_spec.rb", .file []), ("a_spec.rb", .directory [])])], ⟨.slash, []⟩⟩
    s.tree.Dotless ∧ ∃ files, s.specFiles {} ⟨.slash, []⟩ = .ok files ∧
      ⟨.slash, ["spec", "a_spec.rb"]⟩ ∈ files ∧ ⟨.slash, ["spec", "b_spec.rb"]⟩ ∈ files := by
  intro s
  have hempty : (FileTree.directory []).Dotless := .directory nofun nofun
  have hinner : (FileTree.directory
      [("b_spec.rb", .file []), ("a_spec.rb", .directory [])]).Dotless :=
    .directory (by simp) (by simpa using ⟨.file [], hempty⟩)
  have htree : s.tree.Dotless := .directory (by simp) (by simpa using hinner)
  obtain ⟨hok, hmem⟩ :=
    (specFiles_spec s htree {} ⟨.slash, []⟩).2.2 ⟨by decide +kernel, by decide +kernel⟩
  obtain ⟨hlook, hbelow⟩ := lookup_default [("b_spec.rb", .file []), ("a_spec.rb", .directory [])]
  obtain ⟨files, hfiles⟩ := hok.mpr hlook
  refine ⟨htree, files, hfiles, (hmem files hfiles _).mpr ?_, (hmem files hfiles _).mpr ?_⟩
  · exact ⟨by decide +kernel, "spec/", by decide, .inr ⟨[], hbelow "a_spec.rb" _ (by simp)⟩⟩
  · exact ⟨by decide +kernel, "spec/", by decide, .inl ⟨[], .inr (hbelow "b_spec.rb" _ (by simp))⟩⟩

/-- A directory that ends in the suffix is taken for a spec file. -/
theorem directory_among_specFiles :
    let s : Surroundings :=
      ⟨.directory [("spec", .directory [("a_spec.rb", .directory [])])], ⟨.slash, []⟩⟩
    ∃ files, s.specFiles {} ⟨.slash, []⟩ = .ok files ∧ ∃ p ∈ files, s.isFile p = false := by
  intro s
  have htree : s.tree.Dotless := .directory (by simp)
    (by simpa using .directory (by simp) (by simpa using .directory nofun nofun))
  have hsuffix : PathPattern.IsPlainSuffix (Settings.specSuffix {}).toList :=
    ⟨by decide +kernel, by decide +kernel⟩
  obtain ⟨hlook, hbelow⟩ := lookup_default [("a_spec.rb", .directory [])]
  obtain ⟨files, hfiles⟩ := (exists_specFiles_iff hsuffix).mpr hlook
  have hyields := (yields_plain htree (FilePath.isPlain_resolve _ _) hsuffix).mpr
    ⟨by decide +kernel, .inr ⟨[], hbelow "a_spec.rb" _ (by simp)⟩⟩
  exact ⟨files, hfiles, _, ((specFiles_ok hfiles).2.2 _).mpr ⟨"spec/", by decide, hyields⟩,
    by decide +kernel⟩

end Surroundings

end SpecSkeleton
