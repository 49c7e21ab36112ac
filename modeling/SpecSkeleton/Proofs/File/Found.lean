import SpecSkeleton.Proofs.File.Contents
import SpecSkeleton.Proofs.File.Pattern
import SpecSkeleton.Proofs.List.FirstFailure

/-!
# Where a path pattern leads

`Leads` follows a path pattern part by part from a path to others, with what is left of the pattern.
Selecting by a pattern gives the paths at which nothing is left of it (`mem_select`), unless it
comes upon a plain name too long to be looked for (`select_error`, `Stumbles.select_fails`). Two
stars lead to every directory in the tree, and as long as no entry is called by two dots these are
the directories that are found below a path (`descends_iff`).
-/

namespace SpecSkeleton

namespace FileTree

variable {t : FileTree} {p q : FilePath} {names : List String}

/-! ## Directories of a tree -/

theorem mem_directoriesIn {entries : List (String × FileTree)} :
    q ∈ directoriesIn p entries ↔ ∃ e ∈ entries, q ∈ e.2.directoriesAt (p.child e.1) := by
  induction entries with
  | nil => simp [directoriesIn]
  | cons e entries ih => rw [directoriesIn, List.mem_append, ih, List.exists_mem_cons_iff]

theorem mem_directoriesAt_of_has {entries : List (String × FileTree)}
    (h : t.Has names (directory entries)) (p : FilePath) : p.descend names ∈ t.directoriesAt p := by
  generalize hu : directory entries = u at h
  induction h generalizing p with
  | here t =>
    subst hu
    simp [directoriesAt]
  | @entry entries name next u names hentry _ ih =>
    rw [directoriesAt, FilePath.descend_cons]
    exact List.mem_cons_of_mem _ (mem_directoriesIn.mpr ⟨_, hentry, ih (p.child name) hu⟩)

-- the recursion is that of the two functions, over a tree and over the entries of a directory
mutual

theorem has_of_mem_directoriesAt (p : FilePath) : ∀ {t : FileTree}, q ∈ t.directoriesAt p →
    ∃ names entries, t.Has names (directory entries) ∧ q = p.descend names
  | file bytes, h => nomatch h
  | directory entries, h => by
    rw [directoriesAt] at h
    rcases List.mem_cons.mp h with rfl | h
    · exact ⟨[], entries, .here _, (FilePath.descend_nil q).symm⟩
    · obtain ⟨e, hentry, names, more, hhas, rfl⟩ := has_of_mem_directoriesIn p h
      exact ⟨e.1 :: names, more, .entry hentry hhas, (FilePath.descend_cons p e.1 names).symm⟩

theorem has_of_mem_directoriesIn (p : FilePath) : ∀ {entries : List (String × FileTree)},
    q ∈ directoriesIn p entries → ∃ e ∈ entries, ∃ names more,
      e.2.Has names (directory more) ∧ q = (p.child e.1).descend names
  | [], h => nomatch h
  | (name, t) :: rest, h => by
    rw [directoriesIn] at h
    rcases List.mem_append.mp h with h | h
    · obtain ⟨names, more, hhas, rfl⟩ := has_of_mem_directoriesAt (p.child name) h
      exact ⟨(name, t), List.mem_cons_self, names, more, hhas, rfl⟩
    · obtain ⟨e, hentry, hrest⟩ := has_of_mem_directoriesIn p h
      exact ⟨e, List.mem_cons_of_mem _ hentry, hrest⟩

end

theorem mem_directoriesAt : q ∈ t.directoriesAt p ↔
    ∃ names entries, t.Has names (directory entries) ∧ q = p.descend names := by
  constructor
  · exact has_of_mem_directoriesAt p
  · rintro ⟨names, entries, hhas, rfl⟩
    exact mem_directoriesAt_of_has hhas p

end FileTree

namespace Surroundings

variable {s : Surroundings} {p q : FilePath}

/-! ## Parts of a pattern -/

theorem mem_entriesOf {e : String × FileTree} : e ∈ s.entriesOf p ↔ s.HasEntry p e.1 e.2 := by
  unfold entriesOf HasEntry
  cases s.find p with
  | error trouble => simp
  | ok t => cases t <;> simp [FileTree.entries]

/-- A directory is found at a path, or below it in the tree. -/
def Descends (s : Surroundings) (p q : FilePath) : Prop :=
  ∃ t names entries, s.find p = .ok t ∧ t.Has names (.directory entries) ∧ q = p.descend names

theorem mem_directoriesBelow : q ∈ s.directoriesBelow p ↔ s.Descends p q := by
  unfold directoriesBelow Descends
  cases s.find p with
  | error trouble => simp
  | ok t => simp [FileTree.mem_directoriesAt]

/-- A path pattern leads from a path to another, with the second pattern left. -/
inductive Leads (s : Surroundings) : PathPattern → FilePath → PathPattern → FilePath → Prop where
  | refl (pattern : PathPattern) (p : FilePath) : Leads s pattern p pattern p
  | descends {rest left : PathPattern} {p d q : FilePath} (hd : s.Descends p d)
      (h : Leads s rest d left q) : Leads s (.below :: rest) p left q
  | entry {accepted : NamePattern} {rest left : PathPattern} {p q : FilePath} {name : String}
      {t : FileTree} (hname : accepted.Matches name.toList) (hentry : s.HasEntry p name t)
      (hinner : rest = [] ∨ t.isDirectory = true) (h : Leads s rest (p.child name) left q) :
      Leads s (.accepted accepted :: rest) p left q
  | named {rest left : PathPattern} {p q : FilePath} {name : String} {t : FileTree}
      (hfind : s.find (p.child name) = .ok t) (hinner : rest = [] ∨ t.isDirectory = true)
      (h : Leads s rest (p.child name) left q) : Leads s (.named name :: rest) p left q

variable {left rest : PathPattern}

theorem Leads.root_eq {pattern : PathPattern} (h : s.Leads pattern p left q) : q.root = p.root := by
  induction h with
  | refl => rfl
  | descends hd _ ih =>
    obtain ⟨t, names, entries, -, -, rfl⟩ := hd
    exact ih
  | entry _ _ _ _ ih => exact ih
  | named _ _ _ ih => exact ih

/-- A path pattern leads to a path at which what is left of it meets a condition. -/
def Meets (s : Surroundings) (goal : PathPattern → FilePath → Prop) (pattern : PathPattern)
    (p : FilePath) : Prop :=
  ∃ left q, s.Leads pattern p left q ∧ goal left q

variable {goal : PathPattern → FilePath → Prop}

theorem meets_nil : s.Meets goal [] p ↔ goal [] p := by
  constructor
  · rintro ⟨left, q, h, hgoal⟩
    cases h
    exact hgoal
  · exact fun hgoal => ⟨[], p, .refl _ _, hgoal⟩

theorem meets_here : s.Meets goal (.here :: rest) p ↔ goal (.here :: rest) p := by
  constructor
  · rintro ⟨left, q, h, hgoal⟩
    cases h
    exact hgoal
  · exact fun hgoal => ⟨_, p, .refl _ _, hgoal⟩

theorem meets_below : s.Meets goal (.below :: rest) p ↔
    goal (.below :: rest) p ∨ ∃ d, s.Descends p d ∧ s.Meets goal rest d := by
  constructor
  · rintro ⟨left, q, h, hgoal⟩
    cases h with
    | refl => exact .inl hgoal
    | descends hd h => exact .inr ⟨_, hd, left, q, h, hgoal⟩
  · rintro (hgoal | ⟨d, hd, left, q, h, hgoal⟩)
    · exact ⟨_, p, .refl _ _, hgoal⟩
    · exact ⟨left, q, .descends hd h, hgoal⟩

theorem meets_accepted {accepted : NamePattern} : s.Meets goal (.accepted accepted :: rest) p ↔
    goal (.accepted accepted :: rest) p ∨
      ∃ name t, accepted.Matches name.toList ∧ s.HasEntry p name t ∧
        (rest = [] ∨ t.isDirectory = true) ∧ s.Meets goal rest (p.child name) := by
  constructor
  · rintro ⟨left, q, h, hgoal⟩
    cases h with
    | refl => exact .inl hgoal
    | entry hname hentry hinner h =>
      exact .inr ⟨_, _, hname, hentry, hinner, left, q, h, hgoal⟩
  · rintro (hgoal | ⟨name, t, hname, hentry, hinner, left, q, h, hgoal⟩)
    · exact ⟨_, p, .refl _ _, hgoal⟩
    · exact ⟨left, q, .entry hname hentry hinner h, hgoal⟩

theorem meets_named {name : String} : s.Meets goal (.named name :: rest) p ↔
    goal (.named name :: rest) p ∨
      ∃ t, s.find (p.child name) = .ok t ∧ (rest = [] ∨ t.isDirectory = true) ∧
        s.Meets goal rest (p.child name) := by
  constructor
  · rintro ⟨left, q, h, hgoal⟩
    cases h with
    | refl => exact .inl hgoal
    | named hfind hinner h => exact .inr ⟨_, hfind, hinner, left, q, h, hgoal⟩
  · rintro (hgoal | ⟨t, hfind, hinner, left, q, h, hgoal⟩)
    · exact ⟨_, p, .refl _ _, hgoal⟩
    · exact ⟨left, q, .named hfind hinner h, hgoal⟩

/-! ## Selecting -/

/-- Nothing is left of a pattern at a path, except that a slash may stand at its end. -/
def Selects (s : Surroundings) (pattern : PathPattern) (p q : FilePath) : Prop :=
  s.Meets (fun left found => found = q ∧ (left = [] ∨ left.head? = some .here)) pattern p

/-- A pattern comes upon a plain name that is too long to be looked for. -/
def Stumbles (s : Surroundings) (pattern : PathPattern) (p : FilePath) (fault : FileFault) : Prop :=
  s.Meets (fun left q => ∃ name rest, left = .named name :: rest ∧
    s.find (q.child name) = .error .nameTooLong ∧
    fault = ⟨(q.child name).toString, .nameTooLong⟩) pattern p

theorem selects_nil : s.Selects [] p q ↔ p = q := by
  simp [Selects, meets_nil]

theorem selects_here : s.Selects (.here :: rest) p q ↔ p = q := by
  simp [Selects, meets_here]

theorem selects_below :
    s.Selects (.below :: rest) p q ↔ ∃ d, s.Descends p d ∧ s.Selects rest d q := by
  simp [Selects, meets_below]

theorem selects_accepted {accepted : NamePattern} : s.Selects (.accepted accepted :: rest) p q ↔
    ∃ name t, accepted.Matches name.toList ∧ s.HasEntry p name t ∧
      (rest = [] ∨ t.isDirectory = true) ∧ s.Selects rest (p.child name) q := by
  simp [Selects, meets_accepted]

theorem selects_named {name : String} : s.Selects (.named name :: rest) p q ↔
    ∃ t, s.find (p.child name) = .ok t ∧ (rest = [] ∨ t.isDirectory = true) ∧
      s.Selects rest (p.child name) q := by
  simp [Selects, meets_named]

variable {fault : FileFault}

theorem not_stumbles_nil : ¬ s.Stumbles [] p fault := by
  simp [Stumbles, meets_nil]

theorem not_stumbles_here : ¬ s.Stumbles (.here :: rest) p fault := by
  simp [Stumbles, meets_here]

theorem stumbles_below : s.Stumbles (.below :: rest) p fault ↔
    ∃ d, s.Descends p d ∧ s.Stumbles rest d fault := by
  simp [Stumbles, meets_below]

theorem stumbles_accepted {accepted : NamePattern} :
    s.Stumbles (.accepted accepted :: rest) p fault ↔
      ∃ name t, accepted.Matches name.toList ∧ s.HasEntry p name t ∧
        (rest = [] ∨ t.isDirectory = true) ∧ s.Stumbles rest (p.child name) fault := by
  simp [Stumbles, meets_accepted]

theorem stumbles_named {name : String} : s.Stumbles (.named name :: rest) p fault ↔
    s.find (p.child name) = .error .nameTooLong ∧
        fault = ⟨(p.child name).toString, .nameTooLong⟩ ∨
      ∃ t, s.find (p.child name) = .ok t ∧ (rest = [] ∨ t.isDirectory = true) ∧
        s.Stumbles rest (p.child name) fault := by
  simp [Stumbles, meets_named]

/-- The entries from which an accepting part of a pattern goes on. -/
theorem mem_filter_entriesOf {accepted : NamePattern} {e : String × FileTree} :
    e ∈ ((s.entriesOf p).filter fun (name, t) =>
        accepted.accepts name.toList && (rest.isEmpty || t.isDirectory)) ↔
      accepted.Matches e.1.toList ∧ s.HasEntry p e.1 e.2 ∧
        (rest = [] ∨ e.2.isDirectory = true) := by
  rw [List.mem_filter, mem_entriesOf, Bool.and_eq_true, NamePattern.accepts_iff, Bool.or_eq_true,
    List.isEmpty_iff]
  exact and_left_comm

/-- A plain name is too long to be looked for, or leads on, or leads nowhere. -/
theorem select_named_cases (s : Surroundings) (name : String) (rest : PathPattern)
    (p : FilePath) :
    (s.find (p.child name) = .error .nameTooLong ∧
        s.select (.named name :: rest) p = .error ⟨(p.child name).toString, .nameTooLong⟩) ∨
      (∃ t, s.find (p.child name) = .ok t ∧ (rest = [] ∨ t.isDirectory = true) ∧
        s.select (.named name :: rest) p = s.select rest (p.child name)) ∨
      (∀ t, s.find (p.child name) = .ok t → ¬ (rest = [] ∨ t.isDirectory = true)) ∧
        s.select (.named name :: rest) p = .ok [] := by
  rw [select]
  cases hfind : s.find (p.child name) with
  | error trouble =>
    by_cases hlong : trouble = .nameTooLong
    · subst hlong
      exact .inl ⟨rfl, rfl⟩
    · refine .inr (.inr ⟨nofun, ?_⟩)
      cases trouble <;> first | rfl | exact absurd rfl hlong
  | ok t =>
    by_cases hinner : rest = [] ∨ t.isDirectory = true
    · exact .inr (.inl ⟨t, rfl, hinner, by simp [hinner]⟩)
    · refine .inr (.inr ⟨?_, by simp [hinner]⟩)
      rintro _ ⟨⟩
      exact hinner

/-- Selecting gives just the paths that are selected. -/
theorem mem_select {pattern : PathPattern} {paths : List FilePath}
    (h : s.select pattern p = .ok paths) : q ∈ paths ↔ s.Selects pattern p q := by
  induction pattern generalizing p paths with
  | nil =>
    cases h
    rw [selects_nil, List.mem_singleton, eq_comm]
  | cons part rest ih =>
    -- what selecting by the rest finds from a path, once it is known not to fail there
    have hrest (d : FilePath) (hok : ∃ found, s.select rest d = .ok found) :
        (∃ found, s.select rest d = .ok found ∧ q ∈ found) ↔ s.Selects rest d q := by
      obtain ⟨found, hfound⟩ := hok
      simp [hfound, ih hfound]
    cases part with
    | here =>
      cases h
      rw [selects_here, List.mem_singleton, eq_comm]
    | below =>
      obtain ⟨hok, hmem⟩ := mapM_flatten_eq_ok h
      rw [hmem, selects_below]
      refine exists_congr fun d => ?_
      rw [← mem_directoriesBelow]
      exact and_congr_right fun hd => hrest d (hok d hd)
    | accepted accepted =>
      obtain ⟨hok, hmem⟩ := mapM_flatten_eq_ok h
      rw [hmem, selects_accepted]
      constructor
      · rintro ⟨e, he, hfound⟩
        obtain ⟨hname, hentry, hinner⟩ := mem_filter_entriesOf.mp he
        exact ⟨e.1, e.2, hname, hentry, hinner, (hrest _ (hok e he)).mp hfound⟩
      · rintro ⟨name, t, hname, hentry, hinner, hselects⟩
        have he := mem_filter_entriesOf (e := (name, t)).mpr ⟨hname, hentry, hinner⟩
        exact ⟨(name, t), he, (hrest _ (hok _ he)).mpr hselects⟩
    | named name =>
      rw [selects_named]
      obtain ⟨-, hselect⟩ | ⟨t, hfind, hinner, hselect⟩ | ⟨hnowhere, hselect⟩ :=
        select_named_cases s name rest p
      · cases h.symm.trans hselect
      · rw [ih (hselect.symm.trans h)]
        simp [hfind, hinner]
      · cases h.symm.trans hselect
        constructor
        · exact nofun
        · rintro ⟨t, hfind, hinner, -⟩
          exact absurd hinner (hnowhere t hfind)

/-- Selecting fails only where a plain name is too long. -/
theorem select_error {pattern : PathPattern}
    (h : s.select pattern p = .error fault) : s.Stumbles pattern p fault := by
  induction pattern generalizing p with
  | nil => cases h
  | cons part rest ih =>
    cases part with
    | here => cases h
    | below =>
      obtain ⟨front, d, back, hdirectories, -, hd⟩ := mapM_flatten_eq_error_iff.mp h
      have hmem : d ∈ s.directoriesBelow p := by rw [hdirectories]; simp
      exact stumbles_below.mpr ⟨d, mem_directoriesBelow.mp hmem, ih hd⟩
    | accepted accepted =>
      obtain ⟨front, e, back, hentries, -, he⟩ := mapM_flatten_eq_error_iff.mp h
      obtain ⟨hname, hentry, hinner⟩ :=
        mem_filter_entriesOf.mp (hentries ▸ List.mem_append_right front List.mem_cons_self)
      exact stumbles_accepted.mpr ⟨e.1, e.2, hname, hentry, hinner, ih he⟩
    | named name =>
      rw [stumbles_named]
      obtain ⟨hlong, hselect⟩ | ⟨t, hfind, hinner, hselect⟩ | ⟨-, hselect⟩ :=
        select_named_cases s name rest p
      · exact .inl ⟨hlong, Except.error.inj (h.symm.trans hselect)⟩
      · exact .inr ⟨t, hfind, hinner, ih (hselect.symm.trans h)⟩
      · cases h.symm.trans hselect

/-- Selecting fails wherever a plain name is too long, though perhaps for another one. -/
theorem Stumbles.select_fails {pattern : PathPattern}
    (h : s.Stumbles pattern p fault) : ∃ first, s.select pattern p = .error first := by
  induction pattern generalizing p with
  | nil => exact absurd h not_stumbles_nil
  | cons part rest ih =>
    cases part with
    | here => exact absurd h not_stumbles_here
    | below =>
      obtain ⟨d, hd, h⟩ := stumbles_below.mp h
      obtain ⟨first, hfirst⟩ :=
        exists_failsFirst_iff.mpr ⟨d, mem_directoriesBelow.mpr hd, ih h⟩
      exact ⟨first, mapM_flatten_eq_error_iff.mpr hfirst⟩
    | accepted accepted =>
      obtain ⟨name, t, hname, hentry, hinner, h⟩ := stumbles_accepted.mp h
      have he := mem_filter_entriesOf (e := (name, t)).mpr ⟨hname, hentry, hinner⟩
      have hfails : ∃ e ∈ _, ∃ first, s.select rest (p.child (Prod.fst e)) = .error first :=
        ⟨(name, t), he, ih h⟩
      obtain ⟨first, hfirst⟩ := exists_failsFirst_iff.mpr hfails
      exact ⟨first, mapM_flatten_eq_error_iff.mpr hfirst⟩
    | named name =>
      obtain ⟨hlong, -⟩ | ⟨t, hfind, hinner, h⟩ := stumbles_named.mp h
      · exact ⟨_, by rw [select, hlong]⟩
      · obtain ⟨first, hfirst⟩ := ih h
        exact ⟨first, by rw [select, hfind]; simpa [hinner] using hfirst⟩

/-! ## Two stars -/

/-- As long as no entry is called by two dots, the directories of a tree that can be found are those
at and below its path. -/
theorem descends_iff (htree : s.tree.Dotless) (hp : p.IsPlain) {t : FileTree}
    (ht : s.find p = .ok t) {entries : List (String × FileTree)}
    (hq : s.find q = .ok (.directory entries)) :
    s.Descends p q ↔ q.IsPlain ∧ p.names <+: q.names := by
  constructor
  · rintro ⟨t', names, _, ht', hhas, rfl⟩
    have hdotless : t'.Dotless :=
      htree.of_has (FileTree.has_of_follow hp.no_dots (follow_of_find hp ht'))
    refine ⟨⟨hp.root_eq, fun hm => ?_⟩, List.prefix_append _ _⟩
    rcases List.mem_append.mp hm with hm | hm
    · exact hp.no_dots hm
    · exact hdotless.no_dots hhas hm
  · rintro ⟨hplain, names, hnames⟩
    have hfollow := follow_of_find hplain hq
    have hdots : ".." ∉ p.names ++ names := hnames ▸ hplain.no_dots
    rw [← hnames, FileTree.follow_append_eq_ok hdots] at hfollow
    obtain ⟨t', ht', hfollow⟩ := hfollow
    cases (follow_of_find hp ht).symm.trans ht'
    have hhas := FileTree.has_of_follow (fun hm => hdots (List.mem_append_right _ hm)) hfollow
    exact ⟨t, names, entries, ht, hhas, hplain.eq_descend hp hnames.symm⟩

end Surroundings

end SpecSkeleton
