import Mathlib
import SpecSkeleton.Proofs.Command.Table
import SpecSkeleton.Proofs.File.Emptied
import SpecSkeleton.Proofs.Markup.Shown
import SpecSkeleton.Proofs.Outline.Naming
import SpecSkeleton.Proofs.Settings.Search

/-!
# What a summary says

A summary has a row for each file that discovery finds, in that order. A row depends on the text of
its file alone: it says why there is no outline, or how many rows of the text open an element with a
keyword of some list. Markup in a file's name or in a message never keeps the table from being shown
(`scanTable_eq`).
-/

namespace SpecSkeleton

/-! ## Counts -/

/-- The kind of a row that opens an element. -/
def rowKind? (row : List Char) : Option Kind :=
  (KeywordLine.ofRow? row).bind KeywordLine.kind?

/-- How many rows of a text open an element with one of some keywords. -/
def rowsWith (keywords : List String) (text : String) : Nat :=
  (Text.rows text.toList).countP fun row => (rowKind? row).any fun k => keywords.contains k.keyword

def groupKeywords : List String :=
  ["describe", "context", "xdescribe", "xcontext"]

def exampleKeywords : List String :=
  ["it", "xit"]

def skippedKeywords : List String :=
  ["xdescribe", "xcontext", "xit"]

theorem kind_ofRow? (row : List Char) (i : Nat) :
    (Opening.ofRow? row i).map Opening.kind = rowKind? row := by
  unfold Opening.ofRow? rowKind?
  cases KeywordLine.ofRow? row with
  | none => rfl
  | some line => cases hkind : line.kind? <;> simp [hkind]

/-- Indentation does not matter to what a row opens. -/
theorem rowKind?_trimStart (row : List Char) : rowKind? (Text.trimStart row) = rowKind? row := by
  have htwice : (row.dropWhile Text.isBlank).dropWhile Text.isBlank =
      row.dropWhile Text.isBlank :=
    List.dropWhile_eq_self_iff.mpr (List.dropWhile_get_zero_not _ row)
  unfold rowKind? KeywordLine.ofRow?
  rw [Text.trimStart, htwice]
  cases keywordAt? (dropReceiver (row.dropWhile Text.isBlank)) with
  | none => rfl
  | some found => cases hnaming : namingPart? found.2 <;> simp [hnaming, KeywordLine.kind?]

/-- What counts are taken of: neither the order of rows nor their indentation matters. -/
theorem rowsWith_perm (keywords : List String) {text text' : String}
    (h : ((Text.rows text.toList).map Text.trimStart).Perm
      ((Text.rows text'.toList).map Text.trimStart)) :
    rowsWith keywords text = rowsWith keywords text' := by
  have hcount (t : String) : rowsWith keywords t =
      ((Text.rows t.toList).map Text.trimStart).countP fun row =>
        (rowKind? row).any fun k => keywords.contains k.keyword := by
    rw [List.countP_map]
    simp only [Function.comp_def, rowKind?_trimStart]
    rfl
  rw [hcount, hcount, h.countP_eq]

theorem countP_openings (keywords : List String) (text : String) :
    ((openings text).countP fun o => keywords.contains o.kind.keyword) =
      rowsWith keywords text := by
  have hrow : ∀ e : List Char × Nat,
      (((Opening.ofRow? e.1 e.2).map fun o => keywords.contains o.kind.keyword).getD false) =
        (rowKind? e.1).any fun k => keywords.contains k.keyword := by
    intro e
    rw [← kind_ofRow? e.1 e.2]
    cases Opening.ofRow? e.1 e.2 <;> rfl
  rw [openings, List.countP_filterMap, rowsWith]
  simp only [hrow]
  conv => rhs; rw [← List.zipIdx_map_fst 0 (Text.rows text.toList), List.countP_map]
  rfl

/-- The kinds of the nodes are those of the openings, whatever they are named. -/
theorem kinds_of_parse {rule : NameRule} {text file : String} {roots : Forest}
    (h : parse rule text file = .ok roots) :
    roots.nodes.map Node.kind = (openings text).map Opening.kind := by
  obtain ⟨hshape, -⟩ := parseForest_eq_ok_iff.mp (parse_eq_ok_iff.mp h)
  have hentries := congrArg (List.map fun e => e.2.kind) (unnamed_eq_shapeOf_iff.mp hshape).2
  rw [List.map_map, List.map_map, Forest.entries, List.map_map] at hentries
  exact hentries

theorem countP_nodes {rule : NameRule} {text file : String} {roots : Forest}
    (h : parse rule text file = .ok roots) {p : Kind → Bool} {keywords : List String}
    (hp : ∀ k, p k = keywords.contains k.keyword) :
    (roots.nodes.countP fun n => p n.kind) = rowsWith keywords text := by
  have hnodes : (roots.nodes.countP fun n => p n.kind) =
      (roots.nodes.map Node.kind).countP p := by
    rw [List.countP_map]
    rfl
  rw [hnodes, kinds_of_parse h, List.countP_map, ← countP_openings]
  simp only [Function.comp_def, hp]

theorem isGroup_eq (k : Kind) : k.isGroup = groupKeywords.contains k.keyword := by
  cases k <;> decide

theorem isExample_eq (k : Kind) : k.isExample = exampleKeywords.contains k.keyword := by
  cases k <;> decide

theorem isSkipped_eq (k : Kind) : k.isSkipped = skippedKeywords.contains k.keyword := by
  cases k <;> decide

namespace Command

/-! ## Rows -/

/-- What a summary says of a file. -/
def scannedStatus (rule : NameRule) (s : Surroundings) (file : FilePath) : ScanStatus :=
  match s.readText file with
  | .error fault => .failed fault.message
  | .ok text =>
    match parse rule text file.toString with
    | .failed message => .failed message
    | .ok _ =>
      .counted (rowsWith groupKeywords text) (rowsWith exampleKeywords text)
        (rowsWith skippedKeywords text)

theorem readText_ne_nullInPath {s : Surroundings} {file : FilePath} (h : file.hasNull = false) :
    s.readText file ≠ .error .nullInPath := by
  unfold Surroundings.readText
  rw [h, if_neg Bool.false_ne_true]
  split
  · simp
  · simp
  · split <;> simp

theorem scanRow_eq (rule : NameRule) (s : Surroundings) {file : FilePath}
    (h : file.hasNull = false) :
    scanRow rule s file = .ok ⟨file, scannedStatus rule s file⟩ := by
  have hnull := readText_ne_nullInPath (s := s) h
  unfold scanRow parseFile scannedStatus
  cases hread : s.readText file with
  | error fault =>
    cases fault with
    | nullInPath => exact absurd hread hnull
    | file fault => rfl
    | encoding fault => rfl
  | ok text =>
    cases hparse : parse rule text file.toString with
    | failed message => simp [hparse, Except.map, ScanStatus.ofResult]
    | ok roots =>
      simp [hparse, Except.map, ScanStatus.ofResult, countP_nodes hparse isGroup_eq,
        countP_nodes hparse isExample_eq, countP_nodes hparse isSkipped_eq]

/-- A row depends on the bytes of its file alone. -/
theorem scannedStatus_congr (rule : NameRule) {s s' : Surroundings} {file : FilePath}
    (h : s'.readText file = s.readText file) :
    scannedStatus rule s' file = scannedStatus rule s file := by
  unfold scannedStatus
  rw [h]

/-- The path by which a summary shows a file. -/
def shownPath (root file : FilePath) : String :=
  ((file.relativeTo? root).getD file).toString

/-- The three cells of a row that hold counts. -/
def ScanStatus.counts : ScanStatus → List String
  | counted groups examples skipped => [toString groups, toString examples, toString skipped]
  | failed _ => ["-", "-", "-"]

/-- The lines of a table that show a row. Its counts are on the first of them and nothing is in
their columns on the others. A row with counts is marked as good, and a path that is one word
without markup is shown as it is. -/
def ScanRow.LaidOut (root : FilePath) (r : ScanRow) (lines : List (List String)) : Prop :=
  ∃ name status others, lines = (name :: (r.status.counts ++ [status])) :: others ∧
    (∀ line ∈ others, ∃ first last, line = [first, "", "", "", last]) ∧
    (r.status.isFailure = false → status = "ok") ∧
    (Text.IsSolid (shownPath root r.file).toList →
      (∀ c ∈ (shownPath root r.file).toList, Markup.isInert c = true) →
      name = shownPath root r.file)

/-! ## Cells -/

theorem isInert_of_isDigit {c : Char} (h : c.isDigit = true) : Markup.isInert c = true := by
  rw [Char.isDigit_iff_toNat] at h
  have hzero : '0'.toNat = 48 := rfl
  have hnine : '9'.toNat = 57 := rfl
  have hother : ∀ d : Char, d.toNat < 48 ∨ 57 < d.toNat → c ≠ d := by
    rintro d hd rfl
    omega
  have hcontrol : Markup.isControl c = false := by
    simp only [Markup.isControl, List.contains_eq_mem, List.mem_cons, List.not_mem_nil, or_false,
      decide_eq_false_iff_not]
    omega
  simp [Markup.isInert, hcontrol, hother '\\' (by decide), hother '[' (by decide),
    hother ':' (by decide)]

theorem content_count (n : Nat) :
    Markup.content (toString n) = .ok (toString n).toList ∧ Text.IsSolid (toString n).toList := by
  have hdigits : ∀ c ∈ (toString n).toList, c.isDigit = true := by
    intro c hc
    have hrepr : (toString n).toList = Nat.toDigits 10 n := Nat.toList_repr
    rw [hrepr] at hc
    exact Nat.isDigit_of_mem_toDigits (by decide) (by decide) hc
  refine ⟨Markup.content_inert fun c hc => isInert_of_isDigit (hdigits c hc), ?_, ?_⟩
  · have hrepr : (toString n).toList = Nat.toDigits 10 n := Nat.toList_repr
    rw [hrepr]
    exact Nat.toDigits_ne_nil
  · exact fun c hc => Text.isBlank_of_isDigit (hdigits c hc)

theorem content_dash : Markup.content "-" = .ok "-".toList ∧ Text.IsSolid "-".toList :=
  ⟨Markup.content_inert (List.all_eq_true.mp (by decide)), .of_any (by decide) (by decide)⟩

/-- What the cells of a row show. -/
structure ScanRow.Shows (root : FilePath) (r : ScanRow) (name : List Char)
    (status : List Char) : Prop where
  cells : (r.cells root).mapM Markup.content =
    .ok (name :: (r.status.counts.map String.toList ++ [status]))
  counts : ∃ a b c, r.status.counts = [a, b, c] ∧
    Text.IsSolid a.toList ∧ Text.IsSolid b.toList ∧ Text.IsSolid c.toList
  good : r.status.isFailure = false → status = "ok".toList
  plain : (∀ c ∈ (shownPath root r.file).toList, Markup.isInert c = true) →
    name = (shownPath root r.file).toList

theorem ScanRow.exists_shows (root : FilePath) (r : ScanRow) :
    ∃ name status, r.Shows root name status := by
  obtain ⟨name, hname⟩ := Markup.content_escape (shownPath root r.file)
  have hplain : (∀ c ∈ (shownPath root r.file).toList, Markup.isInert c = true) →
      name = (shownPath root r.file).toList := by
    intro hinert
    rw [Markup.escape_inert hinert, Markup.content_inert hinert] at hname
    exact (Except.ok.inj hname).symm
  obtain ⟨file, status⟩ := r
  cases status with
  | counted groups examples skipped =>
    obtain ⟨hgroups, hgsolid⟩ := content_count groups
    obtain ⟨hexamples, hesolid⟩ := content_count examples
    obtain ⟨hskipped, hssolid⟩ := content_count skipped
    have hok := Markup.isColour_green.content_styled_inert "ok"
      (List.all_eq_true.mp (by decide))
    refine ⟨name, "ok".toList, ?_, ⟨_, _, _, rfl, hgsolid, hesolid, hssolid⟩, fun _ => rfl, hplain⟩
    exact mapM_eq_ok_iff.mpr (.cons hname (.cons hgroups (.cons hexamples
      (.cons hskipped (.cons hok .nil)))))
  | failed message =>
    obtain ⟨hdash, hsolid⟩ := content_dash
    obtain ⟨cs, hcs⟩ := Markup.isColour_red.content_styled_escape message
    refine ⟨name, cs, ?_, ⟨_, _, _, rfl, hsolid, hsolid, hsolid⟩, nofun, hplain⟩
    exact mapM_eq_ok_iff.mpr
      (.cons hname (.cons hdash (.cons hdash (.cons hdash (.cons hcs .nil)))))

/-- The lines of a row that columns have room for. -/
theorem ScanRow.Shows.laidOut {root : FilePath} {r : ScanRow} {name status : List Char}
    (h : r.Shows root name status) {widths : List Nat}
    (hroom : RoomFor widths (name :: (r.status.counts.map String.toList ++ [status]))) :
    r.LaidOut root
      (cellLines widths (name :: (r.status.counts.map String.toList ++ [status]))) := by
  obtain ⟨a, b, c, hcounts, ha, hb, hc⟩ := h.counts
  have hcells : name :: (r.status.counts.map String.toList ++ [status]) =
      [name, a.toList, b.toList, c.toList, status] := by rw [hcounts]; rfl
  rw [hcells] at hroom ⊢
  obtain ⟨first, others, hlines, hfirst, hothers⟩ :=
    cellLines_solid hroom ⟨a.toList, by simp, ha⟩
  simp only [List.forall₂_cons_left_iff, List.forall₂_nil_left_iff] at hfirst hothers
  obtain ⟨x, _, hx, ⟨_, _, hfa, ⟨_, _, hfb, ⟨_, _, hfc, ⟨y, _, hy, rfl, rfl⟩, rfl⟩, rfl⟩, rfl⟩,
    rfl⟩ := hfirst
  refine ⟨x, y, others, ?_, ?_, ?_, ?_⟩
  · rw [hlines, hcounts, hfa ha, hfb hb, hfc hc]
    simp only [String.ofList_toList]
    rfl
  · intro line hline
    obtain ⟨p, _, -, ⟨_, _, hoa, ⟨_, _, hob, ⟨_, _, hoc, ⟨q, _, -, rfl, rfl⟩, rfl⟩, rfl⟩, rfl⟩,
      rfl⟩ := hothers line hline
    exact ⟨p, q, by rw [hoa ha, hob hb, hoc hc]⟩
  · intro hgood
    have hok : Text.IsSolid "ok".toList := .of_any (by decide) (by decide)
    have hstatus := h.good hgood
    rw [hy (by rwa [hstatus]), hstatus, String.ofList_toList]
  · intro hsolid hinert
    have hname := h.plain hinert
    rw [hx (by rwa [hname]), hname, String.ofList_toList]

/-- The table of a summary has the lines of one row after those of the other. -/
theorem scanTable_eq (root : FilePath) (rows : List ScanRow) :
    ∃ groups : List (List (List String)),
      scanTable root rows = .ok (scanHeader :: groups.flatten) ∧
      List.Forall₂ (fun (r : ScanRow) lines => r.LaidOut root lines) rows groups := by
  choose name status hshows using ScanRow.exists_shows root
  let shown (r : ScanRow) : List (List Char) :=
    name r :: (r.status.counts.map String.toList ++ [status r])
  let widths := columnWidths (scanHeader.map String.toList :: rows.map shown)
  have hcells : rows.mapM (fun r => (r.cells root).mapM Markup.content) = .ok (rows.map shown) := by
    rw [mapM_eq_ok_iff, List.forall₂_map_right_iff, List.forall₂_same]
    exact fun r _ => (hshows r).cells
  refine ⟨rows.map fun r => cellLines widths (shown r), ?_, ?_⟩
  · unfold scanTable
    rw [hcells]
    show Except.ok (scanHeader :: (rows.map shown).flatMap (cellLines widths)) = _
    rw [List.flatMap_map, List.flatMap_def]
  · rw [List.forall₂_map_right_iff, List.forall₂_same]
    intro r hr
    exact (hshows r).laidOut
      (roomFor_columnWidths (List.mem_cons_of_mem _ (List.mem_map_of_mem hr)))

/-! ## Summaries -/

/-- Whether a file has no outline. -/
def FailsToParse (rule : NameRule) (s : Surroundings) (file : FilePath) : Prop :=
  ∃ message, parseFile rule s file = .ok (.failed message)

theorem isFailure_iff (rule : NameRule) {s : Surroundings} {file : FilePath}
    (h : file.hasNull = false) :
    (scannedStatus rule s file).isFailure = true ↔ FailsToParse rule s file := by
  have hrow := scanRow_eq rule s h
  unfold scanRow at hrow
  unfold FailsToParse
  cases hparse : parseFile rule s file with
  | error fault => rw [hparse] at hrow; cases hrow
  | ok result =>
    rw [hparse] at hrow
    simp only [Except.map, Except.ok.injEq, ScanRow.mk.injEq, true_and] at hrow
    rw [← hrow]
    cases result <;> simp [ScanStatus.ofResult, ScanStatus.isFailure]

/-- A summary of some files. -/
theorem scan_eq (rule : NameRule) (h : SettingsHost) {settings : Settings} {root : FilePath}
    {files : List FilePath} (hfiles : h.specFiles settings root = .ok files) (hne : files ≠ [])
    (hnull : ∀ file ∈ files, file.hasNull = false) :
    scan rule h (.ok settings) root =
      (scanOutcome (root.resolve h.directory)
        (files.map fun file => ⟨file, scannedStatus rule h.toSurroundings file⟩)).logging
          (files.flatMap (parseFileJournal rule h.toSurroundings)) := by
  have hrows : files.mapM (scanRow rule h.toSurroundings) =
      .ok (files.map fun file => ⟨file, scannedStatus rule h.toSurroundings file⟩) := by
    rw [mapM_eq_ok_iff, List.forall₂_map_right_iff, List.forall₂_same]
    exact fun file hfile => scanRow_eq rule _ (hnull file hfile)
  cases files with
  | nil => exact absurd rfl hne
  | cons file files => simp only [scan, withSettings, hfiles, hrows]

/-- A summary has one row for each file that discovery finds, in that order, whatever the files
hold. It counts the rows of the file's text that open an element with a group keyword, an example
keyword and a skipping one, whatever their indentation and order, or says why there is no outline.
The exit code is one if some file has no outline and zero otherwise. In a tree with other bytes in
files the same files are found, and a file with the same bytes has the same row: so has every file
but one if only that one is written anew. The names of files hold no null characters, as in every
file system. -/
theorem scan_summary (rule : NameRule) (h : SettingsHost) (settings : Settings) (root : FilePath)
    (files : List FilePath) (hfiles : h.specFiles settings root = .ok files) (hne : files ≠ [])
    (hnull : ∀ file ∈ files, file.hasNull = false) :
    let rowOf (s : Surroundings) (file : FilePath) : ScanRow := ⟨file, scannedStatus rule s file⟩
    let outcome := scan rule h (.ok settings) root
    (∃ groups : List (List (List String)),
      outcome.output = .table (scanHeader :: groups.flatten) ∧
      List.Forall₂ (fun file lines => (rowOf h.toSurroundings file).LaidOut
        (root.resolve h.directory) lines) files groups) ∧
    (outcome.exit = .code 1 ↔ ∃ file ∈ files, FailsToParse rule h.toSurroundings file) ∧
    (outcome.exit = .code 0 ↔ ∀ file ∈ files, ¬ FailsToParse rule h.toSurroundings file) ∧
    (∀ file ∈ files, (rowOf h.toSurroundings file).status.isFailure = true ↔
      FailsToParse rule h.toSurroundings file) ∧
    (∀ (keywords : List String) (text text' : String),
      ((Text.rows text.toList).map Text.trimStart).Perm
        ((Text.rows text'.toList).map Text.trimStart) →
      rowsWith keywords text = rowsWith keywords text') ∧
    (∀ tree, h.tree.SameShape tree →
      (h.withTree tree).specFiles settings root = .ok files ∧
      ∀ file ∈ files, (h.withTree tree).fileAt? file = h.fileAt? file →
        rowOf (h.withTree tree).toSurroundings file = rowOf h.toSurroundings file) ∧
    ∀ (changed : FilePath) (bytes : List UInt8), changed.IsPlain → h.isFile changed = true →
      let other := h.withTree (h.tree.put changed.names (.file bytes))
      other.specFiles settings root = .ok files ∧
      ∀ file ∈ files, file.IsPlain → file ≠ changed →
        rowOf other.toSurroundings file = rowOf h.toSurroundings file := by
  intro rowOf outcome
  obtain ⟨groups, htable, hgroups⟩ := scanTable_eq (root.resolve h.directory)
    (files.map (rowOf h.toSurroundings))
  have houtcome : outcome =
      Outcome.logging ⟨.code (if files.any (fun file =>
        (scannedStatus rule h.toSurroundings file).isFailure) then 1 else 0),
        .table (scanHeader :: groups.flatten), "", []⟩
        (files.flatMap (parseFileJournal rule h.toSurroundings)) := by
    refine (scan_eq rule h hfiles hne hnull).trans ?_
    rw [scanOutcome, htable, List.any_map]
    rfl
  have hfailure (file : FilePath) (hfile : file ∈ files) :=
    isFailure_iff rule (s := h.toSurroundings) (hnull file hfile)
  have hany : files.any (fun file => (scannedStatus rule h.toSurroundings file).isFailure) = true ↔
      ∃ file ∈ files, FailsToParse rule h.toSurroundings file := by
    rw [List.any_eq_true]
    exact exists_congr fun file => and_congr_right fun hfile => hfailure file hfile
  have hshape (tree : FileTree) (htree : h.tree.SameShape tree) :
      (h.withTree tree).specFiles settings root = .ok files ∧
      ∀ file ∈ files, (h.withTree tree).fileAt? file = h.fileAt? file →
        rowOf (h.withTree tree).toSurroundings file = rowOf h.toSurroundings file := by
    refine ⟨(Surroundings.specFiles_sameShape htree settings root).trans hfiles, ?_⟩
    intro file _ hsame
    exact congrArg (ScanRow.mk file)
      (scannedStatus_congr rule (Surroundings.readText_sameShape htree hsame))
  refine ⟨⟨groups, ?_, ?_⟩, ?_, ?_, hfailure, fun keywords _ _ => rowsWith_perm keywords, hshape,
    ?_⟩
  · rw [houtcome]
    rfl
  · exact List.forall₂_map_left_iff.mp hgroups
  · rw [houtcome, ← hany]
    simp [Outcome.logging]
  · have hnone : (∀ file ∈ files, ¬ FailsToParse rule h.toSurroundings file) ↔
        ¬ ∃ file ∈ files, FailsToParse rule h.toSurroundings file := by simp
    rw [houtcome, hnone, ← hany]
    simp [Outcome.logging]
  · intro changed bytes hchanged hisFile other
    obtain ⟨htree, hsame⟩ := Surroundings.put_file hchanged hisFile bytes
    obtain ⟨hfound, hrows⟩ := hshape _ htree
    exact ⟨hfound, fun file hfile hplain hother => hrows file hfile (hsame file hplain hother)⟩

/-- Of two files one is no UTF-8. The other keeps its row when that one is mended. -/
theorem scan_summary_broken :
    let h : SettingsHost := {
      tree := .directory [("spec", .directory
        [("a_spec.rb", .file "describe 'a' do".toUTF8.toList), ("b_spec.rb", .file [0xff])])]
      directory := ⟨.slash, []⟩
      override := none
      readToml := fun _ => .ok [] }
    let good : FilePath := ⟨.slash, ["spec", "a_spec.rb"]⟩
    let broken : FilePath := ⟨.slash, ["spec", "b_spec.rb"]⟩
    let mended := h.withTree (h.tree.put broken.names (.file []))
    h.specFiles {} ⟨.slash, []⟩ = .ok [good, broken] ∧
      (scan .standard h (.ok {}) ⟨.slash, []⟩).exit = .code 1 ∧
      mended.specFiles {} ⟨.slash, []⟩ = .ok [good, broken] ∧
      scannedStatus .standard mended.toSurroundings good =
        scannedStatus .standard h.toSurroundings good := by
  intro h good broken mended
  have hfiles : h.specFiles {} ⟨.slash, []⟩ = .ok [good, broken] := by cbv
  have hnull : ∀ file ∈ [good, broken], file.hasNull = false := by
    simp [good, broken, FilePath.hasNull]
  have hread : h.readText broken = .error (.encoding ⟨0, 1, 0xff, .invalidStart⟩) := by cbv
  have hbroken : FailsToParse .standard h.toSurroundings broken :=
    ⟨_, by rw [parseFile, hread]⟩
  have hfile : h.isFile broken = true := by cbv
  obtain ⟨-, hexit, -, -, -, -, hchanged⟩ :=
    scan_summary .standard h {} ⟨.slash, []⟩ _ hfiles (by simp) hnull
  obtain ⟨hfound, hrows⟩ := hchanged broken [] ⟨rfl, by decide⟩ hfile
  exact ⟨hfiles, hexit.mpr ⟨broken, by simp, hbroken⟩, hfound,
    congrArg ScanRow.status (hrows good (by simp) ⟨rfl, by decide⟩ (by decide))⟩

end Command

end SpecSkeleton
