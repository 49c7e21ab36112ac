import Mathlib
import SpecSkeleton.Proofs.Settings.Search
import SpecSkeleton.Proofs.Text.Shown

/-!
# Excerpts of settings files

A settings file that is no TOML is refused with an excerpt that ends at the line of the fault.
`IsExcerpt` says what an excerpt shows of some lines. The lines it is taken from are those that a
terminal shows, which are the rows of the file as long as no row up to the fault has a line break in
it (`excerpt_of_malformed`).
-/

namespace SpecSkeleton

/-! ## Excerpts -/

/-- What is to be shown of some lines up to one of them: lines with their numbers, one after the
other, no more than three and none beyond that line, which is the last unless it is missing or
empty. -/
structure IsExcerpt (lines : List (List Char)) (line : Nat) (shown : List (Nat × List Char)) :
    Prop where
  rows : ∀ e ∈ shown, 1 ≤ e.1 ∧ lines[e.1 - 1]? = some e.2
  consecutive : ∃ first, shown.map Prod.fst = List.range' first shown.length
  length_le : shown.length ≤ 3
  le_line : ∀ e ∈ shown, e.1 ≤ line
  last : ∀ s, lines[line - 1]? = some s → s ≠ [] → shown.getLast? = some (line, s)

/-- What is in front of a line: its number, filled up to four characters, and a bar. -/
def lineLabel (n : Nat) : String :=
  String.ofList (List.replicate (4 - (toString n).length) ' ') ++ toString n ++ " | "

/-- The carets below a character of a line. -/
def caretRow (line column : Nat) : String :=
  String.ofList (List.replicate ((lineLabel line).length + (column - 1)) ' ') ++ "^^^"

/-- The rows of an excerpt, with carets below its line. -/
def excerptRows (line column : Nat) (shown : List (Nat × List Char)) : List String :=
  shown.flatMap fun (n, s) =>
    (lineLabel n ++ String.ofList s) :: (if n = line then [caretRow line column] else [])

/-- The lines that an excerpt is made of. -/
def pickedLines (lines : List (List Char)) (line : Nat) : List (List Char) :=
  (lines.take line).drop (line - 3)

/-- The lines of an excerpt with their numbers; one empty line is none. -/
def numberedLines (lines : List (List Char)) (line : Nat) : List (Nat × List Char) :=
  if pickedLines lines line = [[]] then []
  else (pickedLines lines line).zipIdx.map fun (s, i) => (line - 3 + 1 + i, s)

theorem getElem?_pickedLines (lines : List (List Char)) (line i : Nat) :
    (pickedLines lines line)[i]? = if line - 3 + i < line then lines[line - 3 + i]? else none := by
  rw [pickedLines, List.getElem?_drop, List.getElem?_take]

theorem length_pickedLines (lines : List (List Char)) (line : Nat) :
    (pickedLines lines line).length = min line lines.length - (line - 3) := by
  rw [pickedLines, List.length_drop, List.length_take]

theorem mem_numberedLines {lines : List (List Char)} {line : Nat} {e : Nat × List Char}
    (h : e ∈ numberedLines lines line) :
    ∃ i, e.1 = line - 3 + 1 + i ∧ line - 3 + i < line ∧ lines[line - 3 + i]? = some e.2 := by
  unfold numberedLines at h
  split at h
  · cases h
  · obtain ⟨⟨s, i⟩, hi, rfl⟩ := List.mem_map.mp h
    have hget := List.mem_zipIdx_iff_getElem?.mp hi
    rw [getElem?_pickedLines] at hget
    split at hget
    · next hlt => exact ⟨i, rfl, hlt, hget⟩
    · cases hget

theorem isExcerpt_numberedLines (lines : List (List Char)) {line : Nat} (hline : 1 ≤ line) :
    IsExcerpt lines line (numberedLines lines line) where
  rows := by
    intro e he
    obtain ⟨i, hnumber, -, hget⟩ := mem_numberedLines he
    have hindex : e.1 - 1 = line - 3 + i := by omega
    rw [hindex]
    exact ⟨by omega, hget⟩
  consecutive := by
    unfold numberedLines
    split
    · exact ⟨0, rfl⟩
    · refine ⟨line - 3 + 1, ?_⟩
      have hindices := congrArg (List.map (line - 3 + 1 + ·))
        (List.zipIdx_map_snd 0 (pickedLines lines line))
      rw [List.map_map, List.map_add_range', Nat.add_zero] at hindices
      rw [List.map_map, List.length_map, List.length_zipIdx]
      exact hindices
  length_le := by
    unfold numberedLines
    split
    · simp
    · rw [List.length_map, List.length_zipIdx, length_pickedLines]
      omega
  le_line := by
    intro e he
    obtain ⟨i, hnumber, hlt, -⟩ := mem_numberedLines he
    omega
  last := by
    intro s hs hne
    have hlength := (List.getElem?_eq_some_iff.mp hs).1
    have hpicked := length_pickedLines lines line
    have hindex : line - 3 + ((pickedLines lines line).length - 1) = line - 1 := by omega
    have hget : (pickedLines lines line)[(pickedLines lines line).length - 1]? = some s := by
      rw [getElem?_pickedLines, hindex, if_pos (by omega), hs]
    have hsome : pickedLines lines line ≠ [[]] := by
      intro hempty
      rw [hempty] at hget
      exact hne (Option.some.inj hget).symm
    rw [numberedLines, if_neg hsome, List.getLast?_eq_getElem?, List.length_map,
      List.length_zipIdx, List.getElem?_map, List.getElem?_zipIdx, hget]
    simp only [Option.map_some, Option.some.injEq, Prod.mk.injEq, and_true]
    omega

/-- Lines that agree but for empty ones that are missing have the same excerpts. -/
theorem IsExcerpt.of_agree {lines lines' : List (List Char)} {line : Nat} (hline : 1 ≤ line)
    {shown : List (Nat × List Char)} (h : IsExcerpt lines line shown)
    (hagree : ∀ i < line, lines[i]? = lines'[i]? ∨ lines[i]? = none ∧ lines'[i]? = some []) :
    IsExcerpt lines' line shown where
  rows := by
    intro e he
    obtain ⟨hpos, hget⟩ := h.rows e he
    have hle := h.le_line e he
    refine ⟨hpos, ?_⟩
    rcases hagree (e.1 - 1) (by omega) with hsame | ⟨hnone, -⟩
    · rw [← hsame, hget]
    · rw [hnone] at hget
      cases hget
  consecutive := h.consecutive
  length_le := h.length_le
  le_line := h.le_line
  last := by
    intro s hs hne
    rcases hagree (line - 1) (by omega) with hsame | ⟨-, hempty⟩
    · exact h.last s (hsame.trans hs) hne
    · rw [hempty] at hs
      exact absurd (Option.some.inj hs).symm hne

/-! ## Messages -/

/-- The excerpt of a text as it is kept with a location. -/
theorem toList_excerptEndingAt (text : String) (line : Nat) :
    (excerptEndingAt text line).toList =
      ['\n'].intercalate (pickedLines (Text.shownLines text.toList) line) := by
  have hstop : clampIndex (Text.shownLines text.toList).length line =
      min line (Text.shownLines text.toList).length := by
    rw [clampIndex, if_neg (by omega), Int.toNat_natCast]
  have hstart : ((line : Int) - 3).toNat = line - 3 := by omega
  simp only [excerptEndingAt, hstop, hstart, String.toList_intercalate, List.map_map,
    Function.comp_def, String.toList_ofList, List.map_id', pickedLines, ← List.take_eq_take_min]
  rfl

theorem intercalate_eq_nil_iff {c : Char} {rs : List (List Char)} :
    [c].intercalate rs = [] ↔ rs = [] ∨ rs = [[]] := by
  match rs with
  | [] => simp
  | [r] => simp
  | r :: s :: rs => simp [List.intercalate_cons_cons]

/-- One row of an excerpt and the carets below it. -/
theorem shownRow_eq (source : FilePath) {line column : Nat} (hcolumn : 1 ≤ column)
    (excerpt : Option String) (n : Nat) (row : List Char) :
    (Location.mk source line column excerpt).shownRow n row =
      (lineLabel n ++ String.ofList row) ::
        (if n = line then [caretRow line column] else []) := by
  have hlabel : rowNumber n ++ " | " = lineLabel n := rfl
  have hcaret : ((lineLabel n).length + (column : Int) - 1).toNat =
      (lineLabel n).length + (column - 1) := by omega
  simp only [Location.shownRow, hlabel, hcaret, Int.natCast_inj]
  split
  · next h => rw [caretRow, ← h]
  · rfl

theorem excerptRows_numberedLines (source : FilePath) (excerpt : Option String)
    (lines : List (List Char)) {line column : Nat} (hline : 1 ≤ line) (hcolumn : 1 ≤ column)
    (hsome : pickedLines lines line ≠ [[]]) :
    let l : Location := ⟨source, line, column, excerpt⟩
    ((pickedLines lines line).zipIdx.flatMap fun (row, index) =>
      l.shownRow (l.firstRow + index) row) =
        excerptRows line column (numberedLines lines line) := by
  intro l
  have hfirst (i : Nat) : l.firstRow + (i : Int) = ((line - 3 + 1 + i : Nat) : Int) := by
    show max 1 ((line : Int) - 2) + (i : Int) = _
    omega
  rw [excerptRows, numberedLines, if_neg hsome, List.flatMap_map]
  refine congrArg (List.flatMap · (pickedLines lines line).zipIdx) (funext fun ⟨row, i⟩ => ?_)
  simp only [hfirst]
  exact shownRow_eq source hcolumn excerpt _ row

/-- The message of a location with an excerpt. -/
theorem shown_excerptEndingAt (source : FilePath) (text : String) {line column : Nat}
    (hline : 1 ≤ line) (hcolumn : 1 ≤ column) :
    (Location.mk source line column (some (excerptEndingAt text line))).shown =
      "\n".intercalate (s!"{source}:{line}:{column}" ::
        excerptRows line column (numberedLines (Text.shownLines text.toList) line)) := by
  let picked := pickedLines (Text.shownLines text.toList) line
  have hexcerpt : (excerptEndingAt text line).toList = ['\n'].intercalate picked :=
    toList_excerptEndingAt text line
  have hempty : excerptEndingAt text line = "" ↔ picked = [] ∨ picked = [[]] := by
    rw [← String.toList_inj, hexcerpt, String.toList_empty, intercalate_eq_nil_iff]
  by_cases hnone : excerptEndingAt text line = ""
  · have hnumbered : numberedLines (Text.shownLines text.toList) line = [] := by
      unfold numberedLines
      rcases hempty.mp hnone with h | h
      · have h : pickedLines (Text.shownLines text.toList) line = [] := h
        rw [h]
        rfl
      · rw [if_pos h]
    rw [hnumbered, hnone]
    rfl
  · obtain ⟨hnil, hsome⟩ := not_or.mp fun h => hnone (hempty.mpr h)
    have hfeed : ∀ row ∈ picked, '\n' ∉ row := by
      intro row hrow hm
      have hmem := List.mem_of_mem_take (List.mem_of_mem_drop hrow)
      cases Text.unbroken_of_mem_shownLines hmem _ hm
    have hrows : Text.rows (excerptEndingAt text line).toList = picked := by
      rw [hexcerpt, Text.rows_intercalate hnil hfeed]
    have hbody := excerptRows_numberedLines source (some (excerptEndingAt text line))
      (Text.shownLines text.toList) hline hcolumn hsome
    have hne : excerptRows line column (numberedLines (Text.shownLines text.toList) line) ≠ [] := by
      rw [excerptRows, numberedLines, if_neg hsome]
      obtain ⟨row, rest, hpicked⟩ := List.exists_cons_of_ne_nil hnil
      have hpicked : pickedLines (Text.shownLines text.toList) line = row :: rest := hpicked
      rw [hpicked]
      simp
    rw [String.intercalate_cons_of_ne_nil hne, ← hbody, Location.shown, if_neg (by exact hnone),
      Location.shownExcerpt]
    simp only [hrows, String.isEmpty_iff, hnone, if_false]
    rfl

theorem message_badToml (source : FilePath) (text message : String) {line : Nat}
    {column : Option Nat} (hline : 1 ≤ line) (hcolumn : ∀ c ∈ column, 1 ≤ c) :
    (SettingsRefusal.badToml source text
      ⟨message, some (line : Int), column.map Int.ofNat⟩).message =
      "\n".intercalate (s!"{source}:{line}:{column.getD 1}" ::
        (excerptRows line (column.getD 1) (numberedLines (Text.shownLines text.toList) line) ++
          [s!"Invalid TOML: {message}"])) := by
  have hzero : (line : Int) ≠ 0 := by omega
  have hat : (if (column.map Int.ofNat).getD 0 = 0 then 1 else (column.map Int.ofNat).getD 0) =
      ((column.getD 1 : Nat) : Int) := by
    cases column with
    | none => rfl
    | some c =>
      have hc := hcolumn c rfl
      have hne : (c : Int) ≠ 0 := by omega
      exact if_neg hne
  have hpos : 1 ≤ column.getD 1 := by
    cases column with
    | none => exact Nat.le_refl 1
    | some c => exact hcolumn c rfl
  rw [SettingsRefusal.message, SettingsRefusal.diagnostic]
  simp only [if_neg hzero, Diagnostic.about, Diagnostic.text, hat]
  rw [shown_excerptEndingAt source text hline hpos, ← List.cons_append,
    String.intercalate_append_of_ne_nil (by simp) (by simp), String.intercalate_singleton]

/-- A settings file that the reader refuses at a line and perhaps a column is refused with a message
that names the place, shows an excerpt of the file that ends at that line and has carets below the
column, the first if none is given, and says what is wrong. The excerpt is taken from the lines that
a terminal shows. These are the rows of the file unless a row up to the fault has a line break of
another kind in it. -/
theorem excerpt_of_malformed (h : SettingsHost) (p : FilePath) (text message : String) (line : Nat)
    (column : Option Nat) (hread : h.readText p = .ok text)
    (htoml : h.readToml text =
      .error (.malformed ⟨message, some (line : Int), column.map Int.ofNat⟩))
    (hline : 1 ≤ line) (hcolumn : ∀ c ∈ column, 1 ≤ c) :
    let start := (lineLabel line).length + (column.getD 1 - 1)
    ∃ refusal shown, h.readTable p = .error (.refused refusal) ∧
      h.load p = .error (.refused refusal) ∧ h.loadProject p = .error (.refused refusal) ∧
      refusal.message = "\n".intercalate (s!"{p}:{line}:{column.getD 1}" ::
        (excerptRows line (column.getD 1) shown ++ [s!"Invalid TOML: {message}"])) ∧
      (∀ s : List Char, (lineLabel line ++ String.ofList s).toList[start]? =
        s[column.getD 1 - 1]?) ∧
      (caretRow line (column.getD 1)).toList = List.replicate start ' ' ++ ['^', '^', '^'] ∧
      IsExcerpt (Text.shownLines text.toList) line shown ∧
      ((∀ row ∈ (Text.rows text.toList).take line, Text.Unbroken row) →
        IsExcerpt (Text.rows text.toList) line shown) := by
  intro start
  have htable : h.readTable p = .error (.refused
      (.badToml p text ⟨message, some (line : Int), column.map Int.ofNat⟩)) := by
    rw [SettingsHost.readTable, hread]
    simp only [htoml]
  have hexcerpt := isExcerpt_numberedLines (Text.shownLines text.toList) hline
  refine ⟨_, numberedLines (Text.shownLines text.toList) line, htable,
    SettingsHost.load_eq_error htable, SettingsHost.loadProject_eq_error htable,
    message_badToml p text message hline hcolumn, ?_, ?_, hexcerpt, ?_⟩
  · intro s
    rw [String.toList_append, String.toList_ofList, List.getElem?_append_right (by
      rw [String.length_toList]; omega), String.length_toList, Nat.add_sub_cancel_left]
  · rw [caretRow, String.toList_append, String.toList_ofList]
    rfl
  · intro hrows
    exact hexcerpt.of_agree hline fun i hi => Text.getElem?_shownLines hrows hi

/-- A fault in the second of three rows. -/
theorem excerpt_of_malformed_second :
    let text := "a = 1\nb = = 2\nc = 3\n"
    let h : SettingsHost := {
      tree := .directory [("c.toml", .file text.toUTF8.toList)]
      directory := ⟨.slash, []⟩
      override := none
      readToml := fun _ => .error (.malformed ⟨"Invalid value", some 2, some 5⟩) }
    h.readText ⟨.slash, ["c.toml"]⟩ = .ok text ∧
      ∃ shown, IsExcerpt (Text.rows text.toList) 2 shown ∧
        shown.getLast? = some (2, "b = = 2".toList) := by
  intro text h
  have hread : h.readText ⟨.slash, ["c.toml"]⟩ = .ok text := by cbv
  obtain ⟨-, shown, -, -, -, -, -, -, -, hrows⟩ :=
    excerpt_of_malformed h ⟨.slash, ["c.toml"]⟩ text "Invalid value" 2 (some 5) hread rfl
      (by decide) (by simp)
  have htake : (Text.rows text.toList).take 2 = ["a = 1".toList, "b = = 2".toList] := by cbv
  have hall : ["a = 1".toList, "b = = 2".toList].all
      (fun row => row.all (!Text.isLineBreak ·)) = true := by decide
  have hunbroken : ∀ row ∈ (Text.rows text.toList).take 2, ∀ c ∈ row,
      Text.isLineBreak c = false := by
    rw [htake]
    simpa only [List.all_eq_true, Bool.not_eq_true'] using hall
  have hexcerpt := hrows hunbroken
  exact ⟨hread, shown, hexcerpt, hexcerpt.last _ (by cbv) (by decide)⟩

/-- A row may hold a line separator. The excerpt then shows other lines than the rows of these
numbers. -/
theorem excerpt_of_other_line :
    let text := "# a\u2028b\nx = = 1\n"
    let h : SettingsHost := {
      tree := .directory [("c.toml", .file text.toUTF8.toList)]
      directory := ⟨.slash, []⟩
      override := none
      readToml := fun _ => .error (.malformed ⟨"Invalid value", some 2, some 5⟩) }
    h.readText ⟨.relative, ["c.toml"]⟩ = .ok text ∧
      (Text.rows text.toList)[1]? = some "x = = 1".toList ∧
      ∃ refusal, h.load ⟨.relative, ["c.toml"]⟩ = .error (.refused refusal) ∧
        refusal.message =
          "c.toml:2:5\n   1 | # a\n   2 | b\n           ^^^\nInvalid TOML: Invalid value" := by
  intro text h
  have hread : h.readText ⟨.relative, ["c.toml"]⟩ = .ok text := by cbv
  have htable : h.readTable ⟨.relative, ["c.toml"]⟩ = .error (.refused
      (.badToml ⟨.relative, ["c.toml"]⟩ text ⟨"Invalid value", some 2, some 5⟩)) := by
    rw [SettingsHost.readTable, hread]
  exact ⟨hread, by cbv, _, SettingsHost.load_eq_error htable, by cbv⟩

end SpecSkeleton
