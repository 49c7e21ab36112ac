import Mathlib.Data.List.Forall2
import SpecSkeleton.Outline.File
import SpecSkeleton.Proofs.Text.Utf8

/-!
# Line ends do not matter

A carriage return at the end of a row changes nothing about the keyword line that is read from it
(`ofRow?_append_return`). So a text has the same outline whichever of its line feeds have a carriage
return before them (`parse_of_returnsAdded`), and a file has the outline of its text as it stands,
although reading it folds the line ends. `outline_of_line_ends` also says which files have none.
-/

namespace SpecSkeleton

open Text

/-! ## A carriage return at the end of a row -/

/-- No letter of a keyword, nor of the receiver, stands for a carriage return. -/
theorem sameLetter_return :
    (∀ k ∈ receiver, sameLetter k '\r' = false) ∧
      ∀ kind : Kind, ∀ k ∈ kind.letters, sameLetter k '\r' = false := by
  have hreceiver : receiver.all (fun k => !sameLetter k '\r') = true := by decide
  have hletters (kind : Kind) : kind.letters.all (fun k => !sameLetter k '\r') = true := by
    cases kind <;> decide
  exact ⟨fun k hk => by simpa using List.all_eq_true.mp hreceiver k hk,
    fun kind k hk => by simpa using List.all_eq_true.mp (hletters kind) k hk⟩

theorem spelled?_append_return {word : List Char} (hword : ∀ k ∈ word, sameLetter k '\r' = false)
    (cs : List Char) :
    spelled? word (cs ++ ['\r']) = (spelled? word cs).map fun x => (x.1, x.2 ++ ['\r']) := by
  induction word generalizing cs with
  | nil => rfl
  | cons k word ih =>
    obtain ⟨hk, hword⟩ := List.forall_mem_cons.mp hword
    cases cs with
    | nil => simp [spelled?, hk]
    | cons c cs =>
      simp only [List.cons_append, spelled?]
      split
      · rw [ih hword, Option.map_map, Option.map_map]
        rfl
      · rfl

theorem dropReceiver_append_return (cs : List Char) :
    dropReceiver (cs ++ ['\r']) = dropReceiver cs ++ ['\r'] := by
  rw [dropReceiver, dropReceiver, spelled?_append_return sameLetter_return.1]
  cases spelled? receiver cs <;> rfl

theorem keywordAt?_append_return (cs : List Char) :
    keywordAt? (cs ++ ['\r']) = (keywordAt? cs).map fun x => (x.1, x.2 ++ ['\r']) := by
  rw [keywordAt?, keywordAt?, List.map_findSome?]
  congr 1
  funext kind
  exact spelled?_append_return (sameLetter_return.2 kind) cs

/-- What names an element ends before a carriage return, so one more at the end adds nothing to it,
and if all is blank, it is not the last character that may name the element. -/
theorem namingPart?_append_return (tail : List Char) :
    namingPart? (tail ++ ['\r']) = namingPart? tail := by
  cases tail with
  | nil => decide
  | cons b cs =>
    rw [List.cons_append, namingPart?, namingPart?, List.dropWhile_append]
    cases cs.dropWhile isBlank with
    | nil =>
      have hblank : ['\r'].dropWhile isBlank = [] := by decide
      have hend : (!isRowEnd '\r') = false := by decide
      simp [hblank, hend]
    | cons c rest =>
      have hend : ['\r'].takeWhile (fun d => !isRowEnd d) = [] := by decide
      have hnaming : (c :: rest ++ ['\r']).takeWhile (fun d => !isRowEnd d) =
          (c :: rest).takeWhile fun d => !isRowEnd d := by
        rw [List.takeWhile_append, hend, List.append_nil]
        split
        next hall => rw [(List.takeWhile_prefix _).eq_of_length hall]
        next => rfl
      simp only [List.isEmpty_cons, Bool.false_eq_true, if_false, List.cons_append] at hnaming ⊢
      rw [hnaming]

/-- The carriage return belongs to the indentation only of a row that is all blank. -/
theorem indentation_append_return {row : List Char} (h : row.dropWhile isBlank ≠ []) :
    indentation (row ++ ['\r']) = indentation row := by
  unfold indentation
  rw [List.takeWhile_append]
  split
  next hall =>
    refine absurd ?_ h
    have hsplit := List.takeWhile_append_dropWhile (p := isBlank) (l := row)
    rw [(List.takeWhile_prefix _).eq_of_length hall] at hsplit
    exact List.append_cancel_left (hsplit.trans (List.append_nil row).symm)
  next => rfl

theorem KeywordLine.ofRow?_append_return (row : List Char) :
    ofRow? (row ++ ['\r']) = ofRow? row := by
  unfold ofRow?
  rw [List.dropWhile_append]
  cases hrest : row.dropWhile isBlank with
  | nil => rfl
  | cons c rest =>
    have hindent : indentation (row ++ ['\r']) = indentation row :=
      indentation_append_return (by simp [hrest])
    rw [List.isEmpty_cons, if_neg Bool.false_ne_true, dropReceiver_append_return,
      keywordAt?_append_return, hindent]
    cases keywordAt? (dropReceiver (c :: rest)) with
    | none => rfl
    | some x =>
      simp only [Option.map_some, Option.bind_eq_bind, Option.bind_some, namingPart?_append_return]

theorem Opening.ofRow?_append_return (row : List Char) (index : Nat) :
    ofRow? (row ++ ['\r']) index = ofRow? row index := by
  rw [ofRow?, ofRow?, KeywordLine.ofRow?_append_return]

/-! ## Carriage returns before line feeds -/

/-- Some line feeds of a text have a carriage return before them in another. -/
inductive ReturnsAdded : List Char → List Char → Prop where
  | nil : ReturnsAdded [] []
  | kept (c : Char) {cs ds : List Char} : ReturnsAdded cs ds → ReturnsAdded (c :: cs) (c :: ds)
  | added {cs ds : List Char} : ReturnsAdded cs ds → ReturnsAdded ('\n' :: cs) ('\r' :: '\n' :: ds)

def SameButReturn (row row' : List Char) : Prop :=
  row' = row ∨ row' = row ++ ['\r']

theorem pushPiece_sameButReturn {rows rows' : List (List Char)}
    (h : List.Forall₂ SameButReturn rows rows') (c : Char) :
    List.Forall₂ SameButReturn (pushPiece '\n' c rows) (pushPiece '\n' c rows') := by
  unfold pushPiece
  split
  · exact .cons (.inl rfl) h
  · cases h with
    | nil => exact .cons (.inl rfl) .nil
    | cons hrow hrows =>
      refine .cons ?_ hrows
      obtain rfl | rfl := hrow
      · exact .inl rfl
      · exact .inr rfl

theorem ReturnsAdded.rows {cs ds : List Char} (h : ReturnsAdded cs ds) :
    List.Forall₂ SameButReturn (Text.rows cs) (Text.rows ds) := by
  induction h with
  | nil => exact .cons (.inl rfl) .nil
  | kept c _ ih => exact pushPiece_sameButReturn ih c
  | added _ ih => exact .cons (.inr rfl) ih

theorem openings_of_rows {rows rows' : List (List Char)} (h : List.Forall₂ SameButReturn rows rows')
    (start : Nat) :
    (rows'.zipIdx start).filterMap (fun (row, index) => Opening.ofRow? row index) =
      (rows.zipIdx start).filterMap fun (row, index) => Opening.ofRow? row index := by
  induction h generalizing start with
  | nil => rfl
  | @cons row row' _ _ hrow _ ih =>
    have hopening : Opening.ofRow? row' start = Opening.ofRow? row start := by
      obtain rfl | rfl := hrow
      · rfl
      · exact Opening.ofRow?_append_return row start
    simp only [List.zipIdx_cons, List.filterMap_cons, hopening, ih (start + 1)]

theorem parse_of_returnsAdded {text text' : String} (h : ReturnsAdded text.toList text'.toList)
    (rule : NameRule) (file : String) : parse rule text' file = parse rule text file := by
  have hopenings : openings text' = openings text := openings_of_rows h.rows 0
  rw [parse, parse, parseForest, parseForest, hopenings]

/-! ## Reading a file -/

/-- Every carriage return stands before a line feed. -/
def ReturnsEndLines (cs : List Char) : Prop :=
  ∀ i, cs[i]? = some '\r' → cs[i + 1]? = some '\n'

theorem ReturnsEndLines.tail {c : Char} {cs : List Char} (h : ReturnsEndLines (c :: cs)) :
    ReturnsEndLines cs :=
  fun i hi => h (i + 1) hi

/-- Folding the line ends of such a text takes away the carriage returns. -/
theorem returnsAdded_foldNewlines {cs : List Char} (h : ReturnsEndLines cs) :
    ReturnsAdded (foldNewlines cs) cs := by
  fun_induction foldNewlines cs with
  | case1 => exact .nil
  | case2 cs ih => exact .added (ih h.tail.tail)
  | case3 c cs hpair ih =>
    have hc : c ≠ '\r' := by
      rintro rfl
      have hnext : cs[0]? = some '\n' := h 0 rfl
      cases cs with
      | nil => cases hnext
      | cons d cs =>
        cases hnext
        exact hpair cs rfl rfl
    rw [if_neg hc]
    exact .kept c (ih h.tail)

variable {rule : NameRule} {s : Surroundings} {p : FilePath}

theorem parseFile_of_decoded (hnull : p.hasNull = false) {bytes : List UInt8} {cs : List Char}
    (hfile : s.find p = .ok (.file bytes)) (hcs : Utf8.decode bytes = .ok cs)
    (hends : ReturnsEndLines cs) :
    parseFile rule s p = .ok (parse rule (String.ofList cs) p.toString) := by
  have hread : s.readText p = .ok (String.ofList (foldNewlines cs)) := by
    simp [Surroundings.readText, hnull, hfile, hcs]
  have hsame : ReturnsAdded (String.ofList (foldNewlines cs)).toList (String.ofList cs).toList := by
    rw [String.toList_ofList, String.toList_ofList]
    exact returnsAdded_foldNewlines hends
  rw [parseFile, hread]
  exact congrArg Except.ok (parse_of_returnsAdded hsame rule p.toString).symm

/-- A file that is not there or holds no text has a failed outline. -/
theorem parseFile_of_unreadable (hnull : p.hasNull = false)
    (h : ∀ bytes cs, s.find p = .ok (.file bytes) → Utf8.decode bytes ≠ .ok cs) :
    ∃ fault : ReadFault, parseFile rule s p = .ok (.failed fault.message) := by
  unfold parseFile Surroundings.readText
  rw [if_neg (by simp [hnull])]
  cases hfind : s.find p with
  | error trouble => exact ⟨_, rfl⟩
  | ok t =>
    cases t with
    | directory entries => exact ⟨_, rfl⟩
    | file bytes =>
      cases hcs : Utf8.decode bytes with
      | error fault => exact ⟨_, by simp only [hcs]; rfl⟩
      | ok cs => exact absurd hcs (h bytes cs hfind)

theorem parseFile_of_null (hnull : p.hasNull = true) :
    parseFile rule s p = .error .nullInPath := by
  simp [parseFile, Surroundings.readText, hnull]

/-- A text keeps its outline when carriage returns are put before any of its line feeds. A file
that holds the UTF-8 of a text, with carriage returns before line feeds only, has the outline of
this text as it stands, under its path as it is written; if it cannot be read or holds no UTF-8, its
outline is a failed one. Only a path with a null character has neither. -/
theorem outline_of_line_ends (rule : NameRule) (s : Surroundings) (path : String) :
    (∀ text text' file : String, ReturnsAdded text.toList text'.toList →
      parse rule text' file = parse rule text file) ∧
    ((FilePath.ofString path).hasNull = false →
      (∀ text : String, s.find (.ofString path) = .ok (.file (Utf8.encode text.toList)) →
        ReturnsEndLines text.toList →
          parseFile rule s (.ofString path) =
            .ok (parse rule text (FilePath.ofString path).toString)) ∧
      ((∀ text : String, s.find (.ofString path) ≠ .ok (.file (Utf8.encode text.toList))) →
        ∃ fault : ReadFault, parseFile rule s (.ofString path) = .ok (.failed fault.message))) ∧
    ((FilePath.ofString path).hasNull = true →
      parseFile rule s (.ofString path) = .error .nullInPath) := by
  refine ⟨fun text text' file h => parse_of_returnsAdded h rule file, fun hnull => ⟨?_, ?_⟩,
    parseFile_of_null⟩
  · intro text hfile hends
    rw [parseFile_of_decoded hnull hfile (Utf8.decode_eq_ok_iff.mpr rfl) hends,
      String.ofList_toList]
  · intro hno
    refine parseFile_of_unreadable hnull fun bytes cs hfile hcs => hno (String.ofList cs) ?_
    rw [hfile, Utf8.decode_eq_ok_iff.mp hcs, String.toList_ofList]

/-- There is no file at a path with a null character, and no failed outline of it either. -/
theorem no_outline_of_null :
    let s : Surroundings := ⟨.directory [], ⟨.slash, []⟩⟩
    let p := FilePath.ofString "a\x00_spec.rb"
    (∀ t, s.find p ≠ .ok t) ∧ parseFile .standard s p = .error .nullInPath ∧
      ¬ ∃ message, parseFile .standard s p = .ok (.failed message) := by
  intro s p
  have hnull : (FilePath.ofString "a\x00_spec.rb").hasNull = true := by cbv
  have hread : parseFile .standard s p = .error .nullInPath := parseFile_of_null hnull
  refine ⟨fun t h => ?_, hread, fun ⟨message, h⟩ => ?_⟩
  · have hfind : s.find p = .error .notFound := by rfl
    rw [hfind] at h
    cases h
  · rw [hread] at h
    cases h

end SpecSkeleton
