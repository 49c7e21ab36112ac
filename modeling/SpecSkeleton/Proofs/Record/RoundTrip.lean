import Mathlib
import SpecSkeleton.Command.Show
import SpecSkeleton.Proofs.Outline.Indented
import SpecSkeleton.Proofs.Record.Check
import SpecSkeleton.Proofs.Value.Json
import SpecSkeleton.Session.Request

/-!
# Records read again

What is shown of nodes and parse results is taken back for them, less their indentation: as a
record, as the text that a command prints, and as the payload that an editor is sent
(`records_round_trip`). Only nodes that are not indented come back as they were
(`indentation_not_read`).
-/

namespace SpecSkeleton

/-! ## Whether a node is skipped -/

/-- A record that says of its node that it is skipped just when nodes of its kind are, and so do all
records below it. -/
inductive SkipsByKind : Value → Prop where
  | node {fields : Fields} {kind : Kind} {items : List Value}
      (hkind : fields.get? "kind" = some (.text kind.keyword))
      (hskipped : fields.get? "is_skipped" = some (.bool kind.isSkipped))
      (hitems : fields.items? "children" = some items)
      (h : ∀ v ∈ items, SkipsByKind v) : SkipsByKind (.table fields)

mutual

theorem skipsByKind_record : (n : Node) → SkipsByKind n.record
  | ⟨kind, name, row, file, children⟩ => by
    rw [Node.record]
    exact .node rfl rfl rfl (skipsByKind_recordsOf children)

theorem skipsByKind_recordsOf : (nodes : List Node) → ∀ v ∈ recordsOf nodes, SkipsByKind v
  | [] => by simp [recordsOf]
  | n :: rest => by
    rw [recordsOf]
    exact List.forall_mem_cons.mpr ⟨skipsByKind_record n, skipsByKind_recordsOf rest⟩

end

/-- Also every record in a parse result does. -/
theorem ParseResult.skipsByKind_record (r : ParseResult) : ∃ (fields : Fields) (items : List Value),
    r.record = .table fields ∧ fields.items? "nodes" = some items ∧ ∀ v ∈ items, SkipsByKind v := by
  cases r with
  | ok roots => exact ⟨_, _, rfl, rfl, skipsByKind_recordsOf roots⟩
  | failed message => exact ⟨_, [], rfl, rfl, List.forall_mem_nil _⟩

/-! ## Texts -/

mutual

theorem isJson_record : (n : Node) → Json.IsJson n.record
  | ⟨kind, name, row, file, children⟩ => by
    rw [Node.record]
    refine .table (by simp) ?_
    simp only [List.forall_mem_cons]
    exact ⟨.text _, .text _, .int _, .text _, .list (isJson_recordsOf children), .bool _,
      List.forall_mem_nil _⟩

theorem isJson_recordsOf : (nodes : List Node) → ∀ v ∈ recordsOf nodes, Json.IsJson v
  | [] => by simp [recordsOf]
  | n :: rest => by
    rw [recordsOf]
    exact List.forall_mem_cons.mpr ⟨isJson_record n, isJson_recordsOf rest⟩

end

theorem ParseResult.isJson_record (r : ParseResult) : Json.IsJson r.record := by
  cases r with
  | ok roots =>
    refine .table (by simp) ?_
    simp only [List.forall_mem_cons]
    exact ⟨.text _, .list (isJson_recordsOf roots), List.forall_mem_nil _⟩
  | failed message =>
    refine .table (by simp) ?_
    simp only [List.forall_mem_cons]
    exact ⟨.text _, .text _, List.forall_mem_nil _⟩

theorem OutlineState.isJson_record (s : OutlineState) : Json.IsJson s.record := by
  have htext (text : Option String) : Json.IsJson ((text.map Value.text).getD .null) := by
    cases text with
    | none => exact .null
    | some text => exact .text text
  refine .table (by simp) ?_
  simp only [List.forall_mem_cons]
  exact ⟨htext _, htext _, .list (isJson_recordsOf s.roots), List.forall_mem_nil _⟩

/-! ## Nodes that are read -/

/-- Indentations are not written. -/
def IndentedNode.record (n : IndentedNode) : Value :=
  n.plain.record

def IndentedResult.record (r : IndentedResult) : Value :=
  r.plain.record

/-- What is checked has not been scanned, so that nothing in it is indented. -/
def readNode (way : List RecordStep) (v : Value) : Checked IndentedNode :=
  (checkNode way v).map (Node.indentedBy fun _ => 0)

def readRoots (way : List RecordStep) (fields : Fields) : Checked IndentedForest :=
  (checkRoots way fields).map (Forest.indentedBy fun _ => 0)

def readResult (v : Value) : Checked IndentedResult :=
  (checkResult v).map (ParseResult.indentedBy fun _ => 0)

section

variable {way : List RecordStep} {v : Value}

theorem readRoots_of_check {fields : Fields} {roots : Forest}
    (h : checkRoots way fields = .ok roots) :
    ∃ f, readRoots way fields = .ok f ∧ IndentedForest.plain f = roots := by
  rw [readRoots, h]
  exact ⟨_, rfl, Forest.plain_indentedBy roots⟩

/-- What is read is what is checked, without any indentation. -/
theorem readNode_eq_ok_iff {n : IndentedNode} :
    readNode way v = .ok n ↔ checkNode way v = .ok n.plain ∧ ∀ m ∈ n.subtree, m.indent = 0 :=
  (Checked.map_eq_ok_iff_of_leftInverse Node.plain_indentedBy).trans
    (and_congr_right' n.indentedBy_plain_iff)

theorem readResult_eq_ok_iff {r : IndentedResult} :
    readResult v = .ok r ↔ checkResult v = .ok r.plain ∧ ∀ n ∈ r.nodes, n.indent = 0 :=
  (Checked.map_eq_ok_iff_of_leftInverse (ParseResult.plain_indentedBy _)).trans
    (and_congr_right' r.indentedBy_plain_iff)

end

theorem readNode_record (n : Node) (way : List RecordStep) :
    readNode way n.record = .ok (n.indentedBy fun _ => 0) := by
  rw [readNode, checkNode_record]
  rfl

theorem readResult_record (r : ParseResult) :
    readResult r.record = .ok (r.indentedBy fun _ => 0) := by
  rw [readResult, checkResult_record]
  rfl

/-- Of the record of a node all is read but the indentation. -/
theorem IndentedNode.read_record (n : IndentedNode) (way : List RecordStep) :
    ∃ m, readNode way n.record = .ok m ∧ m.plain = n.plain ∧
      (m = n ↔ ∀ k ∈ n.subtree, k.indent = 0) :=
  ⟨_, readNode_record n.plain way, Node.plain_indentedBy _, n.indentedBy_plain_iff⟩

theorem IndentedResult.read_record (r : IndentedResult) :
    ∃ s, readResult r.record = .ok s ∧ s.plain = r.plain ∧
      (s = r ↔ ∀ n ∈ r.nodes, n.indent = 0) :=
  ⟨_, readResult_record r.plain, ParseResult.plain_indentedBy _ _, r.indentedBy_plain_iff⟩

/-- Of the record of a parse all is read but the indentation, and that too if no opening is
indented. -/
theorem readResult_parseIndented (rule : NameRule) (text file : String) :
    ∃ s, readResult (parseIndented rule text file).record = .ok s ∧
      s.plain = parse rule text file ∧
      (s = parseIndented rule text file ↔ ∀ roots, parse rule text file = .ok roots →
        ∀ o ∈ openings text, o.indent = 0) := by
  obtain ⟨s, hread, hplain, hsame⟩ := (parseIndented rule text file).read_record
  refine ⟨s, hread, hplain.trans (plain_parseIndented rule text file), hsame.trans ?_⟩
  cases hindented : parseIndented rule text file with
  | failed message =>
    have hparse : parse rule text file = .failed message := by
      rw [← plain_parseIndented, hindented]
      rfl
    simp [IndentedResult.nodes, hparse]
  | ok roots =>
    obtain ⟨hparse, hindents⟩ := parseIndented_eq_ok_iff.mp hindented
    -- Whether all are zero is read off the list of indentations, which the openings have too.
    rw [IndentedResult.nodes, hparse, ← List.forall_mem_map (f := IndentedNode.indent)
      (P := fun indent => indent = 0), hindents, List.forall_mem_map]
    simp

/-! ## What is shown -/

/-- What a command prints of a file as JSON text is taken back for the outcome of parsing it. -/
theorem Command.showOutline_read {rule : NameRule} {h : SettingsHost} {settings : Settings}
    {request : ShowRequest} {r : ParseResult} (hjson : request.asJson = true)
    (hspec : isSpecPath settings.specSuffix request.path.toString = true)
    (hparse : parseFile rule h.toSurroundings request.path = .ok r) :
    ∃ text v s, (showOutline rule h (.ok settings) request).output = .text text ∧
      Json.read text = some v ∧ readResult v = .ok s ∧ s.plain = r := by
  refine ⟨Outcome.line r.record.json, r.record, _, ?_, ?_, readResult_record r,
    ParseResult.plain_indentedBy _ r⟩
  · simp only [showOutline, withSettings, requiringSpecFile, hspec, if_true, hparse, shownOutcome,
      hjson, Outcome.logging]
  · exact Json.read_json r.isJson_record (by simp [Json.isGap])

/-- What an editor is sent of a state holds the roots of the state, its file and its error. -/
theorem OutlineState.record_read (s : OutlineState) :
    ∃ fields : Fields, Json.read s.record.json = some (.table fields) ∧
      (∀ way, ∃ f, readRoots way fields = .ok f ∧ IndentedForest.plain f = s.roots) ∧
      fields.get? "file" = some ((s.file.map .text).getD .null) ∧
      fields.get? "error" = some ((s.error.map .text).getD .null) := by
  refine ⟨[("file", (s.file.map .text).getD .null), ("error", (s.error.map .text).getD .null),
    ("nodes", s.roots.record)], ?_, fun way => ?_, rfl, rfl⟩
  · rw [← String.append_empty (s := s.record.json)]
    exact Json.read_json s.isJson_record (by simp)
  · exact readRoots_of_check ((checkRoots_eq way _).trans
      (Fields.nodes_eq_ok_iff.mpr ⟨_, rfl, checkItems_recordsOf s.roots _ _⟩))

/-- What an editor is sent of a text holds the roots of the text, or says why there are none. -/
theorem OutlineState.record_ofText_read (rule : NameRule) (path text : String) :
    ∃ fields : Fields, Json.read (ofText rule path text).record.json = some (.table fields) ∧
      fields.get? "file" = some (.text path) ∧
      match parse rule text path with
      | .ok roots =>
          (∀ way, ∃ f, readRoots way fields = .ok f ∧ IndentedForest.plain f = roots) ∧
            fields.get? "error" = some .null
      | .failed message =>
          (∀ way, ∃ f, readRoots way fields = .ok f ∧ IndentedForest.plain f = []) ∧
            fields.get? "error" = some (.text ("Failed to parse RSpec file: " ++ message)) := by
  obtain ⟨fields, hread, hroots, hfile, herror⟩ := (ofText rule path text).record_read
  refine ⟨fields, hread, ?_⟩
  unfold ofText at hroots hfile herror
  cases hparse : parse rule text path with
  | ok roots =>
    rw [hparse] at hroots hfile herror
    exact ⟨hfile, hroots, herror⟩
  | failed message =>
    rw [hparse] at hroots hfile herror
    exact ⟨hfile, hroots, herror⟩

/-! ## The trips -/

/-- Every node and every parse result comes back from its record in all but the indentation, and is
the same just if nothing in it is indented. Whatever is read as a node or a parse result has no
indentation. It is said again by the record of that, which is read as the same: the record gives
every line as a number and says of each node, at every depth, that it is skipped just when nodes of
its kind are. Tables that say the same node in another spelling of the lines, or with other fields
beside those of a node, are read alike, and so are tables that say the same parse result. The
outcome of parsing a text comes back as it was just if no opening is indented. What a command prints
of a file as JSON text is read as the outcome of parsing the file, and what an editor is sent of a
text has the outcome of parsing the text. -/
theorem records_round_trip :
    (∀ (n : IndentedNode) way, (∃ m, readNode way n.record = .ok m ∧ m.plain = n.plain ∧
      (m = n ↔ ∀ k ∈ n.subtree, k.indent = 0)) ∧ SkipsByKind n.record) ∧
    (∀ r : IndentedResult, (∃ s, readResult r.record = .ok s ∧ s.plain = r.plain ∧
      (s = r ↔ ∀ n ∈ r.nodes, n.indent = 0)) ∧ ∃ (fields : Fields) (items : List Value),
        r.record = .table fields ∧ fields.items? "nodes" = some items ∧
          ∀ v ∈ items, SkipsByKind v) ∧
    (∀ v way n, readNode way v = .ok n →
      (∀ k ∈ n.subtree, k.indent = 0) ∧ SameNode v n.record ∧ readNode way n.record = .ok n) ∧
    (∀ v r, readResult v = .ok r →
      (∀ n ∈ r.nodes, n.indent = 0) ∧ SameResult v r.record ∧ readResult r.record = .ok r) ∧
    (∀ v v' way, SameNode v v' → readNode way v = readNode way v') ∧
    (∀ v v', SameResult v v' → readResult v = readResult v') ∧
    (∀ (rule : NameRule) (text path : String), ∃ s,
      readResult (parseIndented rule text path).record = .ok s ∧ s.plain = parse rule text path ∧
      (s = parseIndented rule text path ↔ ∀ roots, parse rule text path = .ok roots →
        ∀ o ∈ openings text, o.indent = 0)) ∧
    (∀ (rule : NameRule) (h : SettingsHost) (settings : Settings) (request : Command.ShowRequest)
      (r : ParseResult), request.asJson = true →
      isSpecPath settings.specSuffix request.path.toString = true →
      parseFile rule h.toSurroundings request.path = .ok r →
        ∃ text v s, (Command.showOutline rule h (.ok settings) request).output = .text text ∧
          Json.read text = some v ∧ readResult v = .ok s ∧ s.plain = r) ∧
    ∀ (rule : NameRule) (path text : String), ∃ fields : Fields,
      Json.read (OutlineState.ofText rule path text).record.json = some (.table fields) ∧
      fields.get? "file" = some (.text path) ∧
      match parse rule text path with
      | .ok roots =>
          (∀ way, ∃ f, readRoots way fields = .ok f ∧ IndentedForest.plain f = roots) ∧
            fields.get? "error" = some .null
      | .failed message =>
          (∀ way, ∃ f, readRoots way fields = .ok f ∧ IndentedForest.plain f = []) ∧
            fields.get? "error" = some (.text ("Failed to parse RSpec file: " ++ message)) := by
  refine ⟨fun n way => ⟨n.read_record way, skipsByKind_record n.plain⟩,
    fun r => ⟨r.read_record, r.plain.skipsByKind_record⟩, ?_, ?_, ?_, ?_,
    readResult_parseIndented, fun _ _ _ _ _ => Command.showOutline_read,
    OutlineState.record_ofText_read⟩
  · intro v way n h
    obtain ⟨hcheck, hflat⟩ := readNode_eq_ok_iff.mp h
    exact ⟨hflat, sameNode_record n.plain hcheck,
      readNode_eq_ok_iff.mpr ⟨checkNode_record n.plain way, hflat⟩⟩
  · intro v r h
    obtain ⟨hcheck, hflat⟩ := readResult_eq_ok_iff.mp h
    exact ⟨hflat, sameResult_record hcheck,
      readResult_eq_ok_iff.mpr ⟨checkResult_record r.plain, hflat⟩⟩
  · intro v v' way h
    rw [readNode, readNode, h.checkNode_eq way]
  · intro v v' h
    rw [readResult, readResult, h.checkResult_eq]

/-- A skipped example comes with its line as a padded text, a mark that it is not skipped, and one
more field; below it is an example whose line is a truth value. So it comes alone and as the root of
a parse result. A file of one skipped example is shown as JSON text. -/
theorem records_round_trip_respelled :
    let v : Value := .table [("is_skipped", .bool false), ("kind", .text "xit"),
      ("name", .text "a"), ("line", .text " +07 "), ("file_path", .text "a_spec.rb"),
      ("children", .list [.table [("kind", .text "it"), ("name", .text "b"), ("line", .bool true),
        ("file_path", .text "a_spec.rb")]]), ("note", .null)]
    let n : IndentedNode := ⟨0, .xit, "a", 6, "a_spec.rb", [⟨0, .it, "b", 0, "a_spec.rb", []⟩]⟩
    let w : Value := .table [("nodes", .list [v]), ("status", .text "ok")]
    let h : SettingsHost := {
      tree := .directory [("a_spec.rb", .file "xit 'a' do".toUTF8.toList)]
      directory := ⟨.slash, []⟩
      override := none
      readToml := fun _ => .ok [] }
    let request : Command.ShowRequest := ⟨⟨.relative, ["a_spec.rb"]⟩, true, none, none⟩
    (readNode [] v = .ok n ∧ SameNode v n.record ∧ readNode [] n.record = .ok n) ∧
      readNode [.item 0] v = readNode [.item 0] n.record ∧
      (readResult w = .ok (.ok [n]) ∧ SameResult w (IndentedResult.ok [n]).record) ∧
      readResult w = readResult (IndentedResult.ok [n]).record ∧
      ∃ text v s, (Command.showOutline .standard h (.ok {}) request).output = .text text ∧
        Json.read text = some v ∧ readResult v = .ok s ∧
        s.plain = .ok [⟨.xit, "a", 0, "a_spec.rb", []⟩] := by
  intro v n w h request
  have hnode : readNode [] v = .ok n := by cbv
  have hresult : readResult w = .ok (.ok [n]) := by cbv
  have hspec : isSpecPath ({} : Settings).specSuffix request.path.toString = true := by cbv
  have hparse : parseFile .standard h.toSurroundings request.path =
      .ok (.ok [⟨.xit, "a", 0, "a_spec.rb", []⟩]) := by cbv
  obtain ⟨-, -, hagain, hresults, halike, hresultsAlike, -, hshown, -⟩ := records_round_trip
  obtain ⟨-, hsame, hrecord⟩ := hagain v [] n hnode
  obtain ⟨-, hsameResult, -⟩ := hresults w _ hresult
  exact ⟨⟨hnode, hsame, hrecord⟩, halike _ _ _ hsame, ⟨hresult, hsameResult⟩,
    hresultsAlike _ _ hsameResult, hshown .standard h {} request _ rfl hspec hparse⟩

/-- An example that is indented by two blanks is read without them. -/
theorem indentation_not_read :
    let r := parseIndented .standard "describe 'A' do\n  it 'b' do\n" "a_spec.rb"
    r = .ok [⟨0, .describe, "A", 0, "a_spec.rb", [⟨2, .it, "b", 1, "a_spec.rb", []⟩]⟩] ∧
      readResult r.record =
        .ok (.ok [⟨0, .describe, "A", 0, "a_spec.rb", [⟨0, .it, "b", 1, "a_spec.rb", []⟩]⟩]) ∧
      readResult r.record ≠ .ok r := by
  have hparse : parseIndented .standard "describe 'A' do\n  it 'b' do\n" "a_spec.rb" =
      .ok [⟨0, .describe, "A", 0, "a_spec.rb", [⟨2, .it, "b", 1, "a_spec.rb", []⟩]⟩] := by cbv
  have hread := readResult_record
    (.ok [⟨.describe, "A", 0, "a_spec.rb", [⟨.it, "b", 1, "a_spec.rb", []⟩]⟩])
  rw [hparse]
  refine ⟨rfl, hread, fun hequal => ?_⟩
  have hsame := hread.symm.trans hequal
  simp [ParseResult.indentedBy, Forest.indentedBy, Node.indentedBy] at hsame

end SpecSkeleton
