import SpecSkeleton.Proofs.List.FirstFailure
import SpecSkeleton.Proofs.Outline.History
import SpecSkeleton.Proofs.Outline.Openings

/-!
# What the naming rule can change

The rule that names elements decides whether a parse fails, with the text of the first opening that
it fails on, and it decides the names, but nothing else of a forest (`parseForest_eq_error_iff`,
`parseForest_eq_ok_iff`). `failure_of_rule` takes this on to the outline: a failure is shown without
a forest until a text of the file is parsed.
-/

namespace SpecSkeleton

/-! ## Forests without names -/

mutual

def Node.unnamed : Node → Node
  | ⟨kind, _, row, file, children⟩ => ⟨kind, "", row, file, Forest.unnamed children⟩

/-- The forest in which every name is empty. -/
def Forest.unnamed : List Node → List Node
  | [] => []
  | n :: rest => n.unnamed :: Forest.unnamed rest

end

/-- An entry of a node without its name. -/
def blankName (e : Nat × Node) : Nat × Node :=
  (e.1, { e.2 with name := "" })

namespace Forest

variable {ind : Nat → Nat}

theorem unnamed_cons (n : Node) (rest : List Node) :
    unnamed (n :: rest) =
      { n with name := "", children := unnamed n.children } :: unnamed rest := by
  cases n
  rfl

theorem unnamed_rows (f : List Node) : (unnamed f).map Node.row = f.map Node.row := by
  induction f with
  | nil => rfl
  | cons n rest ih => rw [unnamed_cons, List.map_cons, List.map_cons, ih]

theorem forall_row_unnamed {P : Nat → Prop} (f : List Node) :
    (∀ n ∈ unnamed f, P n.row) ↔ ∀ n ∈ f, P n.row := by
  rw [← List.forall_mem_map (f := Node.row) (P := P), unnamed_rows, List.forall_mem_map]

theorem forall_head_unnamed {P : Nat → Prop} (f : List Node) :
    (∀ n ∈ (unnamed f).head?, P n.row) ↔ ∀ n ∈ f.head?, P n.row := by
  cases f with
  | nil => rfl
  | cons n rest => rw [unnamed_cons]; simp

/-- Names play no part in nesting. -/
theorem nestedBy_unnamed_iff (f : List Node) : NestedBy ind (unnamed f) ↔ NestedBy ind f := by
  induction f using siblings_induct with
  | nil => rfl
  | cons n rest ihc ihr =>
    rw [unnamed_cons, nestedBy_cons, nestedBy_cons, ihr]
    dsimp only
    rw [ihc, forall_row_unnamed (P := fun row => ind n.row < ind row),
      forall_head_unnamed (P := fun row => ind row ≤ ind n.row)]

theorem entries_unnamed (f : List Node) :
    entries ind (unnamed f) = (entries ind f).map blankName := by
  induction f using siblings_induct with
  | nil => rfl
  | cons n rest ihc ihr =>
    rw [unnamed_cons, entries_cons, entries_cons, List.map_cons, List.map_append, ← ihc, ← ihr]
    rfl

theorem names_of_entries (ind : Nat → Nat) (f : List Node) :
    (entries ind f).map (·.2.name) = (Forest.nodes f).map Node.name := by
  rw [entries, List.map_map]
  rfl

end Forest

/-! ## The forest of a text and its names -/

namespace Opening

/-- The entry of an opening that has been given a name. -/
def named (file : String) (o : Opening) (name : String) : Nat × Node :=
  (o.indent, ⟨o.kind, name, o.row, file, []⟩)

theorem node_eq_ok_iff {rule : NameRule} {file : String} {o : Opening} {e : Nat × Node} :
    o.node rule file = .ok e ↔
      rule o.kind o.naming = .ok e.2.name ∧ blankName e = o.named file "" := by
  unfold node
  cases hname : rule o.kind o.naming with
  | error failure => simp [Except.map]
  | ok name =>
    obtain ⟨indent, kind, name', row, file', children⟩ := e
    simp only [Except.map, Except.ok.injEq, Prod.mk.injEq, Node.mk.injEq, blankName, named,
      true_and]
    constructor
    · rintro ⟨rfl, rfl, rfl, rfl, rfl, rfl⟩
      simp
    · rintro ⟨rfl, rfl, rfl, rfl, rfl, rfl⟩
      simp

end Opening

/-- The forest of a text without names. -/
def shapeOf (text file : String) : Forest :=
  Forest.ofIndented ((openings text).map fun o => o.named file "")

section
variable {rule : NameRule} {text file : String} {roots : Forest} {es : List (Nat × Node)}

theorem carry_of_blankName {os : List Opening} {ind : Nat → Nat}
    (hind : ∀ o ∈ os, o.indent = ind o.row)
    (hes : es.map blankName = os.map fun o => o.named file "") : Forest.Carry ind es := by
  intro e he
  have hblank : blankName e ∈ os.map fun o => o.named file "" := hes ▸ List.mem_map_of_mem he
  obtain ⟨o, ho, hsame⟩ := List.mem_map.mp hblank
  have hindent : o.indent = e.1 := congrArg Prod.fst hsame
  have hrow : o.row = e.2.row := congrArg (·.2.row) hsame
  rw [← hindent, ← hrow]
  exact hind o ho

theorem leaf_of_blankName {os : List Opening}
    (hes : es.map blankName = os.map fun o => o.named file "") : ∀ e ∈ es, e.2.leaf = e.2 := by
  intro e he
  have hblank : blankName e ∈ os.map fun o => o.named file "" := hes ▸ List.mem_map_of_mem he
  obtain ⟨o, -, hsame⟩ := List.mem_map.mp hblank
  have hchildren : [] = e.2.children := congrArg (·.2.children) hsame
  obtain ⟨indent, kind, name, row, path, children⟩ := e
  cases hchildren
  rfl

theorem ofIndented_eq_iff_of_blankName
    (hes : es.map blankName = (openings text).map fun o => o.named file "") :
    Forest.ofIndented es = roots ↔
      Forest.NestedBy (rowIndent text) roots ∧ Forest.entries (rowIndent text) roots = es :=
  Forest.ofIndented_eq_iff (carry_of_blankName (fun _ => indent_of_mem_openings) hes)
    (leaf_of_blankName hes)

/-- A forest has the shape of a text just when it is nested and its entries without their names are
those of the openings. -/
theorem unnamed_eq_shapeOf_iff :
    Forest.unnamed roots = shapeOf text file ↔
      Forest.NestedBy (rowIndent text) roots ∧
        (Forest.entries (rowIndent text) roots).map blankName =
          (openings text).map fun o => o.named file "" := by
  have hblank : ((openings text).map fun o => o.named file "").map blankName =
      (openings text).map fun o => o.named file "" := by
    rw [List.map_map]
    rfl
  rw [eq_comm, shapeOf, ofIndented_eq_iff_of_blankName hblank, Forest.nestedBy_unnamed_iff,
    Forest.entries_unnamed]

/-- Along openings, the nodes of a rule are those that have its names. -/
theorem forall₂_node_iff {os : List Opening} :
    List.Forall₂ (fun o e => Opening.node rule file o = .ok e) os es ↔
      List.Forall₂ (fun (o : Opening) name => rule o.kind o.naming = .ok name) os
        (es.map (·.2.name)) ∧ es.map blankName = os.map fun o => o.named file "" := by
  induction os generalizing es with
  | nil => cases es <;> simp
  | cons o os ih =>
    cases es with
    | nil => simp
    | cons e es =>
      rw [List.forall₂_cons, ih, Opening.node_eq_ok_iff, List.map_cons, List.forall₂_cons,
        List.map_cons, List.map_cons, List.cons.injEq]
      exact and_and_and_comm

/-- A parse gives the forest that has the shape of the text and the names of the rule. -/
theorem parseForest_eq_ok_iff :
    parseForest rule text file = .ok roots ↔
      Forest.unnamed roots = shapeOf text file ∧
        List.Forall₂ (fun (o : Opening) name => rule o.kind o.naming = .ok name) (openings text)
          (roots.nodes.map Node.name) := by
  have hforest : parseForest rule text file = .ok roots ↔
      ∃ es, (openings text).mapM (Opening.node rule file) = .ok es ∧
        Forest.ofIndented es = roots := by
    unfold parseForest
    cases (openings text).mapM (Opening.node rule file) <;> simp [Except.map]
  rw [hforest, unnamed_eq_shapeOf_iff, ← Forest.names_of_entries (rowIndent text)]
  constructor
  · rintro ⟨es, hes, hroots⟩
    obtain ⟨hnames, hblank⟩ := forall₂_node_iff.mp (mapM_eq_ok_iff.mp hes)
    obtain ⟨hnested, rfl⟩ := (ofIndented_eq_iff_of_blankName hblank).mp hroots
    exact ⟨⟨hnested, hblank⟩, hnames⟩
  · rintro ⟨⟨hnested, hblank⟩, hnames⟩
    exact ⟨_, mapM_eq_ok_iff.mpr (forall₂_node_iff.mpr ⟨hnames, hblank⟩),
      (ofIndented_eq_iff_of_blankName hblank).mpr ⟨hnested, rfl⟩⟩

/-- A parse fails with the text of the first opening that the rule fails on. -/
theorem parseForest_eq_error_iff {failure : String} :
    parseForest rule text file = .error failure ↔
      FailsFirst (fun o : Opening => rule o.kind o.naming) (openings text) failure := by
  have hforest : parseForest rule text file = .error failure ↔
      (openings text).mapM (Opening.node rule file) = .error failure := by
    unfold parseForest
    cases (openings text).mapM (Opening.node rule file) <;> simp [Except.map]
  rw [hforest, mapM_eq_error_iff]
  exact FailsFirst.map_iff

theorem parse_eq_ok_iff :
    parse rule text file = .ok roots ↔ parseForest rule text file = .ok roots := by
  unfold parse
  cases parseForest rule text file <;> simp

theorem parse_eq_failed_iff {message : String} :
    parse rule text file = .failed message ↔
      ∃ failure, parseForest rule text file = .error failure ∧
        message = if failure = "" then "Unknown parsing error" else failure := by
  unfold parse
  cases parseForest rule text file with
  | ok roots => simp
  | error failure =>
    simp only [ParseResult.failed.injEq, Except.error.injEq, exists_eq_left', unknownFailure,
      String.isEmpty_iff]
    exact eq_comm

end

/-! ## Failures and the outline -/

namespace OutlineState

variable {rule : NameRule} {path text message : String}

theorem ofText_of_failed (h : parse rule text path = .failed message) :
    ofText rule path text = ⟨some path, [], some ("Failed to parse RSpec file: " ++ message)⟩ := by
  rw [ofText, h]

theorem ofText_of_ok {roots : Forest} (h : parse rule text path = .ok roots) :
    ofText rule path text = ⟨some path, roots, none⟩ := by
  rw [ofText, h]

end OutlineState

/-- A text has one shape whatever the rule. If the rule fails on an opening, then the parse fails
with the text of the first such failure; otherwise it gives the forest of this shape that has the
names of the rule. A failed parse of a file that becomes active or changes is shown as an error
without a forest, and a parsed text of this file ends that. -/
theorem failure_of_rule (text file : String) :
    ∃ shape : Forest, ∀ rule : NameRule,
      ((∃ message, parse rule text file = .failed message) ↔
        ∃ o ∈ openings text, ∃ failure, rule o.kind o.naming = .error failure) ∧
      (∀ message, parse rule text file = .failed message ↔
        ∃ failure, FailsFirst (fun o : Opening => rule o.kind o.naming) (openings text) failure ∧
          message = if failure = "" then "Unknown parsing error" else failure) ∧
      (∀ roots, parse rule text file = .ok roots ↔ Forest.unnamed roots = shape ∧
        List.Forall₂ (fun (o : Opening) name => rule o.kind o.naming = .ok name) (openings text)
          (roots.nodes.map Node.name)) ∧
      ∀ message, parse rule text file = .failed message → ∀ (settings : Settings)
        (s : OutlineState),
        let failed : OutlineState :=
          ⟨some file, [], some ("Failed to parse RSpec file: " ++ message)⟩
        (isSpecPath settings.specSuffix file = true →
          s.refresh rule settings (.active (some file) (some text)) = failed) ∧
        (s.file = some file → s.refresh rule settings (.changed file text) = failed) ∧
        ∀ events text' roots, (∀ e ∈ events, e.isActivation = false) →
          parse rule text' file = .ok roots →
            (events ++ [.changed file text']).foldl (OutlineState.refresh rule settings) failed =
              ⟨some file, roots, none⟩ := by
  refine ⟨shapeOf text file, fun rule => ⟨?_, fun message => ?_, fun roots => ?_, ?_⟩⟩
  · rw [← exists_failsFirst_iff (f := fun o : Opening => rule o.kind o.naming)]
    simp only [parse_eq_failed_iff, parseForest_eq_error_iff]
    constructor
    · rintro ⟨-, failure, hfirst, -⟩
      exact ⟨failure, hfirst⟩
    · rintro ⟨failure, hfirst⟩
      exact ⟨_, failure, hfirst, rfl⟩
  · rw [parse_eq_failed_iff]
    simp only [parseForest_eq_error_iff]
  · rw [parse_eq_ok_iff, parseForest_eq_ok_iff]
  · intro message hfailed settings s failed
    have hshown : OutlineState.ofText rule file text = failed :=
      OutlineState.ofText_of_failed hfailed
    refine ⟨fun hspec => ?_, fun hfile => ?_, fun events text' roots hevents hparsed => ?_⟩
    · rw [OutlineState.refresh_active]
      dsimp only
      rw [if_pos hspec]
      exact hshown
    · rw [OutlineState.refresh_changed, if_pos hfile, hshown]
    · rw [List.foldl_append, ← hshown, OutlineState.foldl_refresh_ofText hevents, List.foldl_cons,
        OutlineState.refresh_changed, if_pos (OutlineState.file_ofText _ _ _)]
      exact OutlineState.ofText_of_ok hparsed

/-- The second row fails without a text, after the first has its node. Neither this node nor a
change of another file is shown, but the next text of the file is. -/
theorem failure_of_rule_second_row :
    let rule : NameRule := fun kind _ => if kind = .it then .error "" else .ok "n"
    let failed : OutlineState :=
      ⟨some "a_spec.rb", [], some "Failed to parse RSpec file: Unknown parsing error"⟩
    OutlineState.empty.refresh rule .default
        (.active (some "a_spec.rb") (some "describe 1\n  it 2\n  it 3")) = failed ∧
      [.changed "b_spec.rb" "let 4", .changed "a_spec.rb" "describe 5"].foldl
          (OutlineState.refresh rule .default) failed =
        ⟨some "a_spec.rb", [⟨.describe, "n", 0, "a_spec.rb", []⟩], none⟩ := by
  intro rule failed
  have hopenings : openings "describe 1\n  it 2\n  it 3" =
      [⟨0, .describe, 0, ['1']⟩] ++ ⟨1, .it, 2, ['2']⟩ :: [⟨2, .it, 2, ['3']⟩] := by
    decide +kernel
  have hfirst : FailsFirst (fun o : Opening => rule o.kind o.naming)
      (openings "describe 1\n  it 2\n  it 3") "" :=
    ⟨_, _, _, hopenings, by simp [rule], rfl⟩
  obtain ⟨shape, hrule⟩ := failure_of_rule "describe 1\n  it 2\n  it 3" "a_spec.rb"
  obtain ⟨-, hmessage, -, hshown⟩ := hrule rule
  have hfailed := (hmessage "Unknown parsing error").mpr ⟨"", hfirst, rfl⟩
  obtain ⟨hactive, -, hlater⟩ := hshown _ hfailed .default .empty
  refine ⟨hactive (by decide), ?_⟩
  exact hlater [.changed "b_spec.rb" "let 4"] "describe 5" _ (by decide) (by rfl)

end SpecSkeleton
