import SpecSkeleton.Record.Check

/-!
# What a check takes

A table is taken for a node just when each of its fields is taken for the part it stands for
(`checkNode_table_iff`). A record is taken for the node it was written for, and what a check takes
is said again by the record of the node, in that record's own spelling (`SameNode`).
-/

namespace SpecSkeleton

namespace Checked

variable {α β γ : Type}

theorem both_eq_ok_iff {x : Checked α} {y : Checked β} {a : α} {b : β} :
    x.both y = .ok (a, b) ↔ x = .ok a ∧ y = .ok b := by
  cases x <;> cases y <;> simp [both]

theorem map_eq_ok_iff {x : Checked α} {f : α → γ} {c : γ} :
    x.map f = .ok c ↔ ∃ a, x = .ok a ∧ f a = c := by
  cases x <;> simp [Except.map]

theorem map_eq_ok_iff_of_leftInverse {x : Checked α} {f : α → γ} {g : γ → α}
    (h : Function.LeftInverse g f) {c : γ} : x.map f = .ok c ↔ x = .ok (g c) ∧ f (g c) = c := by
  rw [map_eq_ok_iff]
  constructor
  · rintro ⟨a, hx, rfl⟩
    rw [h a]
    exact ⟨hx, rfl⟩
  · rintro ⟨hx, hc⟩
    exact ⟨g c, hx, hc⟩

end Checked

/-! ## Fields -/

namespace Fields

variable {fields fields' : Fields} {way : List RecordStep} {key : String}

/-- The items of a field that holds a list; without the field there are none. -/
def items? (fields : Fields) (key : String) : Option (List Value) :=
  match fields.get? key with
  | none => some []
  | some (.list items) => some items
  | some _ => none

theorem required_eq_ok_iff {α : Type} {read : Value → Except RecordTrouble α} {a : α} :
    fields.required way key read = .ok a ↔ ∃ v, fields.get? key = some v ∧ read v = .ok a := by
  unfold required
  cases fields.get? key with
  | none => simp [Checked.fault]
  | some v => cases hread : read v <;> simp [Checked.fault, hread]

/-- Of a field that has to be there only what it is taken for counts. -/
theorem required_congr {α : Type} {read : Value → Except RecordTrouble α}
    (h : (fields.get? key).map read = (fields'.get? key).map read) :
    fields.required way key read = fields'.required way key read := by
  unfold required
  cases hv : fields.get? key <;> cases hv' : fields'.get? key <;> simp_all

end Fields

/-! ## Lists of nodes -/

/-- The nodes of a field that holds a list of them; without the field there are none. -/
def Fields.nodes (fields : Fields) (way : List RecordStep) (key : String) : Checked (List Node) :=
  match fields.get? key with
  | none => .ok []
  | some v => checkNodes (way ++ [.field key]) v

theorem checkRoots_eq (way : List RecordStep) (fields : Fields) :
    checkRoots way fields = fields.nodes way "nodes" := rfl

theorem checkChildren_eq (way : List RecordStep) (fields : Fields) :
    checkChildren way fields = fields.nodes way "children" := by
  induction fields with
  | nil => rfl
  | cons e fields ih =>
    obtain ⟨key, v⟩ := e
    rw [checkChildren, Fields.nodes, Fields.get?, List.lookup_cons]
    by_cases hkey : key = "children"
    · subst hkey
      rfl
    · have hne : ("children" == key) = false := beq_false_of_ne (Ne.symm hkey)
      rw [if_neg hkey, hne, ih]
      rfl

section

variable {fields : Fields} {way : List RecordStep} {key : String} {items : List Value}
  {nodes : List Node}

theorem Fields.nodes_of_items (h : fields.items? key = some items) (way : List RecordStep) :
    fields.nodes way key = checkItems (way ++ [.field key]) 0 items := by
  unfold items? at h
  unfold Fields.nodes
  split at h
  · next hget =>
    cases h
    rw [hget, checkItems]
  · next hget =>
    cases h
    rw [hget]
    simp only [checkNodes]
  · cases h

theorem Fields.nodes_eq_ok_iff : fields.nodes way key = .ok nodes ↔
    ∃ items, fields.items? key = some items ∧
      checkItems (way ++ [.field key]) 0 items = .ok nodes := by
  constructor
  · intro h
    have hitems : ∃ items, fields.items? key = some items := by
      unfold Fields.nodes at h
      unfold items?
      split at h
      · next hget => exact ⟨[], by rw [hget]⟩
      · next v hget =>
        rw [hget]
        cases v <;> simp [checkNodes, Checked.fault] at h ⊢
    obtain ⟨items, hitems⟩ := hitems
    exact ⟨items, hitems, by rw [← Fields.nodes_of_items hitems, h]⟩
  · rintro ⟨items, hitems, hnodes⟩
    rw [Fields.nodes_of_items hitems, hnodes]

/-- Each part of a node is in its field. -/
theorem checkNode_table_iff {kind : Kind} {name file : String} {row : Nat} :
    checkNode way (.table fields) = .ok ⟨kind, name, row, file, nodes⟩ ↔
      fields.required way "kind" Value.toKind = .ok kind ∧
      fields.required way "name" Value.toText = .ok name ∧
      fields.required way "line" Value.toRow = .ok row ∧
      fields.required way "file_path" Value.toText = .ok file ∧
      fields.nodes way "children" = .ok nodes := by
  rw [checkNode, checkChildren_eq]
  simp only [Checked.map_eq_ok_iff, Prod.exists, Checked.both_eq_ok_iff, Node.mk.injEq]
  constructor
  · rintro ⟨_, _, _, _, _, ⟨hkind, hname, hrow, hfile, hnodes⟩, rfl, rfl, rfl, rfl, rfl⟩
    exact ⟨hkind, hname, hrow, hfile, hnodes⟩
  · rintro ⟨hkind, hname, hrow, hfile, hnodes⟩
    exact ⟨_, _, _, _, _, ⟨hkind, hname, hrow, hfile, hnodes⟩, rfl, rfl, rfl, rfl, rfl⟩

theorem exists_table_of_checkNode {v : Value} {n : Node} (h : checkNode way v = .ok n) :
    ∃ fields, v = .table fields := by
  cases v with
  | table fields => exact ⟨fields, rfl⟩
  | _ => simp [checkNode, Checked.fault] at h

theorem checkItems_cons_iff {v : Value} {n : Node} {index : Nat} :
    checkItems way index (v :: items) = .ok (n :: nodes) ↔
      checkNode (way ++ [.item index]) v = .ok n ∧
        checkItems way (index + 1) items = .ok nodes := by
  rw [checkItems]
  simp only [Checked.map_eq_ok_iff, Prod.exists, Checked.both_eq_ok_iff, List.cons.injEq]
  constructor
  · rintro ⟨_, _, h, rfl, rfl⟩
    exact h
  · intro h
    exact ⟨_, _, h, rfl, rfl⟩

end

/-! ## Records -/

theorem Value.toKind_keyword (kind : Kind) : toKind (.text kind.keyword) = .ok kind := by
  rw [toKind, Kind.ofKeyword?_keyword]

theorem Value.toRow_line (row : Nat) : toRow (.int (row + 1)) = .ok row := by
  have hpositive : ¬ ((row : Int) + 1 < 1) := by omega
  simp only [toRow, toInteger, if_neg hpositive, Int.add_sub_cancel, Int.toNat_natCast]

mutual

theorem checkNode_record : (n : Node) → ∀ way, checkNode way n.record = .ok n
  | ⟨kind, name, row, file, children⟩, way => by
    rw [Node.record, checkNode_table_iff]
    refine ⟨?_, ?_, ?_, ?_, ?_⟩
    · exact Fields.required_eq_ok_iff.mpr ⟨_, rfl, Value.toKind_keyword kind⟩
    · exact Fields.required_eq_ok_iff.mpr ⟨_, rfl, rfl⟩
    · exact Fields.required_eq_ok_iff.mpr ⟨_, rfl, Value.toRow_line row⟩
    · exact Fields.required_eq_ok_iff.mpr ⟨_, rfl, rfl⟩
    · exact Fields.nodes_eq_ok_iff.mpr ⟨_, rfl, checkItems_recordsOf children _ _⟩

theorem checkItems_recordsOf : (nodes : List Node) →
    ∀ way index, checkItems way index (recordsOf nodes) = .ok nodes
  | [], way, index => by rw [recordsOf, checkItems]
  | n :: rest, way, index => by
    rw [recordsOf, checkItems_cons_iff]
    exact ⟨checkNode_record n _, checkItems_recordsOf rest way (index + 1)⟩

end

/-- A record is taken for the result it was written for. -/
theorem checkResult_record (r : ParseResult) : checkResult r.record = .ok r := by
  cases r with
  | ok roots =>
    have hroots : checkRoots [.field "ok"] [("status", .text "ok"), ("nodes", roots.record)] =
        .ok roots :=
      (checkRoots_eq _ _).trans
        (Fields.nodes_eq_ok_iff.mpr ⟨_, rfl, checkItems_recordsOf roots _ _⟩)
    exact congrArg (Except.map ParseResult.ok) hroots
  | failed message => rfl

/-! ## Tables that say the same -/

theorem Value.eq_text_of_toText {v : Value} {text : String} (h : v.toText = .ok text) :
    v = .text text := by
  cases v <;> cases h
  rfl

/-- A kind is taken in one spelling only. -/
theorem Value.eq_keyword_of_toKind {v : Value} {kind : Kind} (h : v.toKind = .ok kind) :
    v = .text kind.keyword := by
  cases v with
  | text s =>
    cases hkind : Kind.ofKeyword? s with
    | none =>
      rw [toKind, hkind] at h
      cases h
    | some found =>
      rw [toKind, hkind] at h
      cases h
      rw [Kind.keyword, Kind.letters_of_ofLetters? hkind, String.ofList_toList]
  | _ => cases h

/-- Two tables that say the same node, each in its own spelling of the lines. What they hold beside
the parts of a node, also whether it is skipped, may differ. -/
inductive SameNode : Value → Value → Prop where
  | refl (v : Value) : SameNode v v
  | table {fields fields' : Fields} {items items' : List Value}
      (hkind : fields.get? "kind" = fields'.get? "kind")
      (hname : fields.get? "name" = fields'.get? "name")
      (hline : (fields.get? "line").map Value.toRow = (fields'.get? "line").map Value.toRow)
      (hfile : fields.get? "file_path" = fields'.get? "file_path")
      (hitems : fields.items? "children" = some items)
      (hitems' : fields'.items? "children" = some items')
      (hlength : items.length = items'.length)
      (hsame : ∀ e ∈ items.zip items', SameNode e.1 e.2) :
      SameNode (.table fields) (.table fields')

theorem checkItems_congr {items items' : List Value} (hlength : items.length = items'.length)
    (hsame : ∀ e ∈ items.zip items', ∀ way, checkNode way e.1 = checkNode way e.2)
    (way : List RecordStep) (index : Nat) :
    checkItems way index items = checkItems way index items' := by
  induction items generalizing items' index with
  | nil => rw [List.eq_nil_of_length_eq_zero hlength.symm]
  | cons v items ih =>
    cases items' with
    | nil => cases hlength
    | cons v' items' =>
      obtain ⟨hv, hitems⟩ := List.forall_mem_cons.mp hsame
      rw [checkItems, checkItems, hv, ih (Nat.succ.inj hlength) hitems]

/-- Tables that say the same node come to the same in a check, also if there are faults. -/
theorem SameNode.checkNode_eq {v v' : Value} (h : SameNode v v') (way : List RecordStep) :
    checkNode way v = checkNode way v' := by
  induction h generalizing way with
  | refl v => rfl
  | table hkind hname hline hfile hitems hitems' hlength _ ih =>
    have hchildren := checkItems_congr hlength ih (way ++ [.field "children"]) 0
    rw [checkNode, checkNode, checkChildren_eq, checkChildren_eq, Fields.nodes_of_items hitems,
      Fields.nodes_of_items hitems', hchildren, Fields.required_congr (congrArg _ hkind),
      Fields.required_congr (congrArg _ hname), Fields.required_congr hline,
      Fields.required_congr (congrArg _ hfile)]

/-- Two values that say the same parse result. -/
inductive SameResult : Value → Value → Prop where
  | refl (v : Value) : SameResult v v
  | ok {fields fields' : Fields} {items items' : List Value}
      (hstatus : fields.get? "status" = some (.text "ok"))
      (hstatus' : fields'.get? "status" = some (.text "ok"))
      (hitems : fields.items? "nodes" = some items)
      (hitems' : fields'.items? "nodes" = some items')
      (hlength : items.length = items'.length)
      (hsame : ∀ e ∈ items.zip items', SameNode e.1 e.2) :
      SameResult (.table fields) (.table fields')
  | error {fields fields' : Fields}
      (hstatus : fields.get? "status" = some (.text "error"))
      (hstatus' : fields'.get? "status" = some (.text "error"))
      (herror : fields.get? "error" = fields'.get? "error") :
      SameResult (.table fields) (.table fields')

theorem SameResult.checkResult_eq {v v' : Value} (h : SameResult v v') :
    checkResult v = checkResult v' := by
  cases h with
  | refl => rfl
  | ok hstatus hstatus' hitems hitems' hlength hsame =>
    have hnodes := checkItems_congr hlength (fun e he => (hsame e he).checkNode_eq)
      [.field "ok", .field "nodes"] 0
    simp only [checkResult, hstatus, hstatus', checkRoots_eq, Fields.nodes_of_items hitems,
      Fields.nodes_of_items hitems']
    exact congrArg _ hnodes
  | error hstatus hstatus' herror =>
    simp only [checkResult, hstatus, hstatus', Fields.required_congr (congrArg _ herror)]

mutual

/-- What is taken for a node is said again by the record of the node. -/
theorem sameNode_record : (n : Node) → ∀ {way : List RecordStep} {v : Value},
    checkNode way v = .ok n → SameNode v n.record
  | ⟨kind, name, row, file, children⟩, way, v, h => by
    obtain ⟨fields, rfl⟩ := exists_table_of_checkNode h
    obtain ⟨hkind, hname, hline, hfile, hchildren⟩ := checkNode_table_iff.mp h
    obtain ⟨v, hkind, hv⟩ := Fields.required_eq_ok_iff.mp hkind
    obtain rfl := Value.eq_keyword_of_toKind hv
    obtain ⟨v, hname, hv⟩ := Fields.required_eq_ok_iff.mp hname
    obtain rfl := Value.eq_text_of_toText hv
    obtain ⟨line, hline, hrow⟩ := Fields.required_eq_ok_iff.mp hline
    obtain ⟨v, hfile, hv⟩ := Fields.required_eq_ok_iff.mp hfile
    obtain rfl := Value.eq_text_of_toText hv
    obtain ⟨items, hitems, hnodes⟩ := Fields.nodes_eq_ok_iff.mp hchildren
    obtain ⟨hlength, hsame⟩ := sameNode_recordsOf children hnodes
    rw [Node.record]
    refine .table hkind hname ?_ hfile hitems rfl hlength hsame
    rw [hline, Option.map_some, hrow]
    exact congrArg some (Value.toRow_line row).symm

theorem sameNode_recordsOf : (nodes : List Node) → ∀ {way : List RecordStep} {index : Nat}
    {items : List Value}, checkItems way index items = .ok nodes →
      items.length = (recordsOf nodes).length ∧
        ∀ e ∈ items.zip (recordsOf nodes), SameNode e.1 e.2
  | [], way, index, [], _ => by simp [recordsOf]
  | n :: rest, way, index, v :: items, h => by
    obtain ⟨hv, hitems⟩ := checkItems_cons_iff.mp h
    obtain ⟨hlength, hsame⟩ := sameNode_recordsOf rest hitems
    rw [recordsOf]
    exact ⟨congrArg (· + 1) hlength, List.forall_mem_cons.mpr ⟨sameNode_record n hv, hsame⟩⟩
  | n :: rest, way, index, [], h => by
    rw [checkItems] at h
    cases h
  | [], way, index, v :: items, h => by
    rw [checkItems] at h
    obtain ⟨_, -, h⟩ := Checked.map_eq_ok_iff.mp h
    cases h

end

theorem sameResult_record {v : Value} {r : ParseResult} (h : checkResult v = .ok r) :
    SameResult v r.record := by
  cases v with
  | table fields =>
    simp only [checkResult] at h
    split at h
    · cases h
    · next hstatus =>
      obtain ⟨roots, hroots, rfl⟩ := Checked.map_eq_ok_iff.mp h
      obtain ⟨items, hitems, hnodes⟩ := Fields.nodes_eq_ok_iff.mp hroots
      obtain ⟨hlength, hsame⟩ := sameNode_recordsOf roots hnodes
      exact .ok hstatus rfl hitems rfl hlength hsame
    · next hstatus =>
      obtain ⟨message, herror, rfl⟩ := Checked.map_eq_ok_iff.mp h
      obtain ⟨v, herror, hv⟩ := Fields.required_eq_ok_iff.mp herror
      obtain rfl := Value.eq_text_of_toText hv
      exact .error hstatus rfl herror
    · cases h
  | _ => cases h

end SpecSkeleton
