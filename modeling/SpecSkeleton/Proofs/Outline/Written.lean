import SpecSkeleton.Proofs.Keyword.QuoteMark
import SpecSkeleton.Proofs.Keyword.Row
import SpecSkeleton.Proofs.Text.Rows

/-!
# Writing a forest and reading it back

A `Sketch` is an element to be written, with those below it. `Sketch.lines` writes it depth first:
two spaces for each level, the keyword and the name between quotes on one line, and an end as far
indented after all that is below it. A text may hold other lines that open nothing anywhere between
them; `parse_written` says that a parse still gives the forest that was written, each node numbered
by its line.
-/

namespace SpecSkeleton

open Text

/-! ## Sketches and their lines -/

/-- A name that can be written between quotes. -/
structure Title where
  chars : List Char
  ne_nil : chars ≠ []
  trimmed : trim chars = chars
  plain : ∀ c ∈ chars, isQuote c = false ∧ isRowEnd c = false

/-- An element to be written. -/
inductive Sketch where
  | mk (kind : Kind) (title : Title) (below : List Sketch)

/-- A row that opens no element. -/
structure FillerRow where
  chars : List Char
  no_feed : '\n' ∉ chars
  opens_none : ∀ i, Opening.ofRow? chars i = none

/-- A line of a text that is written from sketches. -/
inductive SketchLine where
  | opening (depth : Nat) (kind : Kind) (title : Title)
  | closing (depth : Nat)
  | filler (row : FillerRow)

namespace SketchLine

/-- Two spaces for each level. -/
def margin (depth : Nat) : List Char :=
  List.replicate (2 * depth) ' '

/-- What follows the keyword and a space. -/
def quoted (title : Title) : List Char :=
  '"' :: (title.chars ++ ['"', ' ', 'd', 'o'])

def row : SketchLine → List Char
  | opening depth kind title => margin depth ++ (kind.letters ++ ' ' :: quoted title)
  | closing depth => margin depth ++ ['e', 'n', 'd']
  | filler row => row.chars

def isWritten : SketchLine → Bool
  | filler _ => false
  | _ => true

/-- The text of some lines. -/
def text (doc : List SketchLine) : String :=
  String.ofList (['\n'].intercalate (doc.map row))

end SketchLine

mutual

/-- The lines that a sketch is written as. -/
def Sketch.lines (depth : Nat) : Sketch → List SketchLine
  | ⟨kind, title, below⟩ =>
    .opening depth kind title :: (Plan.lines (depth + 1) below ++ [.closing depth])

def Plan.lines (depth : Nat) : List Sketch → List SketchLine
  | [] => []
  | s :: rest => s.lines depth ++ Plan.lines depth rest

end

/-- The name of the node of a title; a hook takes its keyword. -/
def Title.shown (title : Title) (kind : Kind) : String :=
  if kind.isHook then kind.keyword else String.ofList title.chars

mutual

/-- The node is the one sketched, with all below it. -/
def Sketch.Drawn : Sketch → Node → Prop
  | ⟨kind, title, below⟩, n =>
    n.kind = kind ∧ n.name = title.shown kind ∧ Plan.Drawn below n.children

def Plan.Drawn : List Sketch → List Node → Prop
  | [], [] => True
  | s :: rest, n :: f => s.Drawn n ∧ Plan.Drawn rest f
  | _, _ => False

end

/-- A statement about sketches follows from that about what is below a sketch and that about the
sketches after it. -/
theorem Plan.induct {motive : List Sketch → Prop} (nil : motive [])
    (cons : ∀ kind title below rest, motive below → motive rest →
      motive (⟨kind, title, below⟩ :: rest)) : ∀ plan, motive plan
  | [] => nil
  | ⟨kind, title, below⟩ :: rest =>
    cons kind title below rest (Plan.induct nil cons below) (Plan.induct nil cons rest)

/-! ## Reading a line -/

namespace SketchLine

theorem isBlank_of_mem_margin {depth : Nat} : ∀ c ∈ margin depth, isBlank c = true := by
  intro c hc
  rw [List.eq_of_mem_replicate hc]
  decide

theorem letters_eq_cons (kind : Kind) : ∃ c cs, kind.letters = c :: cs ∧ isBlank c = false := by
  cases kind <;> exact ⟨_, _, rfl, by decide⟩

theorem map_toLower_letters (kind : Kind) : kind.letters.map Char.toLower = kind.letters := by
  cases kind <;> decide

theorem not_mem_letters (kind : Kind) : '\n' ∉ kind.letters := by
  cases kind <;> decide

theorem takeWhile_margin {depth : Nat} {c : Char} {cs : List Char} (hc : isBlank c = false) :
    (margin depth ++ c :: cs).takeWhile isBlank = margin depth := by
  rw [List.takeWhile_append_of_pos isBlank_of_mem_margin, List.takeWhile_cons_of_neg (by simp [hc]),
    List.append_nil]

theorem not_mem_row (l : SketchLine) : '\n' ∉ l.row := by
  have hmargin : ∀ depth, '\n' ∉ margin depth := fun depth h =>
    absurd (List.eq_of_mem_replicate h) (by decide)
  cases l with
  | opening depth kind title =>
    have htitle : '\n' ∉ title.chars := fun h => absurd (title.plain _ h).2 (by decide)
    simp [row, quoted, hmargin, htitle, not_mem_letters]
  | closing depth => simp [row, hmargin]
  | filler r => exact r.no_feed

theorem names_quoted (title : Title) : Names (' ' :: quoted title) (quoted title) := by
  have hends : ∀ c ∈ quoted title, (!endsNaming c) = true := by
    intro c hc
    simp only [quoted, List.mem_cons, List.mem_append, List.not_mem_nil, or_false] at hc
    rcases hc with rfl | hc | rfl | rfl | rfl | rfl
    · decide
    · have hend := (title.plain c hc).2
      have hne : c ≠ '\n' := by rintro rfl; cases hend
      rw [← isRowEnd_eq_endsNaming hne, hend]
      rfl
    all_goals decide
  have h : Names ([' '] ++ quoted title) ((quoted title).takeWhile fun d => !endsNaming d) :=
    .shown (by decide) (fun b hb => by rw [List.mem_singleton.mp hb]; decide) (by decide)
  rw [List.takeWhile_eq_self_iff.mpr hends] at h
  exact h

/-- The opening of a line. -/
def opening? (i : Nat) : SketchLine → Option Opening
  | opening depth kind title => some ⟨i, kind, 2 * depth, quoted title⟩
  | _ => none

theorem ofRow?_row (l : SketchLine) (i : Nat) : Opening.ofRow? l.row i = l.opening? i := by
  cases l with
  | opening depth kind title =>
    obtain ⟨c, cs, hletters, hc⟩ := letters_eq_cons kind
    have htake : (row (opening depth kind title)).takeWhile isBlank = margin depth := by
      rw [row, hletters]
      exact takeWhile_margin hc
    have hopens : Opens (row (opening depth kind title)) kind (quoted title) := by
      refine ⟨[], kind.letters, ' ' :: quoted title, ?_, .inl rfl, map_toLower_letters kind,
        names_quoted title⟩
      rw [htake]
      rfl
    rw [ofRow?_of_opens (not_mem_row _) hopens, indentation, htake, margin, List.length_replicate]
    rfl
  | closing depth =>
    have hdrop : (row (closing depth)).dropWhile isBlank = ['e', 'n', 'd'] := by
      rw [row, List.dropWhile_append_of_pos isBlank_of_mem_margin]
      decide
    cases h : Opening.ofRow? (row (closing depth)) i with
    | none => rfl
    | some o =>
      obtain ⟨written, tail, hkeyword, -⟩ := Opening.ofRow?_eq_some_iff.mp h
      have hnone : keywordAt? (dropReceiver ['e', 'n', 'd']) = none := by decide
      rw [hdrop, hnone] at hkeyword
      cases hkeyword
  | filler r => exact r.opens_none i

theorem declaredName_quoted (kind : Kind) (title : Title) :
    declaredName kind (quoted title) = title.shown kind := by
  cases hkind : kind.isHook with
  | true => simp [declaredName, Title.shown, hkind]
  | false =>
    have hplain : ∀ c ∈ title.chars, isQuote c = false := fun c hc => (title.plain c hc).1
    have hmark : isQuote '"' = true := rfl
    have hname := declaredName_of_plain hkind hmark title.ne_nil hplain [' ', 'd', 'o']
    rw [title.trimmed] at hname
    simpa [Title.shown, quoted, hkind] using hname

/-! ## The openings of a text -/

theorem openings_text (doc : List SketchLine) :
    openings (text doc) = doc.zipIdx.filterMap fun l => l.1.opening? l.2 := by
  have hmap : (doc.map row).zipIdx.filterMap (fun r => Opening.ofRow? r.1 r.2) =
      doc.zipIdx.filterMap fun l => l.1.opening? l.2 := by
    rw [List.zipIdx_map, List.filterMap_map]
    congr
    funext l
    exact ofRow?_row l.1 l.2
  unfold openings
  rw [text, String.toList_ofList, ← hmap]
  cases doc with
  | nil => decide
  | cons l doc =>
    have hrows : ∀ r ∈ (l :: doc).map row, '\n' ∉ r := by
      intro r hr
      obtain ⟨l, -, rfl⟩ := List.mem_map.mp hr
      exact not_mem_row l
    rw [rows_intercalate (by simp) hrows]

/-! ## Grouping the lines -/

/-- Indentation, kind and name of the node of a line. -/
def drawn? : SketchLine → Option (Nat × Kind × String)
  | opening depth kind title => some (2 * depth, kind, title.shown kind)
  | _ => none

theorem filterMap_isWritten (doc : List SketchLine) :
    (doc.filter isWritten).filterMap drawn? = doc.filterMap drawn? := by
  rw [List.filterMap_filter]
  congr
  funext l
  cases l <;> rfl

theorem map_entry_openings (doc : List SketchLine) (file : String) :
    ((openings (text doc)).map (Opening.entry file)).map (fun e => (e.1, e.2.kind, e.2.name)) =
      doc.filterMap drawn? := by
  have hdrawn : ∀ l : SketchLine × Nat,
      (l.1.opening? l.2).map (fun o => (o.indent, o.kind, declaredName o.kind o.naming)) =
        drawn? l.1 := by
    rintro ⟨l, i⟩
    cases l with
    | opening depth kind title => simp [opening?, drawn?, declaredName_quoted]
    | closing depth => rfl
    | filler r => rfl
  calc ((openings (text doc)).map (Opening.entry file)).map (fun e => (e.1, e.2.kind, e.2.name))
      = doc.zipIdx.filterMap (fun l => drawn? l.1) := by
        rw [openings_text, List.map_map, List.map_filterMap]
        congr
        funext l
        exact hdrawn l
    _ = (doc.zipIdx.map Prod.fst).filterMap drawn? := by rw [List.filterMap_map]; rfl
    _ = doc.filterMap drawn? := by rw [List.zipIdx_map_fst]

end SketchLine

namespace Plan

/-- No node of a plan is indented less than its outermost ones, and those come first. -/
theorem drawn?_lines (plan : List Sketch) : ∀ depth,
    (∀ x ∈ (lines depth plan).filterMap SketchLine.drawn?, 2 * depth ≤ x.1) ∧
      ∀ x ∈ ((lines depth plan).filterMap SketchLine.drawn?).head?, x.1 = 2 * depth := by
  induction plan using Plan.induct with
  | nil => intro depth; simp [lines]
  | cons kind title below rest ihb ihr =>
    intro depth
    obtain ⟨hb, -⟩ := ihb (depth + 1)
    obtain ⟨hr, -⟩ := ihr depth
    simp only [lines, Sketch.lines, List.cons_append, List.append_assoc, List.nil_append,
      List.filterMap_cons, List.filterMap_append, SketchLine.drawn?]
    refine ⟨?_, by simp⟩
    intro x hx
    rcases List.mem_cons.mp hx with rfl | hx
    · simp
    · rcases List.mem_append.mp hx with hx | hx
      · have := hb x hx
        omega
      · exact hr x hx

theorem drawn_grouped (plan : List Sketch) : ∀ (depth : Nat) (es : List (Nat × Node)),
    es.map (fun e => (e.1, e.2.kind, e.2.name)) = (lines depth plan).filterMap SketchLine.drawn? →
      Drawn plan (grouped es) := by
  induction plan using Plan.induct with
  | nil =>
    intro depth es h
    rw [List.map_eq_nil_iff.mp h, grouped_nil]
    trivial
  | cons kind title below rest ihb ihr =>
    intro depth es h
    simp only [lines, Sketch.lines, List.cons_append, List.append_assoc, List.nil_append,
      List.filterMap_cons, List.filterMap_append, SketchLine.drawn?] at h
    obtain ⟨e, es, rfl, he, h⟩ := List.map_eq_cons_iff.mp h
    obtain ⟨es1, es2, rfl, h1, h2⟩ := List.map_eq_append_iff.mp h
    simp only [Prod.mk.injEq] at he
    obtain ⟨hindent, hkind, hname⟩ := he
    obtain ⟨indent, leaf⟩ := e
    simp only at hindent hkind hname
    subst hindent
    have hinside : ∀ e ∈ es1, 2 * depth < e.1 := by
      intro e he
      have hx := (drawn?_lines below (depth + 1)).1 _ (h1 ▸ List.mem_map_of_mem he)
      simp only at hx
      omega
    have hafter : ∀ e ∈ es2.head?, e.1 ≤ 2 * depth := by
      intro e he
      have hx := (drawn?_lines rest depth).2 (e.1, e.2.kind, e.2.name) (by
        rw [← h2, List.head?_map, Option.mem_def.mp he]
        rfl)
      exact hx.le
    rw [grouped_cons_append leaf hinside hafter]
    exact ⟨⟨hkind, hname, ihb (depth + 1) es1 h1⟩, ihr depth es2 h2⟩

end Plan

/-! ## The forest of a written text -/

/-- The kinds, names and lines of the openings of a text. -/
theorem numbers_openings_text (doc : List SketchLine) :
    (openings (SketchLine.text doc)).map
        (fun o => (o.kind, declaredName o.kind o.naming, o.row + 1)) =
      doc.zipIdx.filterMap fun l => l.1.drawn?.map fun d => (d.2.1, d.2.2, l.2 + 1) := by
  rw [SketchLine.openings_text, List.map_filterMap]
  congr
  funext l
  obtain ⟨l, i⟩ := l
  cases l with
  | opening depth kind title =>
    simp [SketchLine.opening?, SketchLine.drawn?, SketchLine.declaredName_quoted]
  | closing depth => rfl
  | filler r => rfl

/-- A parse of a text that was written from sketches, with lines that open nothing anywhere in it,
gives the forest sketched; its nodes in source order are those of the opening lines, numbered by
them. -/
theorem parse_written (plan : List Sketch) (doc : List SketchLine) (file : String)
    (h : doc.filter SketchLine.isWritten = Plan.lines 0 plan) :
    ∃ roots, parse .standard (SketchLine.text doc) file = .ok roots ∧ Plan.Drawn plan roots ∧
      roots.nodes.map (fun n => (n.kind, n.name, n.line)) =
        doc.zipIdx.filterMap fun l => l.1.drawn?.map fun d => (d.2.1, d.2.2, l.2 + 1) := by
  have hparse := parse_standard (SketchLine.text doc) file
  refine ⟨_, hparse, ?_, ?_⟩
  · rw [ofIndented_eq_grouped]
    refine Plan.drawn_grouped plan 0 _ ?_
    rw [SketchLine.map_entry_openings, ← SketchLine.filterMap_isWritten, h]
  · have hleaves := congrArg (List.map fun n : Node => (n.kind, n.name, n.line))
      (leaves_of_parse hparse)
    rw [List.map_map, List.map_map] at hleaves
    rw [← numbers_openings_text]
    exact hleaves

/-- A group with a hook and an example, written with rows in between that open nothing. -/
theorem parse_written_fillers :
    ∃ (plan : List Sketch) (doc : List SketchLine),
      doc.filter SketchLine.isWritten = Plan.lines 0 plan ∧
        SketchLine.text doc = "# frozen\ndescribe \"A :b\" do\n  let(:a)\n" ++
          "  before \"each\" do\n  end\n\n  xit \"is ſ\" do\n  end\nend" ∧
        ∃ roots, parse .standard (SketchLine.text doc) "a_spec.rb" = .ok roots ∧
          Plan.Drawn plan roots ∧
          roots.nodes.map (fun n => (n.kind, n.name, n.line)) =
            [(.describe, "A :b", 2), (.before, "before", 4), (.xit, "is ſ", 7)] := by
  let group : Title :=
    ⟨['A', ' ', ':', 'b'], by decide, by decide, by simp [isQuote, isRowEnd]⟩
  let hook : Title :=
    ⟨['e', 'a', 'c', 'h'], by decide, by decide, by simp [isQuote, isRowEnd]⟩
  let inner : Title :=
    ⟨['i', 's', ' ', 'ſ'], by decide, by decide, by simp [isQuote, isRowEnd]⟩
  let comment : FillerRow := ⟨"# frozen".toList, by decide, fun i => rfl⟩
  let value : FillerRow := ⟨"  let(:a)".toList, by decide, fun i => rfl⟩
  let gap : FillerRow := ⟨[], by decide, fun i => rfl⟩
  let plan : List Sketch := [⟨.describe, group, [⟨.before, hook, []⟩, ⟨.xit, inner, []⟩]⟩]
  let doc : List SketchLine := [.filler comment, .opening 0 .describe group, .filler value,
    .opening 1 .before hook, .closing 1, .filler gap, .opening 1 .xit inner, .closing 1, .closing 0]
  obtain ⟨roots, hparse, hdrawn, hnumbers⟩ := parse_written plan doc "a_spec.rb" rfl
  exact ⟨plan, doc, rfl, by decide, roots, hparse, hdrawn, hnumbers.trans rfl⟩

end SpecSkeleton
