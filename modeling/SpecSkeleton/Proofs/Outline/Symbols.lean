import SpecSkeleton.Proofs.Keyword.Name
import SpecSkeleton.Proofs.Keyword.Row
import SpecSkeleton.Proofs.Outline.Visible
import SpecSkeleton.Proofs.Text.Rows

/-!
# Symbols inside their text

A symbol's range is as long as the name of its node, not as its row. It lies inside the row all the
same: the name is taken from the row behind its keyword, or it is the keyword of a hook, which the
row spells out. `symbols_of_text` says so of every symbol of a text, with what an editor asks of
names and of the order of symbols.
-/

namespace SpecSkeleton

open Text

namespace DocumentSymbol

/-- A place in a text: a row and a character of it, both counted from zero. -/
structure Place where
  line : Nat
  character : Nat
  deriving DecidableEq, Repr

structure Range where
  start : Place
  stop : Place
  deriving DecidableEq, Repr

/-- The range that is sent for a symbol. -/
def range (d : DocumentSymbol) : Range :=
  ⟨⟨d.row, 0⟩, ⟨d.row, d.stop⟩⟩

/-- The range that is selected when the symbol is picked, which is all of it. -/
def selectionRange (d : DocumentSymbol) : Range :=
  d.range

/-- A symbol that an editor can show for a text of the given rows. -/
structure Fits (rows : List (List Char)) (d : DocumentSymbol) : Prop where
  named : d.name ≠ ""
  trimmed : Trimmed d.name.toList
  oneLine : ∀ c ∈ d.name.toList, isRowEnd c = false
  selection : d.selectionRange = d.range
  start : d.range.start.character = 0
  sameRow : d.range.stop.line = d.range.start.line
  inside : ∃ row, rows[d.range.start.line]? = some row ∧ d.range.stop.character ≤ row.length

end DocumentSymbol

/-! ## The name in its row -/

theorem isRowEnd_letters (kind : Kind) : ∀ c ∈ kind.letters, isRowEnd c = false := by
  intro c hc
  by_contra hend
  have hblank := isBlank_of_isRowEnd (Bool.not_eq_false _ ▸ hend)
  rw [solid_letters kind c hc] at hblank
  cases hblank

variable {row naming : List Char} {kind : Kind}

/-- The name of an element is no longer than the row that opens it, and ends no row. -/
theorem Opens.name_within (hn : '\n' ∉ row) (h : Opens row kind naming) :
    (declaredName kind naming).length ≤ row.length ∧
      ∀ c ∈ (declaredName kind naming).toList, isRowEnd c = false := by
  obtain ⟨r, written, tail, hrow, -, hwritten, hnames⟩ := h
  obtain ⟨-, hname⟩ := declaredName_spec kind naming
  have hkeyword : kind.letters.length = written.length := by rw [← hwritten, List.length_map]
  have hlength : row.length =
      (row.takeWhile isBlank).length + (r.length + (written.length + tail.length)) := by
    have h := congrArg List.length hrow
    simpa using h
  rw [← String.length_toList]
  split at hname
  · have hle := hname.length_le
    exact ⟨by omega, fun c hc => isRowEnd_letters kind c (hname.subset hc)⟩
  · obtain ⟨htail, hends⟩ := hnames.within
    have hle := (hname.trans htail).length_le
    refine ⟨by omega, fun c hc => ?_⟩
    have hc := hname.subset hc
    have hne : c ≠ '\n' := by
      rintro rfl
      exact hn (hrow ▸ by simp [htail.subset hc])
    rw [isRowEnd_eq_endsNaming hne]
    exact hends c hc

/-! ## The symbol of a node -/

theorem Node.symbol_leaf (n : Node) : n.leaf.symbol = n.symbol := by
  cases n
  rfl

theorem keyword_ne_empty (kind : Kind) : kind.keyword ≠ "" := by
  cases kind <;> decide

/-- The symbol of an opening has the declared name, or the keyword where that is empty. -/
theorem Opening.symbol_name {o : Opening} {row : List Char} (hn : '\n' ∉ row)
    (h : Opens row o.kind o.naming) (file : String) :
    (o.leaf file).symbol.name ≠ "" ∧ Trimmed (o.leaf file).symbol.name.toList ∧
      ∀ c ∈ (o.leaf file).symbol.name.toList, isRowEnd c = false := by
  have hname : (o.leaf file).symbol.name =
      if (declaredName o.kind o.naming).isEmpty then o.kind.keyword
      else declaredName o.kind o.naming := rfl
  rw [hname]
  split
  · have hletters : o.kind.keyword.toList = o.kind.letters := String.toList_ofList
    rw [hletters]
    exact ⟨keyword_ne_empty o.kind, trimmed_letters o.kind, isRowEnd_letters o.kind⟩
  · rename_i hne
    exact ⟨fun h => hne (String.isEmpty_iff.mpr h), (declaredName_spec o.kind o.naming).1,
      (h.name_within hn).2⟩

theorem Opening.symbol_fits {text : String} {o : Opening} (ho : o ∈ openings text) (file : String) :
    (o.leaf file).symbol.Fits (rows text.toList) := by
  obtain ⟨row, hrow, hopening⟩ := mem_openings.mp ho
  have hn := not_mem_of_mem_rows (List.mem_of_getElem? hrow)
  have hopens := opens_of_ofRow? hn hopening
  obtain ⟨hnamed, htrimmed, hends⟩ := Opening.symbol_name hn hopens file
  exact {
    named := hnamed
    trimmed := htrimmed
    oneLine := hends
    selection := rfl
    start := rfl
    sameRow := rfl
    inside := ⟨row, hrow, (hopens.name_within hn).1⟩ }

/-! ## The symbols of a text -/

variable {s : Settings} {text file : String} {roots : Forest}

/-- What is shown is part of the forest, in its order. -/
theorem Forest.shown_sublist (s : Settings) (f : Forest) :
    ((f.shown s).map Prod.snd).Sublist f.nodes := by
  have h := (List.filter_sublist (p := fun e => f.isShown s e.1) (l := f.walk [])).map Prod.snd
  rw [walk_snd] at h
  rwa [shown, List.map_map]

theorem exists_leaf_of_shown (h : parse .standard text file = .ok roots) {e : Nat × Node}
    (he : e ∈ roots.shown s) : ∃ o ∈ openings text, o.leaf file = e.2.leaf := by
  have hnode := (Forest.shown_sublist s roots).subset (List.mem_map_of_mem he)
  have hleaf := List.mem_map_of_mem (f := Node.leaf) hnode
  rw [leaves_of_parse h] at hleaf
  exact List.mem_map.mp hleaf

theorem symbol_fits_of_shown (h : parse .standard text file = .ok roots) {e : Nat × Node}
    (he : e ∈ roots.shown s) : e.2.symbol.Fits (rows text.toList) := by
  obtain ⟨o, ho, hleaf⟩ := exists_leaf_of_shown h he
  rw [← Node.symbol_leaf, ← hleaf]
  exact Opening.symbol_fits ho file

/-- Shown nodes come in the order of their rows, and no row has two. -/
theorem shown_pairwise (h : parse .standard text file = .ok roots) :
    (roots.shown s).Pairwise fun a b => a.2.row < b.2.row := by
  have hrows : roots.nodes.Pairwise fun a b => a.row < b.row := by
    rw [← List.pairwise_map (f := Node.row) (R := (· < ·)), rows_of_leaves (leaves_of_parse h)]
    exact List.pairwise_map.mpr (openings_pairwise text)
  have hshown := hrows.sublist (Forest.shown_sublist s roots)
  rwa [List.pairwise_map] at hshown

/-- In a text that is short enough nothing stands too far down or has too long a name. -/
theorem writable_of_shown (h : parse .standard text file = .ok roots)
    (hlength : text.length ≤ lastPosition) {e : Nat × Node} (he : e ∈ roots.shown s) :
    e.2.row ≤ lastPosition ∧ e.2.name.length ≤ lastPosition := by
  obtain ⟨row, hrow, hstop⟩ := (symbol_fits_of_shown h he).inside
  have hcount := (List.getElem?_eq_some_iff.mp hrow).1
  have hrows := length_rows_le text.toList
  have hrowLength := (sublist_of_mem_rows (List.mem_of_getElem? hrow)).length_le
  rw [String.length_toList] at hrows hrowLength
  have hcount : e.2.row < (rows text.toList).length := hcount
  have hstop : e.2.name.length ≤ row.length := hstop
  omega

/-- Every symbol of a text has a name that an editor can show and a range inside a row of the text,
the symbols come in the order of their rows with no row twice, and a text that is not too long for
the numbers of the protocol has its symbols. -/
theorem symbols_of_text (s : Settings) (text file : String) :
    ∃ roots, parse .standard text file = .ok roots ∧
      (∀ symbols, roots.writtenSymbols s = .ok symbols →
        (∀ e ∈ DocumentSymbol.listing 0 symbols, e.2.Fits (rows text.toList)) ∧
        (DocumentSymbol.listing 0 symbols).Pairwise fun a b =>
          a.2.range.start.line < b.2.range.start.line) ∧
      (text.length ≤ lastPosition → ∃ symbols, roots.writtenSymbols s = .ok symbols) := by
  have hparse := parse_standard text file
  refine ⟨_, hparse, ?_, ?_⟩
  · intro symbols hsymbols
    obtain ⟨-, rfl⟩ := Forest.writtenSymbols_eq_ok_iff.mp hsymbols
    rw [Forest.listing_symbols]
    constructor
    · intro e he
      obtain ⟨shown, hshown, rfl⟩ := List.mem_map.mp he
      exact symbol_fits_of_shown hparse hshown
    · exact List.pairwise_map.mpr (shown_pairwise hparse)
  · intro hlength
    refine ⟨_, Forest.writtenSymbols_eq_ok_iff.mpr ⟨?_, rfl⟩⟩
    exact Forest.rowFault?_eq_none_iff.mpr fun e he => writable_of_shown hparse hlength he

/-- A blank name gives way to the keyword, and what is nested in a hidden hook has no symbol. -/
theorem symbols_of_text_blank_name :
    let text := "describe '  ' do\n  before :each do\n    it 'hidden' do\n  let 'x' do\n"
    ∃ roots symbols, parse .standard text "a_spec.rb" = .ok roots ∧
      roots.writtenSymbols { showHooks := false } = .ok symbols ∧
      (∀ e ∈ DocumentSymbol.listing 0 symbols, e.2.Fits (rows text.toList)) ∧
      (DocumentSymbol.listing 0 symbols).map (fun e => (e.2.name, e.2.range)) =
        [("describe", ⟨⟨0, 0⟩, ⟨0, 0⟩⟩), ("x", ⟨⟨3, 0⟩, ⟨3, 1⟩⟩)] := by
  intro text
  obtain ⟨roots, hparse, hfits, hwritten⟩ :=
    symbols_of_text { showHooks := false } text "a_spec.rb"
  obtain ⟨symbols, hsymbols⟩ := hwritten (by decide)
  refine ⟨roots, symbols, hparse, hsymbols, (hfits symbols hsymbols).1, ?_⟩
  obtain ⟨-, rfl⟩ := Forest.writtenSymbols_eq_ok_iff.mp hsymbols
  rw [Forest.listing_symbols, eq_of_parse hparse]
  decide +kernel

end SpecSkeleton
