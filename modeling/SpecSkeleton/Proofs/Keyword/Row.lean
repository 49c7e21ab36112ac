import Mathlib.Data.List.TakeWhile
import SpecSkeleton.Proofs.Keyword.Search
import SpecSkeleton.Proofs.Outline.Openings

/-!
# The rows that open an element

`Opens row kind naming` says how a row is made that opens an element: blanks, perhaps a receiver, a
keyword in plain letters, and a tail that names it. `opens_iff` says that these rows, and no others,
are the openings of a text, though the search for them has to give back what it took too much.
-/

namespace SpecSkeleton

open Text

/-! ## The parts of a row -/

/-- The characters before which a naming part ends. -/
def endsNaming (c : Char) : Bool :=
  c == '\r' || c == '\u2028' || c == '\u2029'

/-- The naming part of what follows a keyword. If all of that is blank, it is the last character
that ends no naming part, but never the first of all. -/
inductive Names : List Char → List Char → Prop where
  | shown {gap rest : List Char} {c : Char} : gap ≠ [] → (∀ b ∈ gap, isBlank b = true) →
      isBlank c = false →
      Names (gap ++ c :: rest) ((c :: rest).takeWhile fun d => !endsNaming d)
  | blank {gap ends : List Char} {b c : Char} : isBlank b = true →
      (∀ d ∈ gap, isBlank d = true) → isBlank c = true → endsNaming c = false →
      (∀ d ∈ ends, endsNaming d = true) → Names (b :: (gap ++ c :: ends)) [c]

/-- A receiver in letters of either case, or none; a long s is an s. -/
def IsReceiver (r : List Char) : Prop :=
  r = [] ∨ r.map (fun c => if c = 'ſ' then 's' else c.toLower) = receiver

/-- How a row is made that opens an element. -/
def Opens (row : List Char) (kind : Kind) (naming : List Char) : Prop :=
  ∃ r written tail, row = row.takeWhile isBlank ++ (r ++ (written ++ tail)) ∧ IsReceiver r ∧
    written.map Char.toLower = kind.letters ∧ Names tail naming

/-! ## The naming part -/

theorem isRowEnd_eq_endsNaming {c : Char} (h : c ≠ '\n') : isRowEnd c = endsNaming c := by
  have hn : (c == '\n') = false := beq_false_of_ne h
  simp only [isRowEnd, endsNaming, hn, Bool.or_false]

theorem takeWhile_isRowEnd {cs : List Char} (h : '\n' ∉ cs) :
    (cs.takeWhile fun d => !isRowEnd d) = cs.takeWhile fun d => !endsNaming d := by
  induction cs with
  | nil => rfl
  | cons c cs ih =>
    have hc : c ≠ '\n' := fun hc => h (hc ▸ List.mem_cons_self ..)
    have hcs : '\n' ∉ cs := fun hm => h (List.mem_cons_of_mem _ hm)
    rw [List.takeWhile_cons, List.takeWhile_cons, ih hcs, isRowEnd_eq_endsNaming hc]

theorem isBlank_of_endsNaming {c : Char} (h : endsNaming c = true) : isBlank c = true := by
  simp only [endsNaming, Bool.or_eq_true, beq_iff_eq] at h
  rcases h with (rfl | rfl) | rfl <;> decide

/-- Behind a blank, a text of blanks is named by the last of them that ends no row. -/
theorem names_of_find? {b c : Char} {cs : List Char} (hb : isBlank b = true)
    (hblank : ∀ d ∈ cs, isBlank d = true) (hn : '\n' ∉ cs)
    (h : cs.reverse.find? (fun d => !isRowEnd d) = some c) : Names (b :: cs) [c] := by
  obtain ⟨hend, before, after, heq, hbefore⟩ := List.find?_eq_some_iff_append.mp h
  have hsplit : cs = after.reverse ++ c :: before.reverse := by
    rw [← List.reverse_reverse cs, heq]
    simp
  subst hsplit
  have hne : ∀ d ∈ after.reverse ++ c :: before.reverse, d ≠ '\n' := fun d hd he => hn (he ▸ hd)
  refine .blank hb (fun d hd => hblank d (List.mem_append_left _ hd)) (hblank c (by simp)) ?_ ?_
  · rw [← isRowEnd_eq_endsNaming (hne c (by simp))]
    simpa using hend
  · intro d hd
    rw [← isRowEnd_eq_endsNaming (hne d (by simp_all))]
    simpa using hbefore d (List.mem_reverse.mp hd)

/-- Behind a blank, any other text is named from its first character that is none. -/
theorem names_of_dropWhile {b c : Char} {cs rest : List Char} (hb : isBlank b = true)
    (hn : '\n' ∉ cs) (h : cs.dropWhile isBlank = c :: rest) :
    Names (b :: cs) ((c :: rest).takeWhile fun d => !isRowEnd d) := by
  have hsplit : cs = cs.takeWhile isBlank ++ c :: rest := by
    rw [← h, List.takeWhile_append_dropWhile]
  have hc : isBlank c = false := by
    have hstop := List.head?_dropWhile_not isBlank cs
    rw [h] at hstop
    exact hstop
  have hrest : '\n' ∉ c :: rest := fun hm => hn (hsplit ▸ List.mem_append_right _ hm)
  rw [takeWhile_isRowEnd hrest, hsplit, ← List.cons_append]
  refine .shown (List.cons_ne_nil _ _) (fun d hd => ?_) hc
  rcases List.mem_cons.mp hd with rfl | hd
  · exact hb
  · exact List.all_eq_true.mp List.all_takeWhile d hd

theorem names_of_namingPart? {tail naming : List Char} (hn : '\n' ∉ tail)
    (h : namingPart? tail = some naming) : Names tail naming := by
  cases tail with
  | nil => cases h
  | cons b cs =>
    have hcs : '\n' ∉ cs := fun hm => hn (List.mem_cons_of_mem _ hm)
    simp only [namingPart?] at h
    split at h
    · next hb =>
      split at h
      · next hd =>
        obtain ⟨c, hc, rfl⟩ := Option.map_eq_some_iff.mp h
        exact names_of_find? hb (List.dropWhile_eq_nil_iff.mp hd) hcs hc
      · next c rest hd =>
        cases h
        exact names_of_dropWhile hb hcs hd
    · cases h

theorem namingPart?_of_names {tail naming : List Char} (hn : '\n' ∉ tail)
    (h : Names tail naming) : namingPart? tail = some naming := by
  cases h with
  | @shown gap rest c hgap hblank hc =>
    cases gap with
    | nil => exact absurd rfl hgap
    | cons b gap =>
      have hrest : '\n' ∉ c :: rest := fun hm => hn (List.mem_append_right _ hm)
      have hb := hblank b (List.mem_cons_self ..)
      have hgap : ∀ d ∈ gap, isBlank d = true := fun d hd => hblank d (List.mem_cons_of_mem _ hd)
      have hdrop : (c :: rest).dropWhile isBlank = c :: rest := by simp [hc]
      rw [List.cons_append, namingPart?, if_pos hb, List.dropWhile_append_of_pos hgap, hdrop,
        ← takeWhile_isRowEnd hrest]
  | @blank gap ends b c hb hgap hc hend hends =>
    have hne : ∀ d ∈ gap ++ c :: ends, d ≠ '\n' := fun d hd he =>
      hn (he ▸ List.mem_cons_of_mem _ hd)
    have hall : ∀ d ∈ gap ++ c :: ends, isBlank d = true := by
      intro d hd
      rcases List.mem_append.mp hd with hd | hd
      · exact hgap d hd
      · rcases List.mem_cons.mp hd with rfl | hd
        · exact hc
        · exact isBlank_of_endsNaming (hends d hd)
    have hlast : (gap ++ c :: ends).reverse.find? (fun d => !isRowEnd d) = some c := by
      refine List.find?_eq_some_iff_append.mpr
        ⟨?_, ends.reverse, gap.reverse, by simp, fun d hd => ?_⟩
      · rw [isRowEnd_eq_endsNaming (hne c (by simp)), hend]
        rfl
      · have hd := List.mem_reverse.mp hd
        rw [isRowEnd_eq_endsNaming (hne d (by simp [hd])), hends d hd]
        rfl
    rw [namingPart?, if_pos hb, List.dropWhile_eq_nil_iff.mpr hall, hlast]
    rfl

/-- A naming part is part of what follows the keyword, up to a character that ends it. -/
theorem Names.within {tail naming : List Char} (h : Names tail naming) :
    naming.Sublist tail ∧ ∀ c ∈ naming, endsNaming c = false := by
  cases h with
  | @shown gap rest c _ _ _ =>
    constructor
    · exact (List.takeWhile_sublist _).trans (List.sublist_append_right gap (c :: rest))
    · intro d hd
      simpa using List.mem_takeWhile_imp hd
  | @blank gap ends b c _ _ _ hend _ =>
    constructor
    · exact List.singleton_sublist.mpr (by simp)
    · intro d hd
      rwa [List.mem_singleton.mp hd]

/-! ## The receiver and the keyword -/

theorem map_letters_eq_iff {f g : Char → Char} {word cs : List Char}
    (h : ∀ k ∈ word, ∀ c, f c = k ↔ g c = k) : cs.map f = word ↔ cs.map g = word := by
  induction cs generalizing word with
  | nil => rfl
  | cons c cs ih =>
    cases word with
    | nil => simp
    | cons k word =>
      have htail := ih fun l hl => h l (List.mem_cons_of_mem _ hl)
      rw [List.map_cons, List.map_cons, List.cons.injEq, List.cons.injEq, htail,
        h k (List.mem_cons_self ..) c]

theorem map_receiver_iff {r : List Char} :
    r.map (fun c => if c = 'ſ' then 's' else c.toLower) = receiver ↔
      r.map plainLetter = receiver := by
  refine map_letters_eq_iff fun k hk c => ?_
  unfold plainLetter
  by_cases hs : c = 'ſ'
  · rw [if_pos hs, if_pos hs]
  · rw [if_neg hs, if_neg hs]
    by_cases hi : c = 'İ' ∨ c = 'ı'
    · -- Neither of the two is in the receiver, nor is the letter they stand for.
      have hnone : (receiver.all fun k =>
          'İ'.toLower != k && ('ı'.toLower != k && 'i' != k)) = true := by
        decide
      have hk := List.all_eq_true.mp hnone k hk
      simp only [Bool.and_eq_true, bne_iff_ne] at hk
      obtain ⟨h1, h2, h3⟩ := hk
      rw [if_pos hi]
      rcases hi with rfl | rfl
      · exact iff_of_false h1 h3
      · exact iff_of_false h2 h3
    · rw [if_neg hi]

theorem map_plainLetter_of_toLower {written word : List Char} (hword : ∀ k ∈ word, isPlain k = true)
    (h : written.map Char.toLower = word) : written.map plainLetter = word := by
  subst h
  refine List.map_congr_left fun c hc => ?_
  exact plainLetter_of_toLower (hword _ (List.mem_map_of_mem hc)) rfl

/-- Cuts the receiver off a text. -/
theorem dropReceiver_spec (cs : List Char) :
    ∃ r, cs = r ++ dropReceiver cs ∧ IsReceiver r := by
  unfold dropReceiver
  cases h : spelled? receiver cs with
  | none => exact ⟨[], rfl, .inl rfl⟩
  | some x =>
    obtain ⟨heq, hmap⟩ := eq_append_of_spelled? isPlain_receiver h
    exact ⟨x.1, heq, .inr (map_receiver_iff.mpr hmap)⟩

/-- The receiver is cut off whether it is there or not, if a keyword follows. -/
theorem dropReceiver_append {r written tail : List Char} {kind : Kind} (hr : IsReceiver r)
    (hw : written.map plainLetter = kind.letters) :
    dropReceiver (r ++ (written ++ tail)) = written ++ tail := by
  unfold dropReceiver
  rcases hr with rfl | hr
  · have hkind := spelled?_append (isPlain_letters kind) hw tail
    cases h : spelled? receiver ([] ++ (written ++ tail)) with
    | none => rfl
    | some x =>
      rw [List.nil_append] at h
      rw [spelled?_letters_of_receiver h kind] at hkind
      cases hkind
  · rw [spelled?_append isPlain_receiver (map_receiver_iff.mp hr)]

/-! ## Openings -/

theorem opens_of_ofRow? {row : List Char} (hn : '\n' ∉ row) {i : Nat} {o : Opening}
    (h : Opening.ofRow? row i = some o) : Opens row o.kind o.naming := by
  obtain ⟨written, tail, hkeyword, hkind, hnaming, -, -⟩ := Opening.ofRow?_eq_some_iff.mp h
  obtain ⟨r, hr, hreceiver⟩ := dropReceiver_spec (row.dropWhile isBlank)
  obtain ⟨k, hk⟩ := keywordAt?_eq_some_iff.mp hkeyword
  obtain ⟨heq, -⟩ := eq_append_of_spelled? (isPlain_letters k) hk
  have hrow : row = row.takeWhile isBlank ++ (r ++ (written ++ tail)) := by
    rw [← heq, ← hr, List.takeWhile_append_dropWhile]
  have htail : '\n' ∉ tail := fun hm => hn (by rw [hrow]; simp [hm])
  exact ⟨r, written, tail, hrow, hreceiver, (Kind.letters_of_ofLetters? hkind).symm,
    names_of_namingPart? htail hnaming⟩

theorem ofRow?_of_opens {row : List Char} (hn : '\n' ∉ row) {kind : Kind} {naming : List Char}
    (h : Opens row kind naming) (i : Nat) :
    Opening.ofRow? row i = some ⟨i, kind, indentation row, naming⟩ := by
  obtain ⟨r, written, tail, hrow, hreceiver, hwritten, hnames⟩ := h
  have hplain := map_plainLetter_of_toLower (isPlain_letters kind) hwritten
  have hdrop : row.dropWhile isBlank = r ++ (written ++ tail) := by
    have hcut := (List.takeWhile_append_dropWhile (p := isBlank) (l := row)).trans hrow
    exact List.append_cancel_left hcut
  have htail : '\n' ∉ tail := fun hm => hn (by rw [hrow]; simp [hm])
  refine Opening.ofRow?_eq_some_iff.mpr ⟨written, tail, ?_, ?_, ?_, rfl, rfl⟩
  · rw [hdrop, dropReceiver_append hreceiver hplain]
    exact keywordAt?_eq_some_iff.mpr ⟨kind, spelled?_append (isPlain_letters kind) hplain tail⟩
  · rw [hwritten, Kind.ofLetters?_letters]
  · exact namingPart?_of_names htail hnames

/-- The openings are the rows that are made as `Opens` says. -/
theorem opens_iff {row : List Char} (hn : '\n' ∉ row) {i : Nat} {o : Opening} :
    Opening.ofRow? row i = some o ↔
      o.row = i ∧ o.indent = indentation row ∧ Opens row o.kind o.naming := by
  constructor
  · intro h
    obtain ⟨hrow, hindent⟩ := Opening.ofRow?_eq_some h
    exact ⟨hrow, hindent, opens_of_ofRow? hn h⟩
  · rintro ⟨hrow, hindent, hopens⟩
    rw [ofRow?_of_opens hn hopens i]
    cases o
    simp only at hrow hindent
    rw [hrow, hindent]

/-! ## Nodes -/

theorem mem_nodes_iff_of_parse {text file : String} {roots : Forest}
    (h : parse .standard text file = .ok roots) {i : Nat} {kind : Kind} {name : String} :
    (∃ n ∈ roots.nodes, n.row = i ∧ n.kind = kind ∧ n.name = name) ↔
      ∃ o ∈ openings text, o.row = i ∧ o.kind = kind ∧ declaredName o.kind o.naming = name := by
  have hleaves := leaves_of_parse h
  constructor
  · rintro ⟨n, hn, rfl, rfl, rfl⟩
    have hmem : n.leaf ∈ (openings text).map (Opening.leaf file) :=
      hleaves ▸ List.mem_map_of_mem hn
    obtain ⟨o, ho, heq⟩ := List.mem_map.mp hmem
    exact ⟨o, ho, congrArg Node.row heq, congrArg Node.kind heq, congrArg Node.name heq⟩
  · rintro ⟨o, ho, rfl, rfl, rfl⟩
    have hmem : o.leaf file ∈ roots.nodes.map Node.leaf := hleaves ▸ List.mem_map_of_mem ho
    obtain ⟨n, hn, heq⟩ := List.mem_map.mp hmem
    exact ⟨n, hn, congrArg Node.row heq, congrArg Node.kind heq, congrArg Node.name heq⟩

/-- The nodes on a row of a text are fixed by how the row is made. -/
theorem mem_nodes_iff_opens {text file : String} {roots : Forest} {row : List Char} {i : Nat}
    (hn : '\n' ∉ row) (hrow : (rows text.toList)[i]? = some row)
    (h : parse .standard text file = .ok roots) {kind : Kind} {name : String} :
    (∃ n ∈ roots.nodes, n.row = i ∧ n.kind = kind ∧ n.name = name) ↔
      ∃ naming, Opens row kind naming ∧ declaredName kind naming = name := by
  rw [mem_nodes_iff_of_parse h]
  constructor
  · rintro ⟨o, ho, rfl, rfl, hname⟩
    obtain ⟨row', hrow', ho⟩ := mem_openings.mp ho
    rw [hrow, Option.some.injEq] at hrow'
    exact ⟨o.naming, opens_of_ofRow? hn (hrow' ▸ ho), hname⟩
  · rintro ⟨naming, hopens, hname⟩
    have ho := ofRow?_of_opens hn hopens i
    exact ⟨⟨i, kind, indentation row, naming⟩, mem_openings.mpr ⟨row, hrow, ho⟩, rfl, rfl, hname⟩

/-- A row is read by the first reading of a search that gives back; it is an opening just when it is
made as `Opens` says, indented by its blanks; and the nodes of a parse on it are its openings. -/
theorem rows_open_iff (row : List Char) (hn : '\n' ∉ row) :
    KeywordLine.ofRow? row = (KeywordLine.readings row).head? ∧
      (∀ i o, Opening.ofRow? row i = some o ↔
        o.row = i ∧ o.indent = (row.takeWhile isBlank).length ∧ Opens row o.kind o.naming) ∧
      ∀ text file i roots, (rows text.toList)[i]? = some row →
        parse .standard text file = .ok roots →
          ∀ kind name, (∃ n ∈ roots.nodes, n.row = i ∧ n.kind = kind ∧ n.name = name) ↔
            ∃ naming, Opens row kind naming ∧ declaredName kind naming = name := by
  refine ⟨ofRow?_eq_head?_readings row, fun i o => opens_iff hn, ?_⟩
  intro text file i roots hrow hparse kind name
  exact mem_nodes_iff_opens hn hrow hparse

/-- A tail of blanks is named by the last of them that ends no naming part. -/
theorem rows_open_iff_blank_tail :
    '\n' ∉ "\tRſpec.xIT  \r".toList ∧ Opens "\tRſpec.xIT  \r".toList .xit [' '] ∧
      ∃ roots, parse .standard "\tRſpec.xIT  \r" "a_spec.rb" = .ok roots ∧
        ∃ n ∈ roots.nodes, n.row = 0 ∧ n.kind = .xit ∧ n.name = "" := by
  have hn : '\n' ∉ "\tRſpec.xIT  \r".toList := by decide
  have ho : Opening.ofRow? "\tRſpec.xIT  \r".toList 0 = some ⟨0, .xit, 1, [' ']⟩ := by decide
  obtain ⟨-, hiff, hnodes⟩ := rows_open_iff "\tRſpec.xIT  \r".toList hn
  obtain ⟨-, -, hopens⟩ := (hiff 0 ⟨0, .xit, 1, [' ']⟩).mp ho
  have hparse := parse_standard "\tRſpec.xIT  \r" "a_spec.rb"
  refine ⟨hn, hopens, _, hparse, ?_⟩
  exact (hnodes _ _ 0 _ (by decide) hparse .xit "").mpr ⟨[' '], hopens, by decide +kernel⟩

end SpecSkeleton
