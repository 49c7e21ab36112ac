import SpecSkeleton.Proofs.Keyword.Spelling

/-!
# Searching a row for a keyword line

A row may be cut into blanks, receiver, keyword, blanks and naming part in several ways. A search
that takes as much as it can at each part, and gives back where it gets stuck, tries them in a fixed
order: `KeywordLine.readings`. `ofRow?_eq_head?_readings` says that a row is read by the first of
them, so that no search is needed.
-/

namespace SpecSkeleton

open Text

/-- The ways to take a part off the head of a text, in the order in which they are tried. -/
abbrev Ways := List Char → List (List Char × List Char)

namespace Ways

/-- Characters of a class, as many as there are first. -/
def many (p : Char → Bool) : Ways
  | [] => [([], [])]
  | c :: cs => (if p c then (many p cs).map fun w => (c :: w.1, w.2) else []) ++ [([], c :: cs)]

/-- Characters of a class, at least one. -/
def manyOne (p : Char → Bool) : Ways
  | [] => []
  | c :: cs => if p c then (many p cs).map fun w => (c :: w.1, w.2) else []

def word (letters : List Char) : Ways := fun cs => (spelled? letters cs).toList

/-- A part that may be missing. -/
def optional (a : Ways) : Ways := fun cs => a cs ++ [([], cs)]

def oneOf (alternatives : List Ways) : Ways := fun cs => alternatives.flatMap fun a => a cs

end Ways

/-- The kinds in the order in which their keywords are tried. -/
def Kind.tried : List Kind :=
  [describe, context, it, around, before, prependBefore, after, appendAfter, letValue, xdescribe,
    xcontext, xit]

theorem Kind.mem_tried (k : Kind) : k ∈ tried := by
  cases k <;> decide

/-- The readings of a row from its keyword on, in the order in which they are tried. -/
def KeywordLine.readingsAt (indent : Nat) (cs : List Char) : List KeywordLine :=
  (Ways.oneOf (Kind.tried.map fun k => Ways.word k.letters) cs).flatMap fun keyword =>
    (Ways.manyOne isBlank keyword.2).flatMap fun gap =>
      (Ways.manyOne (fun c => !isRowEnd c) gap.2).map fun naming => ⟨indent, keyword.1, naming.1⟩

/-- The readings of a row: blanks, perhaps a receiver, keyword, blanks and naming part. -/
def KeywordLine.readings (row : List Char) : List KeywordLine :=
  (Ways.many isBlank row).flatMap fun blanks =>
    (Ways.optional (Ways.word receiver) blanks.2).flatMap fun head =>
      readingsAt (indentation row) head.2

/-! ## The naming part -/

theorem isBlank_of_isRowEnd {c : Char} (h : isRowEnd c = true) : isBlank c = true := by
  simp only [isRowEnd, Bool.or_eq_true, beq_iff_eq] at h
  rcases h with ((rfl | rfl) | rfl) | rfl <;> decide

theorem many_head? (p : Char → Bool) (cs : List Char) :
    (Ways.many p cs).head? = some (cs.takeWhile p, cs.dropWhile p) := by
  induction cs with
  | nil => rfl
  | cons c cs ih =>
    cases h : p c <;> simp [Ways.many, h, ih]

theorem manyOne_head? (p : Char → Bool) (c : Char) (cs : List Char) :
    (Ways.manyOne p (c :: cs)).head? =
      if p c then some (c :: cs.takeWhile p, cs.dropWhile p) else none := by
  cases h : p c <;> simp [Ways.manyOne, h, many_head?]

/-- What is found behind as many characters of a class as can be taken comes first. -/
theorem findSome?_many_cons {β : Type} (p : Char → Bool) (f : List Char → Option β) (c : Char)
    (cs : List Char) :
    (Ways.many p (c :: cs)).findSome? (fun w => f w.2) =
      if p c then ((Ways.many p cs).findSome? fun w => f w.2).or (f (c :: cs))
      else f (c :: cs) := by
  cases h : p c <;>
    simp [Ways.many, h, List.findSome?_append, List.findSome?_map, Function.comp_def]

/-- The naming part once some blanks after the keyword are taken. -/
def namingAt? (cs : List Char) : Option (List Char) :=
  (Ways.manyOne (fun c => !isRowEnd c) cs).head?.map Prod.fst

theorem namingAt?_cons (c : Char) (cs : List Char) :
    namingAt? (c :: cs) =
      if isRowEnd c then none else some (c :: cs.takeWhile fun d => !isRowEnd d) := by
  rw [namingAt?, manyOne_head?]
  cases h : isRowEnd c <;> simp

/-- What is named after blanks, as many of them as can be being taken first. -/
theorem findSome?_namingAt? (cs : List Char) :
    (Ways.many isBlank cs).findSome? (fun w => namingAt? w.2) =
      match cs.dropWhile isBlank with
      | [] => (cs.reverse.find? fun c => !isRowEnd c).map ([·])
      | c :: rest => some ((c :: rest).takeWhile fun d => !isRowEnd d) := by
  induction cs with
  | nil => rfl
  | cons c cs ih =>
    rw [findSome?_many_cons, ih]
    cases hc : isBlank c with
    | false =>
      have hend : isRowEnd c = false := by
        cases h : isRowEnd c
        · rfl
        · rw [isBlank_of_isRowEnd h] at hc; cases hc
      simp [hc, namingAt?_cons, hend]
    | true =>
      rw [if_pos rfl, List.dropWhile_cons_of_pos hc, List.reverse_cons, List.find?_append]
      cases cs.dropWhile isBlank with
      | cons d rest => rfl
      | nil =>
        cases hlast : cs.reverse.find? fun c => !isRowEnd c with
        | some x => rfl
        | none =>
          -- All of `cs` is row ends, so that `c` is given back by itself.
          have hends : ∀ d ∈ cs, isRowEnd d = true := by
            simpa using List.find?_eq_none.mp hlast
          have htake : (cs.takeWhile fun d => !isRowEnd d) = [] := by
            cases cs with
            | nil => rfl
            | cons d cs => simp [hends d (List.mem_cons_self ..)]
          rw [namingAt?_cons, htake]
          cases h : isRowEnd c <;> simp [h]

theorem findSome?_gap (cs : List Char) :
    (Ways.manyOne isBlank cs).findSome? (fun gap => namingAt? gap.2) = namingPart? cs := by
  cases cs with
  | nil => rfl
  | cons b cs =>
    cases hb : isBlank b with
    | false => simp [namingPart?, Ways.manyOne, hb]
    | true =>
      have hnaming := findSome?_namingAt? cs
      rw [Ways.manyOne, if_pos hb, List.findSome?_map, namingPart?, if_pos hb]
      refine hnaming.trans ?_
      cases cs.dropWhile isBlank <;> rfl

/-! ## The keyword -/

/-- At most one of different kinds has its keyword at the head of a text. -/
theorem flatMap_spelled? {kinds : List Kind} (hkinds : kinds.Nodup) (cs : List Char) :
    (kinds.flatMap fun k => (spelled? k.letters cs).toList) =
      (kinds.findSome? fun k => spelled? k.letters cs).toList := by
  induction kinds with
  | nil => rfl
  | cons k kinds ih =>
    obtain ⟨hk, hkinds⟩ := List.nodup_cons.mp hkinds
    rw [List.flatMap_cons, List.findSome?_cons]
    cases h : spelled? k.letters cs with
    | none => exact ih hkinds
    | some x =>
      have hnone : ∀ l ∈ kinds, (spelled? l.letters cs).toList = [] := by
        intro l hl
        cases hx : spelled? l.letters cs with
        | none => rfl
        | some y => exact absurd (Kind.eq_of_spelled? h hx ▸ hl) hk
      rw [List.flatMap_eq_nil_iff.mpr hnone]
      rfl

theorem oneOf_tried (cs : List Char) :
    Ways.oneOf (Kind.tried.map fun k => Ways.word k.letters) cs = (keywordAt? cs).toList := by
  have htried : Kind.tried.findSome? (fun k => spelled? k.letters cs) = keywordAt? cs := by
    cases h : Kind.tried.findSome? (fun k => spelled? k.letters cs) with
    | none =>
      refine (List.findSome?_eq_none_iff.mpr fun k _ => ?_).symm
      exact List.findSome?_eq_none_iff.mp h k k.mem_tried
    | some x =>
      obtain ⟨k, -, hk⟩ := List.exists_of_findSome?_eq_some h
      exact (keywordAt?_eq_some_iff.mpr ⟨k, hk⟩).symm
  rw [Ways.oneOf, List.flatMap_map, ← htried]
  exact flatMap_spelled? (by decide) cs

/-- A row from its keyword on. -/
def readAt? (indent : Nat) (cs : List Char) : Option KeywordLine :=
  (keywordAt? cs).bind fun keyword =>
    (namingPart? keyword.2).map fun naming => ⟨indent, keyword.1, naming⟩

theorem KeywordLine.ofRow?_eq (row : List Char) :
    KeywordLine.ofRow? row =
      readAt? (indentation row) (dropReceiver (row.dropWhile isBlank)) := by
  simp only [KeywordLine.ofRow?, readAt?, Option.bind_eq_bind, Option.pure_def]
  congr
  funext keyword
  cases namingPart? keyword.2 <;> rfl

theorem isBlank_plainLetter {c : Char} (h : isBlank c = true) : plainLetter c = c := by
  have hs : c ≠ 'ſ' := by rintro rfl; exact absurd h (by decide)
  have hI : c ≠ 'İ' := by rintro rfl; exact absurd h (by decide)
  have hi : c ≠ 'ı' := by rintro rfl; exact absurd h (by decide)
  have hupper : ¬ (c.val ≥ 'A'.val ∧ c.val ≤ 'Z'.val) := by
    rintro ⟨hA, hZ⟩
    obtain ⟨r, hr, hlo, hhi⟩ := CharRanges.has_iff.mp h
    have hA : 65 ≤ c.toNat := hA
    have hZ : c.toNat ≤ 90 := hZ
    simp only [blankRanges, List.mem_cons, List.not_mem_nil, or_false] at hr
    rcases hr with rfl | rfl | rfl | rfl | rfl | rfl | rfl | rfl | rfl | rfl <;>
      simp only at hlo hhi <;> omega
  have hlower : c.toLower = c := dif_neg hupper
  simp [plainLetter, hs, hI, hi, hlower]

/-- No word without blanks is spelled where a blank stands. -/
theorem spelled?_of_isBlank {word : List Char} (hword : ∀ k ∈ word, isPlain k = true)
    (hne : word ≠ []) (hblank : (word.all fun k => !isBlank k) = true) {c : Char}
    (hc : isBlank c = true) (cs : List Char) : spelled? word (c :: cs) = none := by
  cases h : spelled? word (c :: cs) with
  | none => rfl
  | some x =>
    obtain ⟨rest, hrest⟩ := prefix_of_spelled? hword h
    cases word with
    | nil => exact absurd rfl hne
    | cons k word =>
      rw [List.map_cons, List.cons_append, isBlank_plainLetter hc] at hrest
      have hk := List.all_eq_true.mp hblank k (List.mem_cons_self ..)
      rw [(List.cons.inj hrest).1, hc] at hk
      cases hk

theorem readAt?_of_isBlank (indent : Nat) {c : Char} (hc : isBlank c = true) (cs : List Char) :
    readAt? indent (dropReceiver (c :: cs)) = none := by
  have hreceiver := spelled?_of_isBlank isPlain_receiver (by decide) (by decide) hc cs
  have hkeyword : keywordAt? (c :: cs) = none :=
    List.findSome?_eq_none_iff.mpr fun k _ =>
      spelled?_of_isBlank (isPlain_letters k) (by cases k <;> decide) (by cases k <;> decide) hc cs
  rw [dropReceiver, hreceiver, readAt?, hkeyword]
  rfl

/-! ## The first reading -/

/-- Behind the blanks, what is read with the receiver comes before what is read without it, and
only one of the two is there. -/
theorem findSome?_optional_receiver (indent : Nat) (cs : List Char) :
    (Ways.optional (Ways.word receiver) cs).findSome? (fun w => readAt? indent w.2) =
      readAt? indent (dropReceiver cs) := by
  rw [Ways.optional, List.findSome?_append, Ways.word, dropReceiver]
  cases h : spelled? receiver cs with
  | none => simp
  | some x =>
    have hnone : readAt? indent cs = none := by rw [readAt?, keywordAt?_of_receiver h]; rfl
    simp [hnone]

/-- Blanks that are given back are followed by a blank, where nothing is read. -/
theorem findSome?_blanks (indent : Nat) (cs : List Char) :
    (Ways.many isBlank cs).findSome? (fun w => readAt? indent (dropReceiver w.2)) =
      readAt? indent (dropReceiver (cs.dropWhile isBlank)) := by
  induction cs with
  | nil => simp [Ways.many]
  | cons c cs ih =>
    rw [findSome?_many_cons isBlank fun cs => readAt? indent (dropReceiver cs)]
    cases hc : isBlank c with
    | false => simp [hc]
    | true => simp [hc, ih, readAt?_of_isBlank indent hc]

theorem readingsAt_head? (indent : Nat) (cs : List Char) :
    (KeywordLine.readingsAt indent cs).head? = readAt? indent cs := by
  have hnaming : ∀ keyword : List Char × List Char,
      ((Ways.manyOne isBlank keyword.2).flatMap fun gap =>
        (Ways.manyOne (fun c => !isRowEnd c) gap.2).map fun naming =>
          (⟨indent, keyword.1, naming.1⟩ : KeywordLine)).head? =
        (namingPart? keyword.2).map fun naming => ⟨indent, keyword.1, naming⟩ := by
    intro keyword
    rw [List.head?_flatMap, ← findSome?_gap, List.map_findSome?]
    congr
    funext gap
    simp only [Function.comp_def, List.head?_map, namingAt?, Option.map_map]
  rw [KeywordLine.readingsAt, List.head?_flatMap, oneOf_tried, readAt?]
  cases keywordAt? cs with
  | none => rfl
  | some keyword => simp [hnaming keyword]

/-- A row is read by the first of its readings. -/
theorem ofRow?_eq_head?_readings (row : List Char) :
    KeywordLine.ofRow? row = (KeywordLine.readings row).head? := by
  rw [KeywordLine.readings, List.head?_flatMap, KeywordLine.ofRow?_eq, ← findSome?_blanks]
  congr
  funext blanks
  rw [List.head?_flatMap, ← findSome?_optional_receiver]
  congr
  funext head
  exact (readingsAt_head? (indentation row) head.2).symm

end SpecSkeleton
