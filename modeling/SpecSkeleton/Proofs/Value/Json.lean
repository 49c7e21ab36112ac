import SpecSkeleton.Proofs.Value.JsonString

/-!
# Reading JSON text

A reader of JSON text. It knows no fractions and no exponents, as no record has any, and of two
fields of one name the later counts, in the place of the earlier. A value that JSON can write is
what its text is read as (`read_json`).
-/

namespace SpecSkeleton

/-- A field of a new name comes at the end. -/
theorem Fields.set_of_notMem {table : Fields} {key : String} (h : key ∉ table.map Prod.fst)
    (v : Value) : table.set key v = table ++ [(key, v)] := by
  induction table with
  | nil => rfl
  | cons e table ih =>
    obtain ⟨hne, hrest⟩ := not_or.mp (mt List.mem_cons.mpr h)
    rw [Fields.set, if_neg (Ne.symm hne), ih hrest, List.cons_append]

namespace Json

/-! ## The reader -/

def isGap (c : Char) : Bool :=
  c == ' ' || c == '\t' || c == '\n' || c == '\r'

/-- What comes after the gap at the head of a text. -/
def skip (cs : List Char) : List Char :=
  cs.dropWhile isGap

/-- Digits without an idle zero, and what comes after them. -/
def readDigits (cs : List Char) : Option (Nat × List Char) :=
  let digits := cs.takeWhile Char.isDigit
  if digits = [] ∨ digits.head? = some '0' ∧ digits ≠ ['0'] then none
  else some (Nat.ofDigitChars 10 digits 0, cs.drop digits.length)

def readInteger : List Char → Option (Int × List Char)
  | '-' :: cs => (readDigits cs).map fun (n, rest) => (-(n : Int), rest)
  | cs => (readDigits cs).map fun (n, rest) => ((n : Int), rest)

/-- A value that is neither a string nor a list nor a table. -/
def readPlain : List Char → Option (Value × List Char)
  | 'n' :: 'u' :: 'l' :: 'l' :: rest => some (.null, rest)
  | 't' :: 'r' :: 'u' :: 'e' :: rest => some (.bool true, rest)
  | 'f' :: 'a' :: 'l' :: 's' :: 'e' :: rest => some (.bool false, rest)
  | cs => (readInteger cs).map fun (n, rest) => (.int n, rest)

/-- The table of fields that come one after the other. -/
def tableOf (fields : Fields) : Value :=
  .table (fields.foldl (fun table e => Fields.set table e.1 e.2) [])

mutual

/-- A value and what comes after it. -/
def readValue : Nat → List Char → Option (Value × List Char)
  | 0, _ => none
  | fuel + 1, cs =>
    match skip cs with
    | '"' :: cs => (readString cs).map fun (s, rest) => (.text s, rest)
    | '[' :: cs =>
      match skip cs with
      | ']' :: rest => some (.list [], rest)
      | cs => (readItems fuel cs).map fun (items, rest) => (.list items, rest)
    | '\x7b' :: cs =>
      match skip cs with
      | '\x7d' :: rest => some (.table [], rest)
      | cs => (readFields fuel cs).map fun (fields, rest) => (tableOf fields, rest)
    | cs => readPlain cs

/-- The items of a list up to its closing bracket. -/
def readItems : Nat → List Char → Option (List Value × List Char)
  | 0, _ => none
  | fuel + 1, cs =>
    (readValue fuel cs).bind fun (v, rest) =>
      match skip rest with
      | ',' :: rest => (readItems fuel rest).map fun (items, rest) => (v :: items, rest)
      | ']' :: rest => some ([v], rest)
      | _ => none

/-- The fields of a table up to its closing brace. -/
def readFields : Nat → List Char → Option (List (String × Value) × List Char)
  | 0, _ => none
  | fuel + 1, cs =>
    match skip cs with
    | '"' :: cs =>
      (readString cs).bind fun (key, rest) =>
        match skip rest with
        | ':' :: rest =>
          (readValue fuel rest).bind fun (v, rest) =>
            match skip rest with
            | ',' :: rest =>
              (readFields fuel rest).map fun (fields, rest) => ((key, v) :: fields, rest)
            | '\x7d' :: rest => some ([(key, v)], rest)
            | _ => none
        | _ => none
    | _ => none

end

/-- The value that a JSON text writes. -/
def read (s : String) : Option Value :=
  match readValue s.length s.toList with
  | some (v, rest) => if skip rest = [] then some v else none
  | none => none

/-! ## Gaps -/

theorem skip_gap {gap : List Char} (h : ∀ c ∈ gap, isGap c = true) (cs : List Char) :
    skip (gap ++ cs) = skip cs :=
  List.dropWhile_append_of_pos h

theorem skip_cons {c : Char} (h : isGap c = false) (cs : List Char) : skip (c :: cs) = c :: cs :=
  List.dropWhile_cons_of_neg (by simp [h])

/-- The margin of a line is a gap. -/
theorem isGap_of_mem_margin {depth : Nat} : ∀ c ∈ (margin depth).toList, isGap c = true := by
  intro c hc
  have hc : c = '\n' ∨ c ∈ List.replicate (2 * depth) ' ' := by
    simpa [margin, String.toList_append] using hc
  rcases hc with rfl | hc
  · decide
  · rw [List.eq_of_mem_replicate hc]
    decide

/-! ## Numbers -/

/-- A text that no number goes on with. -/
def EndsNumber (rest : List Char) : Prop :=
  ∀ c ∈ rest.head?, c.isDigit = false

theorem toDigits_head?_ne_zero {n : Nat} (h : (Nat.toDigits 10 n).head? = some '0') :
    Nat.toDigits 10 n = ['0'] := by
  induction n using Nat.strongRecOn with
  | ind n ih =>
    by_cases hsmall : n < 10
    · rw [Nat.toDigits_of_lt_base hsmall] at h ⊢
      simpa using h
    · have hlarge : 10 ≤ n := Nat.le_of_not_lt hsmall
      obtain ⟨c, cs, hcons⟩ := List.exists_cons_of_ne_nil
        (Nat.toDigits_ne_nil (n := n / 10) (b := 10))
      rw [Nat.toDigits_of_base_le (by decide) hlarge, hcons] at h
      have hzero := ih (n / 10) (by omega) (by rw [hcons]; exact h)
      have hvalue := Nat.ofDigitChars_ten_toDigits (n := n / 10)
      rw [hzero] at hvalue
      have : n / 10 = 0 := hvalue.symm
      omega

theorem readDigits_toDigits (n : Nat) {rest : List Char} (hrest : EndsNumber rest) :
    readDigits (Nat.toDigits 10 n ++ rest) = some (n, rest) := by
  have hdigits : ∀ c ∈ Nat.toDigits 10 n, c.isDigit = true := fun c hc =>
    Nat.isDigit_of_mem_toDigits (by decide) (by decide) hc
  have hstop : rest.takeWhile Char.isDigit = [] := by
    cases rest with
    | nil => rfl
    | cons c cs => exact List.takeWhile_cons_of_neg (by simp [hrest c rfl])
  have htake : (Nat.toDigits 10 n ++ rest).takeWhile Char.isDigit = Nat.toDigits 10 n := by
    rw [List.takeWhile_append_of_pos hdigits, hstop, List.append_nil]
  have hnoIdle : ¬ (Nat.toDigits 10 n = [] ∨
      (Nat.toDigits 10 n).head? = some '0' ∧ Nat.toDigits 10 n ≠ ['0']) := by
    rintro (h | ⟨hhead, hne⟩)
    · exact Nat.toDigits_ne_nil h
    · exact hne (toDigits_head?_ne_zero hhead)
  simp only [readDigits, htake, if_neg hnoIdle, Nat.ofDigitChars_ten_toDigits, List.drop_left]

/-- The first character of a number is a digit or a sign. -/
theorem toString_int_cases (n : Int) :
    (∃ m : Nat, n = m ∧ (toString n).toList = Nat.toDigits 10 m) ∨
      ∃ m : Nat, n = -(m : Int) ∧ (toString n).toList = '-' :: Nat.toDigits 10 m := by
  rw [Int.toString_eq_repr, Int.repr_eq_if]
  split
  · next h =>
    exact .inl ⟨n.toNat, by omega, Nat.toList_repr⟩
  · next h =>
    refine .inr ⟨(-n).toNat, by omega, ?_⟩
    rw [String.toList_append, Nat.toList_repr]
    rfl

theorem toDigits_cons (n : Nat) : ∃ c cs, Nat.toDigits 10 n = c :: cs ∧ c.isDigit = true := by
  obtain ⟨c, cs, hcons⟩ := List.exists_cons_of_ne_nil (Nat.toDigits_ne_nil (n := n) (b := 10))
  exact ⟨c, cs, hcons, Nat.isDigit_of_mem_toDigits (by decide) (by decide)
    (hcons ▸ List.mem_cons_self)⟩

/-! ## Values -/

/-- A value that JSON can write as it is, no table of which has two fields of one name. -/
inductive IsJson : Value → Prop where
  | null : IsJson .null
  | bool (b : Bool) : IsJson (.bool b)
  | int (n : Int) : IsJson (.int n)
  | text (s : String) : IsJson (.text s)
  | list {items : List Value} (h : ∀ v ∈ items, IsJson v) : IsJson (.list items)
  | table {fields : Fields} (hkeys : (fields.map Prod.fst).Nodup)
      (h : ∀ e ∈ fields, IsJson e.2) : IsJson (.table fields)

/-- Whether a value is read off its text, whatever text comes after it. The text starts with
neither a gap nor the closing bracket of an empty list. -/
def ReadsBack (v : Value) : Prop :=
  ∀ depth : Nat, ∃ c cs, (render depth v).toList = c :: cs ∧ isGap c = false ∧ c ≠ ']' ∧
    ∀ (fuel : Nat) (rest : List Char), cs.length ≤ fuel → EndsNumber rest →
      readValue (fuel + 1) (c :: (cs ++ rest)) = some (v, rest)

theorem ReadsBack.readValue_eq {v : Value} (h : ReadsBack v) {depth fuel : Nat}
    (hfuel : (render depth v).toList.length ≤ fuel) {gap : List Char}
    (hgap : ∀ c ∈ gap, isGap c = true) (rest : List Char) (hrest : EndsNumber rest) :
    readValue fuel (gap ++ ((render depth v).toList ++ rest)) = some (v, rest) := by
  obtain ⟨c, cs, hcons, -, -, hread⟩ := h depth
  rw [hcons, List.length_cons] at hfuel
  obtain ⟨fuel, rfl⟩ := Nat.exists_eq_add_of_le' (Nat.le_trans (Nat.succ_pos _) hfuel)
  rw [hcons, List.cons_append, ← hread fuel rest (Nat.le_of_succ_le_succ hfuel) hrest]
  rw [readValue, readValue, skip_gap hgap]

theorem endsNumber_gap {gap rest : List Char} (hgap : ∀ c ∈ gap, isGap c = true)
    (hrest : EndsNumber rest) : EndsNumber (gap ++ rest) := by
  cases gap with
  | nil => exact hrest
  | cons c cs =>
    intro d hd
    cases hd
    have hc := hgap c List.mem_cons_self
    simp only [isGap, Bool.or_eq_true, beq_iff_eq] at hc
    rcases hc with ((rfl | rfl) | rfl) | rfl <;> rfl

theorem readValue_plain {c : Char} (hc : isGap c = false) (hquote : c ≠ '"') (hbracket : c ≠ '[')
    (hbrace : c ≠ '\x7b') (fuel : Nat) (cs : List Char) :
    readValue (fuel + 1) (c :: cs) = readPlain (c :: cs) := by
  rw [readValue, skip_cons hc]
  split
  · next h => exact absurd (List.cons.inj h).1 hquote
  · next h => exact absurd (List.cons.inj h).1 hbracket
  · next h => exact absurd (List.cons.inj h).1 hbrace
  · rfl

theorem ne_of_isDigit {c d : Char} (hc : c.isDigit = true) (hd : d.isDigit = false) : c ≠ d := by
  rintro rfl
  cases hc.symm.trans hd

/-- A digit starts nothing but a number. -/
theorem readPlain_digit {c : Char} (hc : c.isDigit = true) (cs : List Char) :
    readPlain (c :: cs) = (readDigits (c :: cs)).map fun (n, rest) => (.int n, rest) := by
  have hnumber : readInteger (c :: cs) =
      (readDigits (c :: cs)).map fun (n, rest) => ((n : Int), rest) := by
    unfold readInteger
    split
    · next h => exact absurd (List.cons.inj h).1 (ne_of_isDigit hc rfl)
    · rfl
  unfold readPlain
  split
  · next h => exact absurd (List.cons.inj h).1 (ne_of_isDigit hc rfl)
  · next h => exact absurd (List.cons.inj h).1 (ne_of_isDigit hc rfl)
  · next h => exact absurd (List.cons.inj h).1 (ne_of_isDigit hc rfl)
  · rw [hnumber, Option.map_map]
    rfl

theorem isGap_of_isDigit {c : Char} (h : c.isDigit = true) : isGap c = false := by
  rw [← Bool.not_eq_true, isGap]
  simp only [Bool.or_eq_true, beq_iff_eq]
  rintro (((rfl | rfl) | rfl) | rfl) <;> cases h

/-- A word that is a value by itself. -/
theorem readsBack_word {v : Value} (c : Char) (cs : List Char) (hc : c ∈ ['n', 't', 'f'])
    (htext : ∀ depth, (render depth v).toList = c :: cs)
    (hread : ∀ rest, readPlain (c :: (cs ++ rest)) = some (v, rest)) : ReadsBack v := by
  have hall : ∀ c ∈ ['n', 't', 'f'], isGap c = false ∧ c ≠ ']' ∧ c ≠ '"' ∧ c ≠ '[' ∧
      c ≠ '\x7b' := by simp [isGap]
  obtain ⟨hgap, hclosing, hquote, hbracket, hbrace⟩ := hall c hc
  intro depth
  refine ⟨c, cs, htext depth, hgap, hclosing, fun fuel rest _ _ => ?_⟩
  rw [readValue_plain hgap hquote hbracket hbrace, hread]

theorem readsBack_null : ReadsBack .null :=
  readsBack_word 'n' ['u', 'l', 'l'] (by decide) (fun _ => by simp [render]) fun _ => rfl

theorem readsBack_bool : (b : Bool) → ReadsBack (.bool b)
  | false => readsBack_word 'f' ['a', 'l', 's', 'e'] (by decide) (fun _ => by simp [render])
      fun _ => rfl
  | true => readsBack_word 't' ['r', 'u', 'e'] (by decide) (fun _ => by simp [render]) fun _ => rfl

theorem readsBack_int (n : Int) : ReadsBack (.int n) := by
  intro depth
  rcases toString_int_cases n with ⟨m, rfl, htext⟩ | ⟨m, rfl, htext⟩
  · obtain ⟨c, cs, hcons, hc⟩ := toDigits_cons m
    refine ⟨c, cs, htext.trans hcons, isGap_of_isDigit hc, ne_of_isDigit hc rfl,
      fun fuel rest _ hrest => ?_⟩
    have hdigits := readDigits_toDigits m hrest
    rw [hcons, List.cons_append] at hdigits
    rw [readValue_plain (isGap_of_isDigit hc) (ne_of_isDigit hc rfl) (ne_of_isDigit hc rfl)
      (ne_of_isDigit hc rfl), readPlain_digit hc, hdigits]
    rfl
  · refine ⟨'-', Nat.toDigits 10 m, htext, rfl, by decide, fun fuel rest _ hrest => ?_⟩
    have hnumber : readInteger ('-' :: (Nat.toDigits 10 m ++ rest)) = some (-(m : Int), rest) := by
      rw [readInteger, readDigits_toDigits m hrest]
      rfl
    rw [readValue_plain (by decide) (by decide) (by decide) (by decide), readPlain, hnumber]
    · rfl
    all_goals
      intro cs h
      cases (List.cons.inj h).1

/-! ### Strings -/

theorem toList_string (s : String) :
    (string s).toList = '"' :: (s.toList.flatMap escape ++ ['"']) := by
  simp [string]

theorem readsBack_text (s : String) : ReadsBack (.text s) := by
  intro depth
  refine ⟨'"', s.toList.flatMap escape ++ ['"'], toList_string s, rfl, by decide,
    fun fuel rest _ _ => ?_⟩
  rw [readValue, skip_cons (by decide), List.append_assoc, List.singleton_append]
  simp only [readString_escape, Option.map_some]

/-! ### Lists -/

/-- Texts one below the other, with commas between them. -/
def joined (depth : Nat) (texts : List String) : List Char :=
  (("," ++ margin depth).intercalate texts).toList

theorem joined_singleton (depth : Nat) (s : String) : joined depth [s] = s.toList := by
  rw [joined, String.intercalate_singleton]

theorem joined_cons_cons (depth : Nat) (s t : String) (rest : List String) :
    joined depth (s :: t :: rest) =
      s.toList ++ ',' :: ((margin depth).toList ++ joined depth (t :: rest)) := by
  simp [joined, String.intercalate_cons_cons, String.toList_append]

theorem joined_cons_head (depth : Nat) {s : String} {c : Char} {cs : List Char}
    (h : s.toList = c :: cs) (rest : List String) :
    ∃ tail, joined depth (s :: rest) = c :: tail := by
  cases rest with
  | nil => exact ⟨cs, (joined_singleton depth s).trans h⟩
  | cons t rest => exact ⟨_, by rw [joined_cons_cons, h, List.cons_append]⟩

/-- What comes after the bracket that opens a list or a table with something in it. -/
theorem skip_margin_append {c : Char} (hc : isGap c = false) {text tail : List Char}
    (htext : text = c :: tail) (depth : Nat) (rest : List Char) :
    skip ((margin depth).toList ++ (text ++ rest)) = c :: (tail ++ rest) := by
  rw [skip_gap isGap_of_mem_margin, htext, List.cons_append, skip_cons hc]

theorem toList_block (opening closing : String) (depth : Nat) {items : List String}
    (hne : items ≠ []) : (block opening closing depth items).toList =
      opening.toList ++ ((margin (depth + 1)).toList ++ (joined (depth + 1) items ++
        ((margin depth).toList ++ closing.toList))) := by
  have hempty : items.isEmpty = false := by simpa using hne
  simp [block, hempty, joined, String.toList_append]

/-- Items are read up to the closing bracket. -/
theorem readItems_joined {items : List Value} (hne : items ≠ [])
    (hback : ∀ v ∈ items, ReadsBack v) (depth fuel : Nat) (gap after : List Char)
    (hgap : ∀ c ∈ gap, isGap c = true) (hafter : ∀ c ∈ after, isGap c = true)
    (hfuel : (joined depth (renderItems depth items)).length < fuel) (rest : List Char) :
    readItems fuel (gap ++ (joined depth (renderItems depth items) ++ (after ++ ']' :: rest))) =
      some (items, rest) := by
  induction items generalizing gap fuel with
  | nil => exact absurd rfl hne
  | cons v items ih =>
    obtain ⟨hv, hitems⟩ := List.forall_mem_cons.mp hback
    obtain ⟨fuel, rfl⟩ := Nat.exists_eq_add_of_le' (Nat.succ_le_of_lt (Nat.zero_lt_of_lt hfuel))
    cases items with
    | nil =>
      rw [renderItems, renderItems, joined_singleton] at hfuel ⊢
      have hread := hv.readValue_eq (Nat.le_of_lt_succ hfuel) hgap (after ++ ']' :: rest)
        (endsNumber_gap hafter (by simp [EndsNumber]))
      rw [readItems, hread, Option.bind_some]
      simp only [skip_gap hafter, skip_cons (show isGap ']' = false by decide)]
    | cons w items =>
      rw [renderItems, renderItems, joined_cons_cons] at hfuel ⊢
      rw [← renderItems] at hfuel ⊢
      simp only [List.length_append, List.length_cons] at hfuel
      have hmore := ih (List.cons_ne_nil _ _) hitems fuel (margin depth).toList isGap_of_mem_margin
        (by omega)
      have hlong : (render depth v).toList.length ≤ fuel := by omega
      have hread := hv.readValue_eq hlong hgap (',' :: ((margin depth).toList ++
        (joined depth (renderItems depth (w :: items)) ++ (after ++ ']' :: rest))))
        (by simp [EndsNumber])
      rw [List.append_assoc, List.cons_append, List.append_assoc, readItems, hread,
        Option.bind_some]
      simp only [skip_cons (show isGap ',' = false by decide), hmore, Option.map_some]

/-! ### Tables -/

theorem toList_field (depth : Nat) (key : String) (v : Value) :
    (string key ++ ": " ++ render depth v).toList =
      '"' :: (key.toList.flatMap escape ++ '"' :: ':' :: ' ' :: (render depth v).toList) := by
  simp [String.toList_append, toList_string]

/-- Fields are read up to the closing brace. -/
theorem readFields_joined {fields : Fields} (hne : fields ≠ [])
    (hback : ∀ e ∈ fields, ReadsBack e.2) (depth fuel : Nat) (gap after : List Char)
    (hgap : ∀ c ∈ gap, isGap c = true) (hafter : ∀ c ∈ after, isGap c = true)
    (hfuel : (joined depth (renderFields depth fields)).length < fuel) (rest : List Char) :
    readFields fuel
        (gap ++ (joined depth (renderFields depth fields) ++ (after ++ '\x7d' :: rest))) =
      some (fields, rest) := by
  induction fields generalizing gap fuel with
  | nil => exact absurd rfl hne
  | cons e fields ih =>
    obtain ⟨key, v⟩ := e
    obtain ⟨hv, hfields⟩ : ReadsBack v ∧ ∀ e ∈ fields, ReadsBack e.2 :=
      List.forall_mem_cons.mp hback
    obtain ⟨fuel, rfl⟩ := Nat.exists_eq_add_of_le' (Nat.succ_le_of_lt (Nat.zero_lt_of_lt hfuel))
    have hspace : ∀ c ∈ [' '], isGap c = true := by simp [isGap]
    cases fields with
    | nil =>
      rw [renderFields, renderFields, joined_singleton, toList_field] at hfuel ⊢
      simp only [List.length_append, List.length_cons] at hfuel
      have hlong : (render depth v).toList.length ≤ fuel := by omega
      have hread := hv.readValue_eq hlong hspace (after ++ '\x7d' :: rest)
        (endsNumber_gap hafter (by simp [EndsNumber]))
      rw [List.singleton_append] at hread
      simp only [List.cons_append, List.append_assoc]
      rw [readFields, skip_gap hgap, skip_cons (by decide)]
      simp only [readString_escape, Option.bind_some, skip_cons (show isGap ':' = false by decide),
        hread, skip_gap hafter, skip_cons (show isGap '\x7d' = false by decide)]
    | cons e fields =>
      obtain ⟨other, w⟩ := e
      rw [renderFields, renderFields, joined_cons_cons, toList_field] at hfuel ⊢
      rw [← renderFields] at hfuel ⊢
      simp only [List.length_append, List.length_cons] at hfuel
      have hmore := ih (List.cons_ne_nil _ _) hfields fuel (margin depth).toList
        isGap_of_mem_margin (by omega)
      have hlong : (render depth v).toList.length ≤ fuel := by omega
      have hread := hv.readValue_eq hlong hspace (',' ::
        ((margin depth).toList ++ (joined depth (renderFields depth ((other, w) :: fields)) ++
          (after ++ '\x7d' :: rest)))) (by simp [EndsNumber])
      rw [List.singleton_append] at hread
      simp only [List.cons_append, List.append_assoc]
      rw [readFields, skip_gap hgap, skip_cons (by decide)]
      simp only [readString_escape, Option.bind_some, skip_cons (show isGap ':' = false by decide),
        hread, skip_cons (show isGap ',' = false by decide), hmore, Option.map_some]

/-- Fields set one after the other, no two of one name, stand in their order. -/
theorem foldl_set {table fields : Fields} (h : ((table ++ fields).map Prod.fst).Nodup) :
    fields.foldl (fun table e => Fields.set table e.1 e.2) table = table ++ fields := by
  induction fields generalizing table with
  | nil => simp
  | cons e fields ih =>
    have hnew : e.1 ∉ table.map Prod.fst := by
      rw [List.map_append, List.map_cons] at h
      exact fun hmem => (List.nodup_append.mp h).2.2 _ hmem _ List.mem_cons_self rfl
    rw [List.foldl_cons, Fields.set_of_notMem hnew, ih (by simpa using h), List.append_assoc,
      List.singleton_append]

theorem tableOf_eq {fields : Fields} (h : (fields.map Prod.fst).Nodup) :
    tableOf fields = .table fields := by
  rw [tableOf, foldl_set (by simpa using h), List.nil_append]

/-! ### Every value -/

theorem readsBack_list {items : List Value} (hback : ∀ v ∈ items, ReadsBack v) :
    ReadsBack (.list items) := by
  intro depth
  cases items with
  | nil =>
    refine ⟨'[', [']'], by simp [render, renderItems, block], rfl, by decide,
      fun fuel rest _ _ => ?_⟩
    rw [readValue, skip_cons (by decide)]
    simp only [List.singleton_append, skip_cons (show isGap ']' = false by decide)]
  | cons v items =>
    have htext : (render depth (.list (v :: items))).toList = '[' ::
        ((margin (depth + 1)).toList ++
          (joined (depth + 1) (renderItems (depth + 1) (v :: items)) ++
            ((margin depth).toList ++ [']']))) := by
      rw [render, toList_block _ _ _ (by simp [renderItems])]
      rfl
    refine ⟨_, _, htext, rfl, by decide, fun fuel rest hfuel _ => ?_⟩
    simp only [List.length_append, List.length_cons, List.length_nil] at hfuel
    have hread := readItems_joined (List.cons_ne_nil v items) hback (depth + 1) fuel []
      (margin depth).toList (by simp) isGap_of_mem_margin (by omega) rest
    obtain ⟨c, front, hcons, hgap, hclosing, -⟩ := hback v List.mem_cons_self (depth + 1)
    obtain ⟨tail, htail⟩ := joined_cons_head (depth + 1) hcons (renderItems (depth + 1) items)
    rw [← renderItems] at htail
    rw [htail, List.nil_append, List.cons_append] at hread
    rw [readValue, skip_cons (by decide)]
    simp only [List.append_assoc, List.singleton_append, skip_margin_append hgap htail]
    split
    · next h => exact absurd (List.cons.inj h).1 hclosing
    · rw [hread, Option.map_some]

theorem readsBack_table {fields : Fields} (hkeys : (fields.map Prod.fst).Nodup)
    (hback : ∀ e ∈ fields, ReadsBack e.2) : ReadsBack (.table fields) := by
  intro depth
  cases fields with
  | nil =>
    refine ⟨'\x7b', ['\x7d'], by simp [render, renderFields, block], rfl, by decide,
      fun fuel rest _ _ => ?_⟩
    rw [readValue, skip_cons (by decide)]
    simp only [List.singleton_append, skip_cons (show isGap '\x7d' = false by decide)]
  | cons e fields =>
    obtain ⟨key, v⟩ := e
    have htext : (render depth (.table ((key, v) :: fields))).toList = '\x7b' ::
        ((margin (depth + 1)).toList ++
          (joined (depth + 1) (renderFields (depth + 1) ((key, v) :: fields)) ++
            ((margin depth).toList ++ ['\x7d']))) := by
      rw [render, toList_block _ _ _ (by simp [renderFields])]
      rfl
    refine ⟨_, _, htext, rfl, by decide, fun fuel rest hfuel _ => ?_⟩
    simp only [List.length_append, List.length_cons, List.length_nil] at hfuel
    have hread := readFields_joined (List.cons_ne_nil (key, v) fields) hback (depth + 1) fuel []
      (margin depth).toList (by simp) isGap_of_mem_margin (by omega) rest
    obtain ⟨tail, htail⟩ := joined_cons_head (depth + 1) (toList_field (depth + 1) key v)
      (renderFields (depth + 1) fields)
    rw [← renderFields] at htail
    rw [htail, List.nil_append, List.cons_append] at hread
    rw [readValue, skip_cons (by decide)]
    simp only [List.append_assoc, List.singleton_append,
      skip_margin_append (show isGap '"' = false by decide) htail]
    split
    · next h => exact absurd (List.cons.inj h).1 (by decide)
    · rw [hread, Option.map_some, tableOf_eq hkeys]

/-- A value that JSON can write is what its text is read as. -/
theorem IsJson.readsBack {v : Value} (h : IsJson v) : ReadsBack v := by
  induction h with
  | null => exact readsBack_null
  | bool b => exact readsBack_bool b
  | int n => exact readsBack_int n
  | text s => exact readsBack_text s
  | list _ ih => exact readsBack_list ih
  | table hkeys _ ih => exact readsBack_table hkeys ih

/-- The text of a value reads as the value, also with a gap after it. -/
theorem read_json {v : Value} (h : IsJson v) {gap : String}
    (hgap : ∀ c ∈ gap.toList, isGap c = true) : read (v.json ++ gap) = some v := by
  have hrest : EndsNumber gap.toList := by
    rw [← List.append_nil gap.toList]
    exact endsNumber_gap hgap (by simp [EndsNumber])
  have hread : readValue (v.json ++ gap).length (v.json ++ gap).toList = some (v, gap.toList) := by
    have hlong : (render 0 v).toList.length ≤ (v.json ++ gap).length := by
      rw [String.length_append]
      exact Nat.le_add_right _ _
    rw [String.toList_append]
    exact h.readsBack.readValue_eq hlong (List.forall_mem_nil _) gap.toList hrest
  have hend : skip gap.toList = [] := by
    rw [← List.append_nil gap.toList]
    exact skip_gap hgap []
  simp only [read, hread, hend, if_true]

end Json

end SpecSkeleton
