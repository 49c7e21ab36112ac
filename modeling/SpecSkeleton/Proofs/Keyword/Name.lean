import Mathlib.Data.List.TakeWhile
import SpecSkeleton.Keyword.Name
import SpecSkeleton.Proofs.Keyword.Search
import SpecSkeleton.Proofs.Text.Trim

/-!
# The name a naming part declares

`Declares` states the rule by which an element that is no hook gets its name: four forms, the first
that applies wins, each over the longest run of characters that it allows. `searchedName` is the
name a search finds that tries the forms one after another and gives characters back where it gets
stuck. `declaredName` obeys the first and agrees with the second. Whatever the naming part is, the
name is part of it, so that it is no longer, and no blank stands at its ends.
-/

namespace SpecSkeleton

open Text

namespace Text

/-! ## Longest runs -/

/-- `run` is all that a text begins with of the class `p`; `rest` is what follows it. -/
structure LongestRun (p : Char → Bool) (run rest : List Char) : Prop where
  inside : ∀ c ∈ run, p c = true
  longest : ∀ c ∈ rest.head?, p c = false

variable {p : Char → Bool} {run rest : List Char}

theorem longestRun_split (p : Char → Bool) (cs : List Char) :
    LongestRun p (cs.takeWhile p) (cs.dropWhile p) := by
  constructor
  · intro c hc
    exact List.mem_takeWhile_imp hc
  · intro c hc
    have hstop := List.head?_dropWhile_not p cs
    rwa [Option.mem_def.mp hc] at hstop

theorem LongestRun.rest_eq (h : LongestRun p run rest) : rest.dropWhile p = rest := by
  cases rest with
  | nil => rfl
  | cons c rest => simp [h.longest c rfl]

theorem LongestRun.takeWhile (h : LongestRun p run rest) : (run ++ rest).takeWhile p = run := by
  have hrest : rest.takeWhile p = [] := by
    cases rest with
    | nil => rfl
    | cons c rest => simp [h.longest c rfl]
  rw [List.takeWhile_append_of_pos h.inside, hrest, List.append_nil]

theorem LongestRun.dropWhile (h : LongestRun p run rest) : (run ++ rest).dropWhile p = rest := by
  rw [List.dropWhile_append_of_pos h.inside, h.rest_eq]

end Text

/-! ## The rule -/

/-- A run of characters that do not close it, between an opening and a closing character. -/
def Enclosed (opens closes : Char → Bool) (cs run : List Char) : Prop :=
  ∃ opening closing rest, cs = opening :: (run ++ closing :: rest) ∧ opens opening = true ∧
    closes closing = true ∧ run ≠ [] ∧ LongestRun (fun c => !closes c) run (closing :: rest)

/-- A text without the colon at its head, if there is one. -/
def dropColon : List Char → List Char
  | ':' :: cs => cs
  | cs => cs

/-- A word, with or without a colon before it. -/
def Bare (cs run : List Char) : Prop :=
  ∃ rest, dropColon cs = run ++ rest ∧ run ≠ [] ∧ LongestRun isWord run rest

abbrev Quoted := Enclosed isQuote isQuote

abbrev Parenthesized := Enclosed (· == '(') (· == ')')

/-- The name that a naming part declares; the first form that applies wins. -/
inductive Declares (naming : List Char) : List Char → Prop
  | quoted {run : List Char} : Quoted naming run → Declares naming (trim run)
  | bare {run : List Char} : (∀ r, ¬ Quoted naming r) → Bare naming run → Declares naming run
  | parenthesized {run : List Char} : (∀ r, ¬ Quoted naming r) → (∀ r, ¬ Bare naming r) →
      Parenthesized naming run → Declares naming (trim run)
  | token {run rest : List Char} : (∀ r, ¬ Quoted naming r) → (∀ r, ¬ Bare naming r) →
      (∀ r, ¬ Parenthesized naming r) → naming = run ++ rest →
      LongestRun (fun c => !isBlank c) run rest → Declares naming (run.filter fun c => !isBracket c)

/-! ## Each form as the function that looks for it -/

theorem enclosed?_eq_some_iff {closes : Char → Bool} {cs run : List Char} :
    enclosed? (fun c => !closes c) closes cs = some run ↔
      ∃ closing rest, cs = run ++ closing :: rest ∧ closes closing = true ∧ run ≠ [] ∧
        LongestRun (fun c => !closes c) run (closing :: rest) := by
  constructor
  · intro h
    have hsplit := longestRun_split (fun c => !closes c) cs
    have hcs := List.takeWhile_append_dropWhile (p := fun c => !closes c) (l := cs)
    rw [enclosed?] at h
    split at h
    · cases h
    · cases h
    · rename_i c body d rest htake hdrop
      rw [htake, hdrop] at hsplit hcs
      split at h
      · rename_i hclose
        cases h
        exact ⟨d, rest, hcs.symm, hclose, List.cons_ne_nil c body, hsplit⟩
      · cases h
  · rintro ⟨closing, rest, rfl, hclose, hne, hrun⟩
    rw [enclosed?, hrun.takeWhile, hrun.dropWhile]
    cases run with
    | nil => exact absurd rfl hne
    | cons c body => simp [hclose]

/-- What `enclosed?` finds behind an opening character. -/
def opened? (opens closes : Char → Bool) : List Char → Option (List Char)
  | [] => none
  | c :: cs => if opens c then enclosed? (fun d => !closes d) closes cs else none

theorem opened?_eq_some_iff {opens closes : Char → Bool} {cs run : List Char} :
    opened? opens closes cs = some run ↔ Enclosed opens closes cs run := by
  cases cs with
  | nil =>
    constructor
    · intro h
      cases h
    · rintro ⟨_, _, _, h, -⟩
      cases h
  | cons c cs =>
    rw [opened?]
    constructor
    · intro h
      split at h
      · rename_i hc
        obtain ⟨closing, rest, hcs, h⟩ := enclosed?_eq_some_iff.mp h
        exact ⟨c, closing, rest, by rw [hcs], hc, h⟩
      · cases h
    · rintro ⟨opening, closing, rest, hcs, hopen, h⟩
      cases hcs
      rw [if_pos hopen]
      exact enclosed?_eq_some_iff.mpr ⟨closing, rest, rfl, h⟩

theorem quotedName?_eq (cs : List Char) : quotedName? cs = opened? isQuote isQuote cs := by
  cases cs <;> rfl

theorem parenthesizedName?_eq (cs : List Char) :
    parenthesizedName? cs = opened? (· == '(') (· == ')') cs := by
  unfold parenthesizedName?
  split
  · rfl
  · rename_i hopen
    cases cs with
    | nil => rfl
    | cons c cs =>
      have hc : (c == '(') = false := beq_eq_false_iff_ne.mpr fun h => hopen cs (by rw [h])
      rw [opened?, hc]
      rfl

theorem bareName?_eq (cs : List Char) :
    bareName? cs =
      if (dropColon cs).takeWhile isWord = [] then none
      else some ((dropColon cs).takeWhile isWord) := by
  have hword : bareName? cs =
      match (dropColon cs).takeWhile isWord with
      | [] => none
      | c :: body => some (c :: body) := by
    unfold bareName?
    split
    · rfl
    · rename_i hcolon
      have hdrop : dropColon cs = cs := by
        unfold dropColon
        split
        · exact (hcolon _ rfl).elim
        · rfl
      show (match cs.takeWhile isWord with
        | [] => none
        | c :: body => some (c :: body)) = _
      rw [hdrop]
  rw [hword]
  cases (dropColon cs).takeWhile isWord <;> rfl

theorem bareName?_eq_some_iff {cs run : List Char} : bareName? cs = some run ↔ Bare cs run := by
  rw [bareName?_eq]
  constructor
  · intro h
    split at h
    · cases h
    · rename_i hne
      cases h
      exact ⟨_, List.takeWhile_append_dropWhile.symm, hne, longestRun_split _ _⟩
  · rintro ⟨rest, hcs, hne, hrun⟩
    rw [hcs, hrun.takeWhile, if_neg hne]

/-! ## The rule and the function -/

theorem quotedName?_eq_some_iff {cs run : List Char} :
    quotedName? cs = some run ↔ Quoted cs run := by
  rw [quotedName?_eq]
  exact opened?_eq_some_iff

theorem parenthesizedName?_eq_some_iff {cs run : List Char} :
    parenthesizedName? cs = some run ↔ Parenthesized cs run := by
  rw [parenthesizedName?_eq]
  exact opened?_eq_some_iff

/-- A form does not apply where the function that looks for it finds nothing. -/
theorem eq_none_iff_forall_not {o : Option (List Char)} {P : List Char → Prop}
    (h : ∀ {r}, o = some r ↔ P r) : o = none ↔ ∀ r, ¬ P r := by
  rw [Option.eq_none_iff_forall_ne_some]
  exact forall_congr' fun r => not_congr h

theorem quotedName?_eq_none_iff {cs : List Char} :
    quotedName? cs = none ↔ ∀ r, ¬ Quoted cs r :=
  eq_none_iff_forall_not quotedName?_eq_some_iff

theorem bareName?_eq_none_iff {cs : List Char} : bareName? cs = none ↔ ∀ r, ¬ Bare cs r :=
  eq_none_iff_forall_not bareName?_eq_some_iff

theorem parenthesizedName?_eq_none_iff {cs : List Char} :
    parenthesizedName? cs = none ↔ ∀ r, ¬ Parenthesized cs r :=
  eq_none_iff_forall_not parenthesizedName?_eq_some_iff

theorem solid_of_bare {cs run : List Char} (h : Bare cs run) : ∀ c ∈ run, isBlank c = false := by
  obtain ⟨rest, -, -, hrun⟩ := h
  intro c hc
  exact isBlank_of_isWord (hrun.inside c hc)

theorem solid_token {run rest : List Char} (h : LongestRun (fun c => !isBlank c) run rest) :
    ∀ c ∈ run.filter (fun c => !isBracket c), isBlank c = false := by
  intro c hc
  simpa using h.inside c (List.mem_filter.mp hc).1

variable {naming name : List Char}

theorem declares_declaredChars (naming : List Char) : Declares naming (declaredChars naming) := by
  unfold declaredChars
  cases hq : quotedName? naming with
  | some run => exact .quoted (quotedName?_eq_some_iff.mp hq)
  | none =>
    have hq := quotedName?_eq_none_iff.mp hq
    cases hb : bareName? naming with
    | some run =>
      have hb := bareName?_eq_some_iff.mp hb
      have hname : trim run = run := trim_of_solid (solid_of_bare hb)
      show Declares naming (trim run)
      rw [hname]
      exact .bare hq hb
    | none =>
      have hb := bareName?_eq_none_iff.mp hb
      cases hp : parenthesizedName? naming with
      | some run => exact .parenthesized hq hb (parenthesizedName?_eq_some_iff.mp hp)
      | none =>
        have hp := parenthesizedName?_eq_none_iff.mp hp
        exact .token hq hb hp List.takeWhile_append_dropWhile.symm (longestRun_split _ _)

theorem Declares.declaredChars_eq (h : Declares naming name) : declaredChars naming = name := by
  unfold declaredChars
  cases h with
  | quoted h =>
    rw [quotedName?_eq_some_iff.mpr h]
    rfl
  | bare hq h =>
    rw [quotedName?_eq_none_iff.mpr hq, bareName?_eq_some_iff.mpr h]
    exact trim_of_solid (solid_of_bare h)
  | parenthesized hq hb h =>
    rw [quotedName?_eq_none_iff.mpr hq, bareName?_eq_none_iff.mpr hb,
      parenthesizedName?_eq_some_iff.mpr h]
    rfl
  | token hq hb hp hnaming hrun =>
    rw [quotedName?_eq_none_iff.mpr hq, bareName?_eq_none_iff.mpr hb,
      parenthesizedName?_eq_none_iff.mpr hp]
    show firstToken naming = _
    rw [firstToken, hnaming, hrun.takeWhile]

/-- The rule gives every naming part one name, the one that is read off it. -/
theorem declares_iff : Declares naming name ↔ declaredChars naming = name := by
  constructor
  · exact Declares.declaredChars_eq
  · rintro rfl
    exact declares_declaredChars naming

/-! ## The search -/

/-- One character of a class. -/
def Ways.one (p : Char → Bool) : Ways
  | [] => []
  | c :: cs => if p c then [([c], cs)] else []

/-- What may be read between an opening and a closing character. -/
def enclosedReadings (opens closes : Char → Bool) (cs : List Char) : List (List Char) :=
  (Ways.one opens cs).flatMap fun opening =>
    (Ways.manyOne (fun c => !closes c) opening.2).flatMap fun run =>
      (Ways.one closes run.2).map fun _ => run.1

/-- What may be read as a word, with or without a colon before it. -/
def bareReadings (cs : List Char) : List (List Char) :=
  (Ways.optional (Ways.one (· == ':')) cs).flatMap fun colon =>
    (Ways.manyOne isWord colon.2).map fun run => run.1

/-- The readings of a naming part in the order in which they are tried. -/
def nameReadings (cs : List Char) : List (List Char) :=
  enclosedReadings isQuote isQuote cs ++ bareReadings cs ++
    enclosedReadings (· == '(') (· == ')') cs

/-- The text before the first place where blanks can be read. -/
def beforeBlanks : List Char → List Char
  | [] => []
  | c :: cs => if (Ways.manyOne isBlank (c :: cs)).isEmpty then c :: beforeBlanks cs else []

/-- The name that a search finds: what is read first, or else the text before blanks without its
brackets, and in both cases trimmed. -/
def searchedName (cs : List Char) : List Char :=
  match (nameReadings cs).head? with
  | some run => trim run
  | none => trim ((beforeBlanks cs).filter fun c => !isBracket c)

/-- Giving back some of the characters that do not close a text never lets it be closed. -/
theorem flatMap_many_closed (closes : Char → Bool) (cs : List Char) (f : List Char → List Char) :
    ((Ways.many (fun c => !closes c) cs).flatMap fun run =>
        (Ways.one closes run.2).map fun _ => f run.1) =
      if cs.dropWhile (fun c => !closes c) = [] then []
      else [f (cs.takeWhile fun c => !closes c)] := by
  induction cs generalizing f with
  | nil => rfl
  | cons c cs ih =>
    cases hc : closes c with
    | true => simp [Ways.many, Ways.one, hc]
    | false =>
      have hopen : (!closes c) = true := by rw [hc]; rfl
      have hmany : Ways.many (fun d => !closes d) (c :: cs) =
          (Ways.many (fun d => !closes d) cs).map (fun w => (c :: w.1, w.2)) ++ [([], c :: cs)] := by
        simp only [Ways.many, hopen, if_true]
      have hlast : Ways.one closes (c :: cs) = [] := by simp [Ways.one, hc]
      rw [hmany, List.flatMap_append, List.flatMap_map, List.flatMap_singleton, hlast, List.map_nil,
        List.append_nil, List.dropWhile_cons_of_pos (p := fun d => !closes d) hopen,
        List.takeWhile_cons_of_pos (p := fun d => !closes d) hopen]
      exact ih fun run => f (c :: run)

theorem flatMap_manyOne_closed (closes : Char → Bool) (cs : List Char) :
    ((Ways.manyOne (fun c => !closes c) cs).flatMap fun run =>
        (Ways.one closes run.2).map fun _ => run.1) =
      (enclosed? (fun c => !closes c) closes cs).toList := by
  cases cs with
  | nil => rfl
  | cons c cs =>
    cases hc : closes c with
    | true => simp [Ways.manyOne, enclosed?, hc]
    | false =>
      have hstop := (longestRun_split (fun d => !closes d) cs).longest
      have htake : (c :: cs).takeWhile (fun d => !closes d) =
          c :: cs.takeWhile fun d => !closes d := by simp [hc]
      have hdrop : (c :: cs).dropWhile (fun d => !closes d) =
          cs.dropWhile fun d => !closes d := by simp [hc]
      rw [enclosed?, htake, hdrop]
      simp only [Ways.manyOne, hc, Bool.not_false, if_true, List.flatMap_map,
        flatMap_many_closed closes cs fun run => c :: run]
      cases h : cs.dropWhile fun d => !closes d with
      | nil => rfl
      | cons d rest =>
        have hd : closes d = true := by simpa using hstop d (by rw [h]; rfl)
        simp [hd]

theorem enclosedReadings_eq (opens closes : Char → Bool) (cs : List Char) :
    enclosedReadings opens closes cs = (opened? opens closes cs).toList := by
  cases cs with
  | nil => rfl
  | cons c cs =>
    cases hc : opens c with
    | false => simp [enclosedReadings, opened?, Ways.one, hc]
    | true =>
      have hone : Ways.one opens (c :: cs) = [([c], cs)] := by simp [Ways.one, hc]
      rw [enclosedReadings, opened?, hone, if_pos hc, List.flatMap_cons, List.flatMap_nil,
        List.append_nil, flatMap_manyOne_closed]

theorem isWord_colon : isWord ':' = false := by
  decide +kernel

theorem bareReadings_head? (cs : List Char) : (bareReadings cs).head? = bareName? cs := by
  have hrun : ∀ ds : List Char,
      ((Ways.manyOne isWord ds).map fun run => run.1).head? =
        if ds.takeWhile isWord = [] then none else some (ds.takeWhile isWord) := by
    intro ds
    cases ds with
    | nil => rfl
    | cons d ds =>
      rw [List.head?_map, manyOne_head?]
      cases hd : isWord d <;> simp [hd]
  rw [bareName?_eq]
  unfold bareReadings dropColon
  split
  · rename_i ds
    have hcolon : Ways.optional (Ways.one (· == ':')) (':' :: ds) =
        [([':'], ds), ([], ':' :: ds)] := rfl
    -- Giving the colon back leaves nothing to read, as a colon is no word character.
    have hnone : Ways.manyOne isWord (':' :: ds) = [] := by
      simp [Ways.manyOne, isWord_colon]
    rw [hcolon, List.flatMap_cons, List.flatMap_cons, List.flatMap_nil, List.append_nil, hnone,
      List.map_nil, List.append_nil, hrun]
  · rename_i hcolon
    have hone : Ways.one (· == ':') cs = [] := by
      cases cs with
      | nil => rfl
      | cons c cs =>
        have hc : c ≠ ':' := fun h => hcolon cs (by rw [h])
        simp [Ways.one, hc]
    rw [Ways.optional, hone, List.nil_append, List.flatMap_cons, List.flatMap_nil, List.append_nil,
      hrun]

theorem beforeBlanks_eq (cs : List Char) :
    beforeBlanks cs = cs.takeWhile fun c => !isBlank c := by
  induction cs with
  | nil => rfl
  | cons c cs ih =>
    rw [beforeBlanks, Ways.manyOne]
    cases hc : isBlank c with
    | false => simp [ih, hc]
    | true =>
      have hne : Ways.many isBlank cs ≠ [] := by
        intro h
        have hfirst := many_head? isBlank cs
        rw [h] at hfirst
        cases hfirst
      simp [hc, hne]

theorem searchedName_eq (cs : List Char) : searchedName cs = declaredChars cs := by
  have hfirst : (nameReadings cs).head? =
      ((quotedName? cs <|> bareName? cs) <|> parenthesizedName? cs) := by
    rw [nameReadings, List.head?_append, List.head?_append, bareReadings_head?,
      enclosedReadings_eq, enclosedReadings_eq, ← quotedName?_eq, ← parenthesizedName?_eq]
    cases quotedName? cs <;> cases bareName? cs <;> cases parenthesizedName? cs <;> rfl
  rw [searchedName, hfirst, declaredChars, beforeBlanks_eq]
  cases (quotedName? cs <|> bareName? cs) <|> parenthesizedName? cs with
  | some run => rfl
  | none => exact trim_of_solid (solid_token (longestRun_split _ cs))

/-! ## The name as a whole -/

theorem Declares.sublist (h : Declares naming name) : name.Sublist naming := by
  have hdrop : (dropColon naming).Sublist naming := by
    unfold dropColon
    split
    · exact List.sublist_cons_self ..
    · exact List.Sublist.refl _
  have henclosed : ∀ {opens closes : Char → Bool} {run : List Char},
      Enclosed opens closes naming run → (trim run).Sublist naming := by
    rintro opens closes run ⟨opening, closing, rest, rfl, -⟩
    exact (trim_sublist run).trans
      ((List.sublist_append_left run (closing :: rest)).cons opening)
  cases h with
  | quoted h => exact henclosed h
  | bare _ h =>
    obtain ⟨rest, hcs, -⟩ := h
    exact (hcs ▸ List.sublist_append_left ..).trans hdrop
  | parenthesized _ _ h => exact henclosed h
  | token _ _ _ hcs _ => exact List.filter_sublist.trans (hcs ▸ List.sublist_append_left ..)

theorem Declares.trimmed (h : Declares naming name) : Trimmed name := by
  cases h with
  | quoted _ => exact trimmed_trim _
  | bare _ h => exact trimmed_of_solid (solid_of_bare h)
  | parenthesized _ _ _ => exact trimmed_trim _
  | token _ _ _ _ hrun => exact trimmed_of_solid (solid_token hrun)

theorem solid_letters (kind : Kind) : ∀ c ∈ kind.letters, isBlank c = false := by
  have hall : (kind.letters.all fun c => !isBlank c) = true := by cases kind <;> decide
  intro c hc
  simpa using List.all_eq_true.mp hall c hc

theorem trimmed_letters (kind : Kind) : Trimmed kind.letters :=
  trimmed_of_solid (solid_letters kind)

/-- The name is part of the naming part, or of a hook's keyword, and is trimmed. -/
theorem declaredName_spec (kind : Kind) (naming : List Char) :
    Trimmed (declaredName kind naming).toList ∧
      (declaredName kind naming).toList.Sublist (if kind.isHook then kind.letters else naming) := by
  unfold declaredName
  have h := declares_declaredChars naming
  split
  · rw [Kind.keyword, String.toList_ofList]
    exact ⟨trimmed_letters kind, List.Sublist.refl _⟩
  · rw [String.toList_ofList]
    exact ⟨h.trimmed, h.sublist⟩

/-- An element that is no hook has the one name that the rule gives, which is also what the search
finds; a hook has its keyword. No name has blanks at its ends, and none is longer than both the
naming part and the keyword. -/
theorem name_declared (kind : Kind) (naming : List Char) :
    (kind.isHook = false →
      (∀ name : List Char, Declares naming name ↔ declaredName kind naming = String.ofList name) ∧
        declaredName kind naming = String.ofList (searchedName naming)) ∧
      (kind.isHook = true → declaredName kind naming = kind.keyword) ∧
      Trimmed (declaredName kind naming).toList ∧
      (declaredName kind naming).length ≤ max naming.length kind.keyword.length := by
  obtain ⟨htrimmed, hsublist⟩ := declaredName_spec kind naming
  refine ⟨fun hkind => ?_, fun hkind => if_pos hkind, htrimmed, ?_⟩
  · have hname : declaredName kind naming = String.ofList (declaredChars naming) :=
      if_neg (Bool.eq_false_iff.mp hkind)
    constructor
    · intro name
      rw [declares_iff, hname, String.ofList_inj]
    · rw [hname, searchedName_eq]
  · have hlength := hsublist.length_le
    rw [← String.length_toList]
    rw [Kind.keyword, String.length_ofList]
    split at hlength <;> omega

/-- A quote that is not closed leaves the text before the blank, whose parentheses go. -/
theorem name_declared_unclosed :
    Kind.it.isHook = false ∧
      Declares ['"', '(', 'a', ')', ' ', 'b'] ['"', 'a'] ∧
      declaredName .it ['"', '(', 'a', ')', ' ', 'b'] =
        String.ofList (searchedName ['"', '(', 'a', ')', ' ', 'b']) := by
  have hkind : Kind.it.isHook = false := rfl
  have hname : declaredName .it ['"', '(', 'a', ')', ' ', 'b'] = String.ofList ['"', 'a'] := by
    decide +kernel
  obtain ⟨hdeclares, hsearched⟩ := (name_declared .it ['"', '(', 'a', ')', ' ', 'b']).1 hkind
  exact ⟨hkind, (hdeclares _).mpr hname, hsearched⟩

end SpecSkeleton
