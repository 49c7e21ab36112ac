import SpecSkeleton.Proofs.Keyword.Name

/-!
# Quote marks inside a description

A description stands between two quotes of one kind and holds none of that kind. It is shown whole
just if it holds none of the other kind either (`description_whole_iff`), because the first quote of
any kind closes it. If that is its first character, then there is no text between quotes, and the
name is the first token with its quotes.
-/

namespace SpecSkeleton

open Text

/-- The quote that a description between quotes `q` may hold. -/
def otherQuote (q : Char) : Char :=
  if q = '"' then '\'' else '"'

theorem isQuote_iff {c : Char} : isQuote c = true ↔ c = '\'' ∨ c = '"' := by
  simp [isQuote]

section
variable {q : Char}

theorem isQuote_otherQuote (q : Char) : isQuote (otherQuote q) = true := by
  unfold otherQuote
  split <;> rfl

theorem eq_or_eq_otherQuote (hq : isQuote q = true) {c : Char} (hc : isQuote c = true) :
    c = q ∨ c = otherQuote q := by
  rcases isQuote_iff.mp hq with rfl | rfl <;> rcases isQuote_iff.mp hc with rfl | rfl <;> decide

theorem isBlank_of_isQuote (hq : isQuote q = true) : isBlank q = false := by
  rcases isQuote_iff.mp hq with rfl | rfl <;> decide

theorem isBracket_of_isQuote (hq : isQuote q = true) : isBracket q = false := by
  rcases isQuote_iff.mp hq with rfl | rfl <;> decide

theorem isWord_of_isQuote (hq : isQuote q = true) : isWord q = false := by
  rcases isQuote_iff.mp hq with rfl | rfl <;> decide +kernel

/-! ## The text up to the first quote -/

/-- A text between quotes ends at the first quote, of either kind. -/
theorem quoted_of_first {close : Char} {run rest : List Char} (hq : isQuote q = true)
    (hclose : isQuote close = true) (hne : run ≠ []) (hrun : ∀ c ∈ run, isQuote c = false) :
    Quoted (q :: (run ++ close :: rest)) run := by
  refine ⟨q, close, rest, rfl, hq, hclose, hne, ?_, ?_⟩
  · intro c hc
    rw [hrun c hc]
    rfl
  · intro c hc
    cases hc
    rw [hclose]
    rfl

/-- A quote right after the first one leaves no text between them, nor any other form of a name. -/
theorem declares_token_of_quotes {close : Char} {rest : List Char} (hq : isQuote q = true)
    (hclose : isQuote close = true) :
    Declares (q :: close :: rest) (firstToken (q :: close :: rest)) := by
  have hnone : ∀ r, ¬ Quoted (q :: close :: rest) r := by
    rintro r ⟨_, _, _, heq, -, -, hne, hrun⟩
    cases r with
    | nil => exact hne rfl
    | cons c r =>
      obtain ⟨rfl, -⟩ := List.cons.inj (List.cons.inj heq).2
      simpa [hclose] using hrun.inside close (List.mem_cons_self ..)
  have hbare : ∀ r, ¬ Bare (q :: close :: rest) r := by
    rintro r ⟨_, heq, hne, hrun⟩
    have hcolon : dropColon (q :: close :: rest) = q :: close :: rest := by
      rcases isQuote_iff.mp hq with rfl | rfl <;> rfl
    cases r with
    | nil => exact hne rfl
    | cons c r =>
      rw [hcolon] at heq
      obtain ⟨rfl, -⟩ := List.cons.inj heq
      simpa [isWord_of_isQuote hq] using hrun.inside q (List.mem_cons_self ..)
  have hparenthesized : ∀ r, ¬ Parenthesized (q :: close :: rest) r := by
    rintro r ⟨opening, _, _, heq, hopen, -⟩
    obtain ⟨rfl, -⟩ := List.cons.inj heq
    rcases isQuote_iff.mp hq with rfl | rfl <;> exact absurd hopen (by decide)
  exact .token hnone hbare hparenthesized List.takeWhile_append_dropWhile.symm
    (longestRun_split _ _)

end

/-! ## The name of a quoted description -/

section
variable {kind : Kind} {q : Char} {description : List Char}

theorem declaredName_of_declares (hkind : kind.isHook = false) {naming name : List Char}
    (h : Declares naming name) : declaredName kind naming = String.ofList name := by
  rw [declaredName, if_neg (by simp [hkind]), h.declaredChars_eq]

theorem isQuote_of_notMem (hq : isQuote q = true) (hown : q ∉ description)
    (hother : otherQuote q ∉ description) : ∀ c ∈ description, isQuote c = false := by
  intro c hc
  rw [Bool.eq_false_iff]
  intro hquote
  rcases eq_or_eq_otherQuote hq hquote with rfl | rfl
  · exact hown hc
  · exact hother hc

theorem mem_firstToken_of_quote (hq : isQuote q = true) (cs : List Char) :
    q ∈ firstToken (q :: cs) := by
  have hfirst : q ∈ (q :: cs).takeWhile fun c => !isBlank c := by
    simp [isBlank_of_isQuote hq]
  exact List.mem_filter.mpr ⟨hfirst, by simp [isBracket_of_isQuote hq]⟩

theorem declaredName_of_plain (hkind : kind.isHook = false) (hq : isQuote q = true)
    (hne : description ≠ []) (hplain : ∀ c ∈ description, isQuote c = false) (tail : List Char) :
    declaredName kind (q :: (description ++ q :: tail)) = String.ofList (trim description) :=
  declaredName_of_declares hkind (.quoted (quoted_of_first hq hq hne hplain))

theorem declaredName_of_other (hkind : kind.isHook = false) (hq : isQuote q = true)
    {shown rest : List Char} (hne : shown ≠ []) (hplain : ∀ c ∈ shown, isQuote c = false)
    (tail : List Char) :
    declaredName kind (q :: (shown ++ otherQuote q :: rest ++ q :: tail)) =
      String.ofList (trim shown) := by
  rw [List.append_assoc]
  exact declaredName_of_declares hkind
    (.quoted (quoted_of_first hq (isQuote_otherQuote q) hne hplain))

/-- A description is shown whole just if it holds no quote of the other kind. Else it is shown up to
the first of these, or, if that is its first character, by the first token of the naming part. -/
theorem description_whole_iff (hkind : kind.isHook = false) (hq : isQuote q = true)
    (hne : description ≠ []) (hown : q ∉ description) (tail : List Char) :
    let naming := q :: (description ++ q :: tail)
    (declaredName kind naming = String.ofList (trim description) ↔ otherQuote q ∉ description) ∧
      (∀ shown rest, description = shown ++ otherQuote q :: rest → otherQuote q ∉ shown →
        shown ≠ [] → declaredName kind naming = String.ofList (trim shown)) ∧
      ∀ rest, description = otherQuote q :: rest →
        declaredName kind naming = String.ofList (firstToken naming) := by
  intro naming
  have hcut : ∀ shown rest, description = shown ++ otherQuote q :: rest → otherQuote q ∉ shown →
      shown ≠ [] → declaredName kind naming = String.ofList (trim shown) := by
    rintro shown rest rfl hnone hshown
    have hplain := isQuote_of_notMem hq (fun h => hown (List.mem_append_left _ h)) hnone
    exact declaredName_of_other hkind hq hshown hplain tail
  have htoken : ∀ rest, description = otherQuote q :: rest →
      declaredName kind naming = String.ofList (firstToken naming) := by
    rintro rest rfl
    exact declaredName_of_declares hkind (declares_token_of_quotes hq (isQuote_otherQuote q))
  refine ⟨⟨fun hname hheld => ?_, fun hnone => ?_⟩, hcut, htoken⟩
  · obtain ⟨shown, rest, hsplit, hnone⟩ := List.eq_append_cons_of_mem hheld
    by_cases hshown : shown = []
    · -- The name would begin with the opening quote, which the description does not hold.
      rw [htoken rest (by rw [hsplit, hshown, List.nil_append]), String.ofList_inj] at hname
      have hopening : q ∈ trim description := hname ▸ mem_firstToken_of_quote hq _
      exact hown ((trim_sublist description).subset hopening)
    · -- The name would hold the other quote, which is not shown.
      rw [hcut shown rest hsplit hnone hshown, String.ofList_inj] at hname
      have hother : otherQuote q ∈ trim shown :=
        hname ▸ mem_trim hheld (isBlank_of_isQuote (isQuote_otherQuote q))
      exact hnone ((trim_sublist shown).subset hother)
  · exact declaredName_of_plain hkind hq hne (isQuote_of_notMem hq hown hnone) tail

end

/-- A description with an apostrophe is shown up to it. -/
theorem description_whole_iff_apostrophe :
    let description := [' ', 'i', 't', '\'', 's']
    let name := declaredName .it ('"' :: (description ++ '"' :: [' ', 'd', 'o']))
    Kind.it.isHook = false ∧ isQuote '"' = true ∧ description ≠ [] ∧ '"' ∉ description ∧
      name ≠ String.ofList (trim description) ∧ name = String.ofList (trim [' ', 'i', 't']) := by
  intro description name
  have hne : description ≠ [] := List.cons_ne_nil _ _
  have hown : '"' ∉ description := by decide
  have hheld : otherQuote '"' ∈ description := by decide
  obtain ⟨hwhole, hcut, -⟩ :=
    @description_whole_iff .it '"' description rfl rfl hne hown [' ', 'd', 'o']
  exact ⟨rfl, rfl, hne, hown, fun h => hwhole.mp h hheld,
    hcut [' ', 'i', 't'] ['s'] rfl (by decide) (by decide)⟩

/-- Not every description is shown whole: the other quote closes it too. -/
theorem description_not_whole :
    ¬ ∀ (kind : Kind) (q : Char) (description tail : List Char), kind.isHook = false →
      isQuote q = true → description ≠ [] → (∀ c ∈ description, c ≠ q ∧ isRowEnd c = false) →
      declaredName kind (q :: (description ++ q :: tail)) = String.ofList (trim description) := by
  intro h
  have hinside : ∀ c ∈ ['i', 't', '\'', 's'], c ≠ '"' ∧ isRowEnd c = false := by
    simp [isRowEnd]
  have hname := h .it '"' ['i', 't', '\'', 's'] [] rfl rfl (List.cons_ne_nil _ _) hinside
  exact absurd hname (by decide +kernel)

end SpecSkeleton
