import SpecSkeleton.Keyword.Line

/-!
# Spelling without case

A character stands for at most one plain letter (`plainLetter`), so a text has at most one keyword
at its head and none where the receiver stands. `spelled?` takes off just the characters that stand
for the letters of a word, and `keywordAt?_eq_some_iff` says that the search for a keyword misses
none.
-/

namespace SpecSkeleton

open Text

/-- The plain letter that a character stands for when case is ignored. -/
def plainLetter (c : Char) : Char :=
  if c = 'ſ' then 's' else if c = 'İ' ∨ c = 'ı' then 'i' else c.toLower

/-- A character that stands for itself. -/
def isPlain (k : Char) : Bool :=
  k.toLower == k && k != 'ſ' && k != 'İ' && k != 'ı'

theorem plainLetter_of_toLower {k c : Char} (hk : isPlain k = true) (h : c.toLower = k) :
    plainLetter c = k := by
  simp only [isPlain, Bool.and_eq_true, beq_iff_eq, bne_iff_ne, ne_eq] at hk
  obtain ⟨⟨⟨-, hs⟩, hI⟩, hi⟩ := hk
  have h1 : c ≠ 'ſ' := by rintro rfl; exact hs (by rw [← h]; decide)
  have h2 : c ≠ 'İ' := by rintro rfl; exact hI (by rw [← h]; decide)
  have h3 : c ≠ 'ı' := by rintro rfl; exact hi (by rw [← h]; decide)
  simp [plainLetter, h1, h2, h3, h]

theorem sameLetter_iff {k c : Char} (hk : isPlain k = true) :
    sameLetter k c = true ↔ plainLetter c = k := by
  constructor
  · intro h
    simp only [sameLetter, Bool.or_eq_true, Bool.and_eq_true, beq_iff_eq] at h
    rcases h with ((rfl | h) | ⟨rfl, rfl⟩) | ⟨rfl, rfl | rfl⟩
    · refine plainLetter_of_toLower hk ?_
      simp only [isPlain, Bool.and_eq_true, beq_iff_eq] at hk
      exact hk.1.1.1
    · exact plainLetter_of_toLower hk h
    · rfl
    · rfl
    · rfl
  · intro h
    unfold plainLetter at h
    split at h
    · subst h; subst c; decide
    · split at h
      · next hi =>
        subst h
        rcases hi with rfl | rfl <;> decide
      · simp [sameLetter, h]

theorem eq_append_of_spelled? {word cs head rest : List Char}
    (hword : ∀ k ∈ word, isPlain k = true) (h : spelled? word cs = some (head, rest)) :
    cs = head ++ rest ∧ head.map plainLetter = word := by
  induction word generalizing cs head with
  | nil => cases h; exact ⟨rfl, rfl⟩
  | cons k word ih =>
    cases cs with
    | nil => cases h
    | cons c cs =>
      simp only [spelled?] at h
      split at h
      · next hc =>
        obtain ⟨⟨tail, rest'⟩, ht, heq⟩ := Option.map_eq_some_iff.mp h
        cases heq
        obtain ⟨rfl, hmap⟩ := ih (fun k hk => hword k (List.mem_cons_of_mem _ hk)) ht
        have hc := (sameLetter_iff (hword k (List.mem_cons_self ..))).mp hc
        exact ⟨rfl, by rw [List.map_cons, hc, hmap]⟩
      · cases h

theorem spelled?_append {word head : List Char} (hword : ∀ k ∈ word, isPlain k = true)
    (hmap : head.map plainLetter = word) (rest : List Char) :
    spelled? word (head ++ rest) = some (head, rest) := by
  induction head generalizing word with
  | nil => subst hmap; rfl
  | cons c head ih =>
    subst hmap
    have hc := (sameLetter_iff (hword _ (List.mem_cons_self ..))).mpr (rfl : plainLetter c = _)
    have ih := ih (fun k hk => hword k (List.mem_cons_of_mem _ hk)) rfl
    simp [spelled?, hc, ih]

theorem isPlain_receiver : ∀ k ∈ receiver, isPlain k = true :=
  List.all_eq_true.mp (by decide)

theorem isPlain_letters (kind : Kind) : ∀ k ∈ kind.letters, isPlain k = true :=
  List.all_eq_true.mp (by cases kind <;> decide)

/-! ## At most one keyword -/

theorem prefix_of_spelled? {word cs head rest : List Char} (hword : ∀ k ∈ word, isPlain k = true)
    (h : spelled? word cs = some (head, rest)) : word <+: cs.map plainLetter := by
  obtain ⟨rfl, rfl⟩ := eq_append_of_spelled? hword h
  exact ⟨rest.map plainLetter, by rw [List.map_append]⟩

/-- No keyword is the head of another. -/
theorem Kind.eq_of_letters_prefix {k l : Kind} (h : k.letters <+: l.letters) : k = l := by
  revert h
  cases k <;> cases l <;> decide

theorem Kind.eq_of_spelled? {k l : Kind} {cs : List Char} {x y : List Char × List Char}
    (hk : spelled? k.letters cs = some x) (hl : spelled? l.letters cs = some y) : k = l := by
  have hk := prefix_of_spelled? (isPlain_letters k) hk
  have hl := prefix_of_spelled? (isPlain_letters l) hl
  rcases List.prefix_or_prefix_of_prefix hk hl with h | h
  · exact Kind.eq_of_letters_prefix h
  · exact (Kind.eq_of_letters_prefix h).symm

theorem keywordAt?_eq_some_iff {cs : List Char} {x : List Char × List Char} :
    keywordAt? cs = some x ↔ ∃ k : Kind, spelled? k.letters cs = some x := by
  constructor
  · intro h
    obtain ⟨k, -, hk⟩ := List.exists_of_findSome?_eq_some h
    exact ⟨k, hk⟩
  · rintro ⟨k, hk⟩
    cases h : keywordAt? cs with
    | none =>
      have := List.findSome?_eq_none_iff.mp h k k.mem_all
      rw [this] at hk
      cases hk
    | some y =>
      obtain ⟨l, -, hl⟩ := List.exists_of_findSome?_eq_some h
      rw [Kind.eq_of_spelled? hk hl, hl] at hk
      exact hk

/-! ## The receiver -/

/-- No keyword begins where a receiver does. -/
theorem not_letters_prefix_receiver (k : Kind) :
    ¬ k.letters <+: receiver ∧ ¬ receiver <+: k.letters := by
  cases k <;> decide

theorem spelled?_letters_of_receiver {cs : List Char} {x : List Char × List Char}
    (h : spelled? receiver cs = some x) (k : Kind) : spelled? k.letters cs = none := by
  cases hk : spelled? k.letters cs with
  | none => rfl
  | some y =>
    have hr := prefix_of_spelled? isPlain_receiver h
    have hl := prefix_of_spelled? (isPlain_letters k) hk
    obtain ⟨h1, h2⟩ := not_letters_prefix_receiver k
    rcases List.prefix_or_prefix_of_prefix hr hl with h | h
    · exact absurd h h2
    · exact absurd h h1

theorem keywordAt?_of_receiver {cs : List Char} {x : List Char × List Char}
    (h : spelled? receiver cs = some x) : keywordAt? cs = none :=
  List.findSome?_eq_none_iff.mpr fun k _ => spelled?_letters_of_receiver h k

end SpecSkeleton
