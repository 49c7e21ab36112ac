import Mathlib.Data.List.TakeWhile
import SpecSkeleton.Markup.Tag

/-!
# Escaped texts

An escaped text holds nothing that is taken for a tag, whatever comes after it as long as that
closes no bracket (`pieces_escape`): no bracket of the text gets to be the first one, and nothing
becomes the start of a tag that was none.
-/

namespace SpecSkeleton.Markup

/-! ## Tags -/

def isBracket (c : Char) : Bool :=
  c == ']' || c == '['

/-- Whether a text could be the inside of a tag as far as its first character goes. -/
def startsTag (cs : List Char) : Bool :=
  (cs.head?.map opensTag).getD false

theorem not_opensTag_of_isBracket {c : Char} (h : isBracket c = true) : opensTag c = false := by
  rw [isBracket, Bool.or_eq_true, beq_iff_eq, beq_iff_eq] at h
  rcases h with rfl | rfl <;> decide

/-- A tag ends where the first bracket is, and that closes it. -/
theorem tagLength?_eq (cs : List Char) :
    tagLength? cs =
      if startsTag cs = true ∧ cs.find? isBracket = some ']' then
        some (cs.takeWhile fun c => !isBracket c).length
      else none := by
  have hbracket : (fun c => c != ']' && c != '[') = fun c => !isBracket c := by
    funext c
    simp [isBracket, bne, Bool.not_or]
  have hstarts : ((cs.takeWhile fun c => !isBracket c).head?.map opensTag).getD false =
      startsTag cs := by
    cases cs with
    | nil => rfl
    | cons c cs =>
      cases hc : isBracket c with
      | true => simp [startsTag, hc, not_opensTag_of_isBracket hc]
      | false => simp [startsTag, hc]
  have hdrop : cs.drop (cs.takeWhile fun c => !isBracket c).length =
      cs.dropWhile fun c => !isBracket c :=
    (congrArg (List.drop _) List.takeWhile_append_dropWhile.symm).trans List.drop_left
  have hfind : (cs.dropWhile fun c => !isBracket c).head? = cs.find? isBracket :=
    (List.find?_eq_head?_dropWhile_not isBracket cs).symm
  unfold tagLength?
  simp only [hbracket, hstarts, hdrop, hfind, Bool.and_eq_true, beq_iff_eq]

/-- What stands between brackets is a tag, whatever comes after it. -/
theorem tagLength?_body {body : List Char} (hstarts : startsTag body = true)
    (hbody : body.find? isBracket = none) (rest : List Char) :
    tagLength? (body ++ ']' :: rest) = some body.length := by
  have hnone : ∀ c ∈ body, (!isBracket c) = true := by simpa using hbody
  rw [tagLength?_eq, if_pos]
  · rw [List.takeWhile_append_of_pos hnone, List.takeWhile_cons_of_neg (by decide),
      List.append_nil]
  · constructor
    · cases body with
      | nil => simp [startsTag] at hstarts
      | cons c cs => simpa [startsTag] using hstarts
    · rw [List.find?_append, hbody, Option.none_or, List.find?_cons_of_pos (by decide)]

theorem body_of_tagLength? {cs : List Char} {length : Nat} (h : tagLength? cs = some length) :
    startsTag (cs.take length) = true ∧ (cs.take length).find? isBracket = none := by
  rw [tagLength?_eq] at h
  split at h
  · rename_i hcs
    cases h
    have htake : cs.take (cs.takeWhile fun c => !isBracket c).length =
        cs.takeWhile fun c => !isBracket c :=
      (List.prefix_iff_eq_take.mp (List.takeWhile_prefix _)).symm
    rw [htake]
    constructor
    · cases cs with
      | nil => simp [startsTag] at hcs
      | cons c cs =>
        have hopens : opensTag c = true := by simpa [startsTag] using hcs.1
        have hc : isBracket c = false := by
          cases hc : isBracket c with
          | false => rfl
          | true => rw [not_opensTag_of_isBracket hc] at hopens; cases hopens
        simpa [startsTag, hc] using hopens
    · rw [List.find?_eq_none]
      intro c hc
      simpa using List.mem_takeWhile_imp hc
  · cases h

/-! ## Pieces -/

/-- A piece that opens and closes nothing. -/
def Piece.IsText : Piece → Prop
  | char _ => True
  | tag n _ => n % 2 = 1

theorem isText_of_mem_backslashes {n : Nat} : ∀ p ∈ backslashes n, p.IsText := by
  intro p hp
  rw [List.eq_of_mem_replicate hp]
  exact True.intro

theorem piecesAfter_replicate (n k : Nat) (cs : List Char) :
    piecesAfter n (List.replicate k '\\' ++ cs) = piecesAfter (n + k) cs := by
  induction k generalizing n with
  | zero => rfl
  | succ k ih =>
    rw [List.replicate_succ, List.cons_append, piecesAfter, if_pos rfl, ih]
    congr 1
    omega

theorem piecesAfter_tag {body : List Char} (hstarts : startsTag body = true)
    (hbody : body.find? isBracket = none) (n : Nat) (rest : List Char) :
    piecesAfter n (bracketed body ++ rest) = .tag n body :: piecesAfter 0 rest := by
  have happend : bracketed body ++ rest = '[' :: (body ++ ']' :: rest) := by simp [bracketed]
  rw [happend, piecesAfter, if_neg (by decide), if_pos rfl, tagLength?_body hstarts hbody]
  simp

/-! ## Escaping -/

/-- A text after a number of backslashes, written so that no part of it is taken for a tag. -/
def escapedAfter (n : Nat) (cs : List Char) : List Char :=
  (piecesAfter n cs).flatMap Piece.escaped

theorem flatMap_escaped_backslashes (n : Nat) :
    (backslashes n).flatMap Piece.escaped = List.replicate n '\\' := by
  induction n with
  | zero => rfl
  | succ n ih => exact congrArg ('\\' :: ·) ih

theorem escapedAfter_nil (n : Nat) : escapedAfter n [] = List.replicate n '\\' := by
  rw [escapedAfter, piecesAfter, flatMap_escaped_backslashes]

theorem escapedAfter_backslash (n : Nat) (cs : List Char) :
    escapedAfter n ('\\' :: cs) = escapedAfter (n + 1) cs := by
  rw [escapedAfter, piecesAfter, if_pos rfl, escapedAfter]

theorem escapedAfter_tag (n : Nat) {cs : List Char} {length : Nat}
    (h : tagLength? cs = some length) :
    escapedAfter n ('[' :: cs) =
      List.replicate (2 * n + 1) '\\' ++ bracketed (cs.take length) ++
        escapedAfter 0 (cs.drop (length + 1)) := by
  rw [escapedAfter, piecesAfter, if_neg (by decide), if_pos rfl, h]
  rfl

theorem escapedAfter_char (n : Nat) {c : Char} {cs : List Char} (hc : c ≠ '\\')
    (h : c = '[' → tagLength? cs = none) :
    escapedAfter n (c :: cs) = List.replicate n '\\' ++ c :: escapedAfter 0 cs := by
  rw [escapedAfter, piecesAfter, if_neg hc]
  split
  · rename_i hbracket
    rw [h hbracket, hbracket]
    simp [flatMap_escaped_backslashes, Piece.escaped, escapedAfter]
  · simp [flatMap_escaped_backslashes, Piece.escaped, escapedAfter]

/-- The cases in which escaping differs. -/
theorem escapedAfter_induct {motive : Nat → List Char → Prop}
    (nil : ∀ n, motive n [])
    (backslash : ∀ n cs, motive (n + 1) cs → motive n ('\\' :: cs))
    (tag : ∀ n cs length, tagLength? cs = some length → motive 0 (cs.drop (length + 1)) →
      motive n ('[' :: cs))
    (char : ∀ n c cs, c ≠ '\\' → (c = '[' → tagLength? cs = none) → motive 0 cs →
      motive n (c :: cs)) (n : Nat) (cs : List Char) : motive n cs := by
  induction n, cs using piecesAfter.induct with
  | case1 n => exact nil n
  | case2 n cs ih => exact backslash n cs ih
  | case3 n cs length h _ ih => exact tag n cs length h ih
  | case4 n cs h _ ih => exact char n '[' cs (by decide) (fun _ => h) ih
  | case5 n c cs hc hbracket ih => exact char n c cs hc (fun h => absurd h hbracket) ih

theorem find?_replicate_backslash (n : Nat) (cs : List Char) :
    (List.replicate n '\\' ++ cs).find? isBracket = cs.find? isBracket := by
  rw [List.find?_append, List.find?_eq_none.mpr, Option.none_or]
  intro c hc
  rw [List.eq_of_mem_replicate hc]
  decide

/-- Escaping keeps the first bracket. -/
theorem find?_escapedAfter (n : Nat) (cs : List Char) :
    (escapedAfter n cs).find? isBracket = cs.find? isBracket := by
  induction n, cs using escapedAfter_induct with
  | nil n => simpa [escapedAfter_nil] using find?_replicate_backslash n []
  | backslash n cs ih => rw [escapedAfter_backslash, ih, List.find?_cons_of_neg (by decide)]
  | tag n cs length h ih =>
    rw [escapedAfter_tag n h, List.append_assoc, find?_replicate_backslash]
    rfl
  | char n c cs hc h ih =>
    rw [escapedAfter_char n hc h, find?_replicate_backslash, List.find?_cons, List.find?_cons, ih]

theorem head?_escapedAfter_succ (n : Nat) (cs : List Char) :
    (escapedAfter (n + 1) cs).head? = some '\\' := by
  have hcons : ∀ k ds, (List.replicate (k + 1) '\\' ++ ds).head? = some '\\' := fun _ _ => rfl
  induction n, cs using escapedAfter_induct with
  | nil n => simpa [escapedAfter_nil] using hcons n []
  | backslash n cs ih => rw [escapedAfter_backslash, ih]
  | tag n cs length h ih => rw [escapedAfter_tag _ h, List.append_assoc, hcons]
  | char n c cs hc h ih => rw [escapedAfter_char _ hc h, hcons]

/-- Escaping makes nothing the start of a tag that is none. -/
theorem startsTag_of_escapedAfter {c : Char} {cs rest : List Char}
    (h : startsTag (escapedAfter 0 (c :: cs) ++ rest) = true) : startsTag (c :: cs) = true := by
  have hstart : ∀ {d : Char} {ds : List Char}, ds.head? = some d →
      startsTag (ds ++ rest) = opensTag d := by
    intro d ds hd
    simp [startsTag, List.head?_append, hd]
  by_cases hc : c = '\\'
  · subst hc
    rw [escapedAfter_backslash, hstart (head?_escapedAfter_succ 0 cs)] at h
    cases h
  by_cases hbracket : c = '['
  · subst hbracket
    cases htag : tagLength? cs with
    | some length =>
      rw [escapedAfter_tag 0 htag, hstart (d := '\\') rfl] at h
      cases h
    | none =>
      rw [escapedAfter_char 0 hc fun _ => htag, hstart (d := '[') rfl] at h
      cases h
  · rw [escapedAfter_char 0 hc fun h => absurd h hbracket, hstart (d := c) rfl] at h
    exact h

theorem tagLength?_escapedAfter {cs rest : List Char} (h : tagLength? cs = none)
    (hrest : rest.find? isBracket ≠ some ']') : tagLength? (escapedAfter 0 cs ++ rest) = none := by
  rw [tagLength?_eq, if_neg]
  rintro ⟨hstarts, hfind⟩
  rw [List.find?_append, find?_escapedAfter] at hfind
  cases cs with
  | nil => exact hrest hfind
  | cons c cs =>
    have hcloses : (c :: cs).find? isBracket ≠ some ']' := fun hcloses => by
      rw [tagLength?_eq, if_pos ⟨startsTag_of_escapedAfter hstarts, hcloses⟩] at h
      cases h
    cases hcs : (c :: cs).find? isBracket with
    | none => exact hrest (by rwa [hcs, Option.none_or] at hfind)
    | some d => exact hcloses (by rwa [hcs, Option.some_or, ← hcs] at hfind)

/-- An escaped text opens and closes nothing, and leaves what comes after it as it is but for
backslashes before it. -/
theorem piecesAfter_escapedAfter {rest : List Char} (hrest : rest.find? isBracket ≠ some ']')
    (n : Nat) (cs : List Char) :
    ∃ ps m, (∀ p ∈ ps, p.IsText) ∧
      piecesAfter 0 (escapedAfter n cs ++ rest) = ps ++ piecesAfter m rest := by
  induction n, cs using escapedAfter_induct with
  | nil n =>
    refine ⟨[], 0 + n, by simp, ?_⟩
    rw [escapedAfter_nil, piecesAfter_replicate, List.nil_append]
  | backslash n cs ih => rwa [escapedAfter_backslash]
  | tag n cs length h ih =>
    obtain ⟨ps, m, hps, heq⟩ := ih
    obtain ⟨hstarts, hbody⟩ := body_of_tagLength? h
    refine ⟨.tag (0 + (2 * n + 1)) (cs.take length) :: ps, m, ?_, ?_⟩
    · rintro p (_ | ⟨_, hp⟩)
      · show (0 + (2 * n + 1)) % 2 = 1
        omega
      · exact hps p hp
    · rw [escapedAfter_tag n h, List.append_assoc, List.append_assoc, piecesAfter_replicate,
        piecesAfter_tag hstarts hbody, heq, List.cons_append]
  | char n c cs hc h ih =>
    obtain ⟨ps, m, hps, heq⟩ := ih
    refine ⟨backslashes (0 + n) ++ .char c :: ps, m, ?_, ?_⟩
    · intro p hp
      rw [List.mem_append, List.mem_cons] at hp
      rcases hp with hp | rfl | hp
      · exact isText_of_mem_backslashes p hp
      · exact True.intro
      · exact hps p hp
    · rw [escapedAfter_char n hc h, List.append_assoc, piecesAfter_replicate, List.cons_append,
        piecesAfter, if_neg hc]
      split
      · rename_i hbracket
        rw [tagLength?_escapedAfter (h hbracket) hrest, ← hbracket, heq]
        simp
      · rw [heq]
        simp

theorem guardEnd_cases (cs : List Char) : guardEnd cs = cs ∨ guardEnd cs = cs ++ ['\\'] := by
  unfold guardEnd
  split
  · exact .inl rfl
  · exact .inr rfl
  · exact .inl rfl

theorem pieces_escape (s : String) {rest : List Char}
    (hrest : rest.find? isBracket ≠ some ']') :
    ∃ ps m, (∀ p ∈ ps, p.IsText) ∧
      pieces ((escape s).toList ++ rest) = ps ++ piecesAfter m rest := by
  rw [escape, String.toList_ofList]
  rcases guardEnd_cases (escapedAfter 0 s.toList) with h | h
  · obtain ⟨ps, m, hps, heq⟩ := piecesAfter_escapedAfter hrest 0 s.toList
    exact ⟨ps, m, hps, by rw [pieces, ← heq, ← h]; rfl⟩
  · have hslash : ('\\' :: rest).find? isBracket ≠ some ']' := by
      rwa [List.find?_cons_of_neg (by decide)]
    obtain ⟨ps, m, hps, heq⟩ := piecesAfter_escapedAfter hslash 0 s.toList
    refine ⟨ps, m + 1, hps, ?_⟩
    rw [piecesAfter, if_pos rfl] at heq
    rw [← heq, pieces, List.append_cons, ← h]
    rfl

end SpecSkeleton.Markup
