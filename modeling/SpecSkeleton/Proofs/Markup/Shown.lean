import SpecSkeleton.Markup.Plain
import SpecSkeleton.Proofs.Markup.Escape
import SpecSkeleton.Proofs.Text.Lower
import SpecSkeleton.Proofs.Text.Rows

/-!
# What a markup text shows

An escaped text can always be shown, alone (`content_escape`) or in a colour
(`content_styled_escape`). A text of characters that markup gives no meaning is shown as it is, and
so is one in a colour.
-/

namespace SpecSkeleton.Markup

/-! ## Showing -/

namespace Showing

variable {s t : Showing}

/-- What is open and what has got its style. -/
def SameStyles (s t : Showing) : Prop :=
  t.tags = s.tags ∧ t.parts = s.parts

theorem piece_text {p : Piece} (hp : p.IsText) (s : Showing) :
    ∃ t, s.piece p = .ok t ∧ s.SameStyles t := by
  cases p with
  | char c => exact ⟨_, rfl, rfl, rfl⟩
  | tag n body =>
    have hodd : n % 2 = 1 := hp
    simp only [piece, if_pos hodd, Except.ok.injEq, exists_eq_left']
    exact ⟨rfl, rfl⟩

/-- Texts never fail to be shown, and keep what is open. -/
theorem foldlM_text {ps : List Piece} (hps : ∀ p ∈ ps, p.IsText) (s : Showing) :
    ∃ t, ps.foldlM piece s = .ok t ∧ s.SameStyles t := by
  induction ps generalizing s with
  | nil => exact ⟨s, rfl, rfl, rfl⟩
  | cons p ps ih =>
    obtain ⟨t, ht, htags, hparts⟩ := piece_text (hps p List.mem_cons_self) s
    obtain ⟨u, hu, hutags, huparts⟩ := ih (fun q hq => hps q (List.mem_cons_of_mem p hq)) t
    refine ⟨u, ?_, hutags.trans htags, huparts.trans hparts⟩
    rw [List.foldlM_cons, ht]
    exact hu

theorem foldlM_chars (cs : List Char) (s : Showing) :
    (cs.map Piece.char).foldlM piece s = .ok { s with stretch := cs.reverse ++ s.stretch } := by
  induction cs generalizing s with
  | nil => rfl
  | cons c cs ih =>
    rw [List.map_cons, List.foldlM_cons]
    refine (ih _).trans ?_
    simp

end Showing

theorem content_of_foldlM {markup : String} {s : Showing}
    (h : (pieces markup.toList).foldlM Showing.piece .empty = .ok s)
    (hparts : ∀ p ∈ s.flush.finishAll.parts, p.hasBadNumber = false) :
    content markup = .ok s.flush.finishAll.shown := by
  have hany : (s.flush.finishAll.parts.any fun p =>
      p.isKept s.flush.finishAll.shown && p.hasBadNumber) = false := by
    rw [List.any_eq_false]
    intro p hp
    simp [hparts p hp]
  simp only [content, h]
  show (if _ then _ else _) = _
  rw [hany]
  rfl

/-- An escaped text can always be shown. -/
theorem content_escape (s : String) : ∃ cs, content (escape s) = .ok cs := by
  have hrest : ([] : List Char).find? isBracket ≠ some ']' := by simp
  obtain ⟨ps, m, hps, hpieces⟩ := pieces_escape s hrest
  rw [List.append_nil, piecesAfter] at hpieces
  have htext : ∀ p ∈ pieces (escape s).toList, p.IsText := by
    rw [hpieces]
    intro p hp
    exact (List.mem_append.mp hp).elim (hps p) (isText_of_mem_backslashes p)
  obtain ⟨t, ht, htags, hparts⟩ := Showing.foldlM_text htext .empty
  refine ⟨_, content_of_foldlM ht ?_⟩
  have hnone : t.flush.finishAll.parts = [] := by
    have hflush : t.flush.tags = [] := htags
    rw [Showing.finishAll, hflush]
    exact hparts
  simp [hnone]

/-! ## Inert texts -/

/-- A character that markup gives no meaning and a terminal shows. -/
def isInert (c : Char) : Bool :=
  c != '\\' && c != '[' && c != ':' && !isControl c

section Inert

variable {cs : List Char}

theorem piecesAfter_inert (h : ∀ c ∈ cs, isInert c = true) (rest : List Char) :
    piecesAfter 0 (cs ++ rest) = cs.map .char ++ piecesAfter 0 rest := by
  induction cs with
  | nil => rfl
  | cons c cs ih =>
    have hc := h c List.mem_cons_self
    simp only [isInert, Bool.and_eq_true, bne_iff_ne] at hc
    rw [List.cons_append, piecesAfter, if_neg hc.1.1.1, if_neg hc.1.1.2,
      ih fun d hd => h d (List.mem_cons_of_mem c hd)]
    rfl

theorem unescape_inert (h : ∀ c ∈ cs, isInert c = true) : unescape cs = cs := by
  induction cs with
  | nil => rfl
  | cons c cs ih =>
    have hc := h c List.mem_cons_self
    simp only [isInert, Bool.and_eq_true, bne_iff_ne] at hc
    have hstep : unescape (c :: cs) = c :: unescape cs := by
      rw [unescape]
      rintro ds rfl -
      exact hc.1.1.1 rfl
    rw [hstep, ih fun d hd => h d (List.mem_cons_of_mem c hd)]

theorem withPictures_inert (h : ∀ c ∈ cs, isInert c = true) : withPictures cs = cs := by
  induction cs with
  | nil => rw [withPictures]
  | cons c cs ih =>
    have hc := h c List.mem_cons_self
    simp only [isInert, Bool.and_eq_true, bne_iff_ne] at hc
    rw [withPictures, ih fun d hd => h d (List.mem_cons_of_mem c hd)]
    exact hc.1.2

theorem shownStretch_inert (h : ∀ c ∈ cs, isInert c = true) : shownStretch cs = cs := by
  rw [shownStretch, unescape_inert h, withPictures_inert h, List.filter_eq_self]
  intro c hc
  have hinert := h c hc
  simp only [isInert, Bool.and_eq_true] at hinert
  exact hinert.2

theorem guardEnd_inert (h : ∀ c ∈ cs, isInert c = true) : guardEnd cs = cs := by
  unfold guardEnd
  split
  · rfl
  · rename_i heq
    have hmem : '\\' ∈ cs := by rw [← List.mem_reverse, heq]; exact List.mem_cons_self
    cases h '\\' hmem
  · rfl

end Inert

theorem Showing.flush_of_ended {s : Showing} (h : s.stretch = []) : s.flush = s := by
  rw [flush, h, List.reverse_nil, shownStretch_inert (by simp), List.append_nil, ← h]

/-- There is nothing to escape in a text that markup has no part in. -/
theorem escape_inert {s : String} (h : ∀ c ∈ s.toList, isInert c = true) : escape s = s := by
  have hpieces : (pieces s.toList).flatMap Piece.escaped = s.toList := by
    rw [pieces, ← List.append_nil s.toList, piecesAfter_inert h, piecesAfter]
    simp [backslashes, List.flatMap_map, Piece.escaped, List.flatMap_singleton']
  rw [escape, hpieces, guardEnd_inert h, String.ofList_toList]

/-- A text that markup has no part in is shown as it is. -/
theorem content_inert {s : String} (h : ∀ c ∈ s.toList, isInert c = true) :
    content s = .ok s.toList := by
  have hpieces : pieces s.toList = s.toList.map .char := by
    rw [pieces, ← List.append_nil s.toList, piecesAfter_inert h, piecesAfter]
    simp [backslashes]
  have hfold : (pieces s.toList).foldlM Showing.piece .empty =
      .ok { Showing.empty with stretch := s.toList.reverse } := by
    rw [hpieces, Showing.foldlM_chars]
    rw [Showing.empty, List.append_nil]
  refine (content_of_foldlM hfold ?_).trans ?_
  · intro p hp
    cases hp
  · show Except.ok ([] ++ shownStretch s.toList.reverse.reverse) = _
    rw [List.reverse_reverse, shownStretch_inert h, List.nil_append]

/-! ## Colours -/

/-- A colour that is opened and closed by its name. -/
structure IsColour (style : List Char) : Prop where
  starts : startsTag style = true
  unbracketed : style.find? isBracket = none
  no_parameters : '=' ∉ style
  opens : style.head? ≠ some '/'
  no_handler : isHandlerName style = false
  trimmed : Text.trim style = style
  read : Style.ofChars style = .ok { color := some style }

/-- The words that mean something in a style other than a colour. -/
def styleWords : List (List Char) :=
  [Style.plainName, ['o', 'n'], ['n', 'o', 't'], ['l', 'i', 'n', 'k']]

/-- A colour of small letters that is known by its name. -/
theorem ofChars_of_name {cs : List Char} (hsmall : ∀ c ∈ cs, Text.IsSmall c) (hne : cs ≠ [])
    (hword : cs ∉ styleWords) (hattribute : StyleAttribute.ofWord? cs = none)
    (hname : isColorName cs = true) : Style.ofChars cs = .ok { color := some cs } := by
  have hsolid : ∀ c ∈ cs, Text.isBlank c = false := fun c hc => (hsmall c hc).isBlank
  have hwords : Style.wordsOf cs = [cs] := by
    have hmap : cs.map (fun c => if Text.isBlank c then ' ' else c) = cs := by
      refine (List.map_congr_left fun c hc => ?_).trans (List.map_id cs)
      rw [if_neg (by simp [hsolid c hc])]
      rfl
    have hspace : ' ' ∉ cs := fun hm => absurd (hsmall ' ' hm).1 (by decide)
    rw [Style.wordsOf, hmap, Text.pieces_of_not_mem hspace]
    simpa using hne
  have hlower := Text.lower_of_isSmall hsmall
  have hcolor : readColor cs = .ok cs := by
    simp only [readColor, hlower, hname, Bool.true_or, if_true]
  simp only [styleWords, List.mem_cons, List.not_mem_nil, or_false, not_or] at hword
  obtain ⟨hnone, hon, hnot, hlink⟩ := hword
  rw [Style.ofChars, Text.trim_of_solid hsolid, if_neg hnone, hwords, Style.readWords, hlower,
    if_neg hon, if_neg hnot, if_neg hlink, hattribute]
  simp only [hcolor, bind, Except.bind, Style.readWords]

theorem isColour_of_name {cs : List Char} (hsmall : ∀ c ∈ cs, Text.IsSmall c) (hne : cs ≠ [])
    (hword : cs ∉ styleWords) (hattribute : StyleAttribute.ofWord? cs = none)
    (hname : isColorName cs = true) : IsColour cs := by
  have hother (c : Char) (hc : ¬ Text.IsSmall c) : c ∉ cs := fun hm => hc (hsmall c hm)
  have hhead (c : Char) (hc : ¬ Text.IsSmall c) : cs.head? ≠ some c := fun hm =>
    hother c hc (List.mem_of_mem_head? hm)
  exact {
    starts := by
      obtain ⟨c, rest, rfl⟩ := List.exists_cons_of_ne_nil hne
      simp [startsTag, opensTag, (hsmall c List.mem_cons_self).1, (hsmall c List.mem_cons_self).2]
    unbracketed := by
      rw [List.find?_eq_none]
      intro c hc hbracket
      rw [isBracket, Bool.or_eq_true, beq_iff_eq, beq_iff_eq] at hbracket
      rcases hbracket with rfl | rfl
      · exact hother _ (by decide) hc
      · exact hother _ (by decide) hc
    no_parameters := hother _ (by decide)
    opens := hhead _ (by decide)
    no_handler := beq_false_of_ne (hhead _ (by decide))
    trimmed := Text.trim_of_solid fun c hc => (hsmall c hc).isBlank
    read := ofChars_of_name hsmall hne hword hattribute hname }

theorem isColour_red : IsColour "red".toList :=
  isColour_of_name (by simp [Text.IsSmall]) (by decide) (by decide) (by decide) (by decide)

theorem isColour_green : IsColour "green".toList :=
  isColour_of_name (by simp [Text.IsSmall]) (by decide) (by decide) (by decide) (by decide)

namespace IsColour

variable {style : List Char} (h : IsColour style)

include h

theorem ne_nil : style ≠ [] := by
  rintro rfl
  simpa [startsTag] using h.starts

theorem nameOf_eq : Showing.nameOf style = .ok style := by
  rw [Showing.nameOf, styleName, h.read]
  show Except.ok ([' '].intercalate [style]) = _
  simp

theorem no_number (start stop : Nat) : (StyledPart.mk start stop style).hasBadNumber = false := by
  rw [StyledPart.hasBadNumber, h.read]

theorem takeWhile_eq : style.takeWhile (· != '=') = style := by
  rw [List.takeWhile_eq_self_iff]
  intro c hc
  rw [bne_iff_ne]
  rintro rfl
  exact h.no_parameters hc

/-- What is shown after the tag that opens a colour. -/
def opened (style : List Char) : Showing :=
  { Showing.empty with tags := [⟨style, none, 0⟩] }

theorem tag_open (s : Showing) :
    s.tag style = .ok { s with tags := ⟨style, none, s.shown.length⟩ :: s.tags } := by
  have hopens := h.opens
  have hname := h.nameOf_eq
  have htake := h.takeWhile_eq
  cases style with
  | nil => exact absurd rfl h.ne_nil
  | cons c cs =>
    have hc : c ≠ '/' := fun hc => hopens (congrArg some hc)
    simp only [Showing.tag, htake]
    split
    · rename_i heq
      exact absurd (List.head_eq_of_cons_eq heq) hc
    · rw [hname, List.drop_length]
      rfl

theorem tag_close {s : Showing} {start : Nat} (htags : s.tags = [⟨style, none, start⟩]) :
    s.tag ('/' :: style) = .ok ({ s with tags := [] }.styled ⟨style, none, start⟩) := by
  have hname : ('/' :: style).takeWhile (· != '=') = '/' :: style := by
    rw [List.takeWhile_cons_of_pos (by decide), h.takeWhile_eq]
  have hfind : s.tags.find? (·.name == style) = some ⟨style, none, start⟩ := by
    rw [htags, List.find?_cons_of_pos (by simp)]
  have herase : s.tags.eraseP (·.name == style) = [] := by
    rw [htags, List.eraseP_cons_of_pos (by simp)]
  have hclose : s.close style = Showing.finish { s with tags := [] } ⟨style, none, start⟩ := by
    rw [Showing.close, h.trimmed, if_neg h.ne_nil, h.nameOf_eq]
    simp only [bind, Except.bind, hfind, herase]
  simp only [Showing.tag, hname, hclose, Showing.finish, h.no_handler]
  rfl

theorem piece_open : Showing.empty.piece (.tag 0 style) = .ok (opened style) := by
  rw [Showing.piece, Showing.flush_of_ended rfl]
  exact h.tag_open _

/-- The tag that closes a colour closes it, or is a text and leaves it open. -/
theorem piece_close {s : Showing} (hs : (opened style).SameStyles s) (n : Nat) :
    ∃ t, s.piece (.tag n ('/' :: style)) = .ok t ∧
      (∀ p ∈ t.flush.finishAll.parts, p.hasBadNumber = false) ∧
      (n = 0 → t.flush.finishAll.shown = s.flush.shown) := by
  obtain ⟨htags, hparts⟩ := hs
  have htags' : s.flush.tags = [⟨style, none, 0⟩] := htags
  have hparts' : s.flush.parts = [] := hparts
  simp only [Showing.piece]
  by_cases hodd : n % 2 = 1
  · rw [if_pos hodd]
    refine ⟨_, rfl, ?_, fun hn => by rw [hn] at hodd; cases hodd⟩
    rw [Showing.flush_of_ended rfl, Showing.finishAll, htags']
    intro p hp
    simp only [List.foldl_cons, List.foldl_nil, Showing.styled, hparts', List.mem_singleton] at hp
    rw [hp]
    exact h.no_number _ _
  · rw [if_neg hodd, h.tag_close (by exact htags')]
    refine ⟨_, rfl, ?_, ?_⟩
    · rw [Showing.flush_of_ended rfl]
      intro p hp
      simp only [Showing.finishAll, List.foldl_nil, Showing.styled, hparts',
        List.mem_singleton] at hp
      rw [hp]
      exact h.no_number _ _
    · rintro rfl
      rw [Showing.flush_of_ended rfl]
      exact List.append_nil _

theorem unbracketed_close : ('/' :: style).find? isBracket = none := by
  rw [List.find?_cons_of_neg (by decide), h.unbracketed]

theorem pieces_styled (text : String) :
    pieces (styled (String.ofList style) text).toList =
      .tag 0 style :: pieces (text.toList ++ bracketed ('/' :: style)) := by
  have htext : (styled (String.ofList style) text).toList =
      bracketed style ++ (text.toList ++ bracketed ('/' :: style)) := by
    simp [styled, bracketed, ToString.toString]
  rw [htext, pieces, piecesAfter_tag h.starts h.unbracketed, pieces]

/-- A coloured text is shown if the pieces before the end of the colour are texts. -/
theorem content_styled {text : String} {ps : List Piece} {n : Nat} (hps : ∀ p ∈ ps, p.IsText)
    (hpieces : pieces (text.toList ++ bracketed ('/' :: style)) =
      ps ++ piecesAfter n (bracketed ('/' :: style))) :
    ∃ s t, ps.foldlM Showing.piece (opened style) = .ok s ∧
      content (styled (String.ofList style) text) = .ok t ∧ (n = 0 → t = s.flush.shown) := by
  obtain ⟨s, hs, hstyles⟩ := Showing.foldlM_text hps (opened style)
  obtain ⟨t, ht, hgood, hshown⟩ := h.piece_close hstyles n
  have hclosed : piecesAfter n (bracketed ('/' :: style)) = [.tag n ('/' :: style)] := by
    have hnil := piecesAfter_tag rfl h.unbracketed_close n []
    rwa [List.append_nil, piecesAfter] at hnil
  have hfold : (pieces (styled (String.ofList style) text).toList).foldlM Showing.piece .empty =
      .ok t := by
    rw [h.pieces_styled, hpieces, hclosed, List.foldlM_cons, h.piece_open]
    show (ps ++ [_]).foldlM Showing.piece (opened style) = _
    rw [List.foldlM_append, hs]
    show [_].foldlM Showing.piece s = _
    rw [List.foldlM_cons, ht]
    rfl
  exact ⟨s, _, hs, content_of_foldlM hfold hgood, hshown⟩

/-- An escaped text can be shown in any colour. -/
theorem content_styled_escape (text : String) :
    ∃ cs, content (styled (String.ofList style) (escape text)) = .ok cs := by
  have hrest : (bracketed ('/' :: style)).find? isBracket ≠ some ']' := by
    rw [bracketed, List.cons_append, List.find?_cons_of_pos (by decide)]
    decide
  obtain ⟨ps, n, hps, hpieces⟩ := pieces_escape text hrest
  obtain ⟨-, cs, -, hcs, -⟩ := h.content_styled hps hpieces
  exact ⟨cs, hcs⟩

/-- A colour does not change what is shown. -/
theorem content_styled_inert (text : String) (htext : ∀ c ∈ text.toList, isInert c = true) :
    content (styled (String.ofList style) text) = .ok text.toList := by
  have hpieces := piecesAfter_inert htext (bracketed ('/' :: style))
  obtain ⟨s, cs, hs, hcs, hshown⟩ := h.content_styled (by simp [Piece.IsText]) hpieces
  rw [Showing.foldlM_chars, Except.ok.injEq] at hs
  rw [hcs, hshown rfl, ← hs]
  show Except.ok ([] ++ shownStretch (text.toList.reverse ++ []).reverse) = _
  rw [List.append_nil, List.reverse_reverse, shownStretch_inert htext, List.nil_append]

end IsColour

end SpecSkeleton.Markup
