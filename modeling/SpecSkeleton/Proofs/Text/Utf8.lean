import SpecSkeleton.Text.Utf8

/-!
# Characters through their bytes

A decoder that is fed the bytes of a character adds this character: `foldlM_feed_char`. The ranges
that it keeps for the second byte are just those that leave out overlong forms, surrogates and code
points past the last one, and a character is none of these. The other way around, what is read
without a fault are the bytes of the character that is added first, and then others (`exists_char`).
So bytes are read as a text just when they are its encoding: `decode_eq_ok_iff`.
-/

namespace SpecSkeleton.Text.Utf8

theorem toNat_byte {n : Nat} (h : n < 256) : (UInt8.ofNat n).toNat = n := by
  simp [UInt8.toNat_ofNat', Nat.mod_eq_of_lt h]

/-! ## The first byte -/

theorem ofLead?_two {b : UInt8} (hlo : 0xC2 ≤ b.toNat) (hhi : b.toNat < 0xE0) :
    Pending.ofLead? b = some ⟨b, 1, 1, 0x80, 0xBF, b.toNat % 32⟩ := by
  have h₁ : ¬ b < 0xC2 := by rw [UInt8.lt_iff_toNat_lt]; exact Nat.not_lt.mpr hlo
  have h₂ : b < 0xE0 := by rw [UInt8.lt_iff_toNat_lt]; exact hhi
  simp only [Pending.ofLead?, h₁, h₂, if_false, if_true]

theorem ofLead?_three {b : UInt8} (hlo : 0xE0 ≤ b.toNat) (hhi : b.toNat < 0xF0) :
    Pending.ofLead? b = some ⟨b, 1, 2, if b = 0xE0 then 0xA0 else 0x80,
      if b = 0xED then 0x9F else 0xBF, b.toNat % 16⟩ := by
  have h₁ : ¬ b < 0xC2 := by rw [UInt8.lt_iff_toNat_lt]; exact Nat.not_lt.mpr (by simp; omega)
  have h₂ : ¬ b < 0xE0 := by rw [UInt8.lt_iff_toNat_lt]; exact Nat.not_lt.mpr hlo
  have h₃ : b < 0xF0 := by rw [UInt8.lt_iff_toNat_lt]; exact hhi
  simp only [Pending.ofLead?, h₁, h₂, h₃, if_false, if_true]
  by_cases he : b = 0xE0
  · subst he
    rfl
  · by_cases hd : b = 0xED <;> simp [he, hd]

theorem ofLead?_four {b : UInt8} (hlo : 0xF0 ≤ b.toNat) (hhi : b.toNat ≤ 0xF4) :
    Pending.ofLead? b = some ⟨b, 1, 3, if b = 0xF0 then 0x90 else 0x80,
      if b = 0xF4 then 0x8F else 0xBF, b.toNat % 8⟩ := by
  have h₁ : ¬ b < 0xC2 := by rw [UInt8.lt_iff_toNat_lt]; exact Nat.not_lt.mpr (by simp; omega)
  have h₂ : ¬ b < 0xE0 := by rw [UInt8.lt_iff_toNat_lt]; exact Nat.not_lt.mpr (by simp; omega)
  have h₃ : ¬ b < 0xF0 := by rw [UInt8.lt_iff_toNat_lt]; exact Nat.not_lt.mpr hlo
  have h₄ : b ≠ 0xE0 := by rintro rfl; simp at hlo
  have h₅ : b ≠ 0xED := by rintro rfl; simp at hlo
  simp only [Pending.ofLead?, h₁, h₂, h₃, h₄, h₅, if_false]
  by_cases hf : b = 0xF0
  · subst hf
    rfl
  · by_cases hl : b = 0xF4
    · subst hl
      rfl
    · have h₆ : b < 0xF4 := by
        rw [UInt8.lt_iff_toNat_lt]
        have hne : b.toNat ≠ 0xF4 := fun h => hl (UInt8.toNat_inj.mp h)
        exact Nat.lt_of_le_of_ne hhi hne
      simp only [hf, hl, h₆, if_false, if_true]

theorem ofLead?_low {b : UInt8} (h : b.toNat < 0xC2) : Pending.ofLead? b = none := by
  have hb : b < 0xC2 := by rw [UInt8.lt_iff_toNat_lt]; exact h
  simp only [Pending.ofLead?, hb, if_true]

theorem ofLead?_high {b : UInt8} (h : 0xF4 < b.toNat) : Pending.ofLead? b = none := by
  have hlt {n : Nat} (hn : n ≤ 0xF4) : ¬ b < UInt8.ofNat n := by
    rw [UInt8.lt_iff_toNat_lt, toNat_byte (by omega)]
    omega
  have hne {n : Nat} (hn : n ≤ 0xF4) : b ≠ UInt8.ofNat n := by
    rintro rfl
    rw [toNat_byte (by omega)] at h
    omega
  have h₁ : ¬ b < 0xC2 := hlt (n := 0xC2) (by decide)
  have h₂ : ¬ b < 0xE0 := hlt (n := 0xE0) (by decide)
  have h₃ : ¬ b < 0xF0 := hlt (n := 0xF0) (by decide)
  have h₄ : ¬ b < 0xF4 := hlt (n := 0xF4) (by decide)
  have h₅ : b ≠ 0xE0 := hne (n := 0xE0) (by decide)
  have h₆ : b ≠ 0xED := hne (n := 0xED) (by decide)
  have h₇ : b ≠ 0xF0 := hne (n := 0xF0) (by decide)
  have h₈ : b ≠ 0xF4 := hne (n := 0xF4) (by decide)
  simp only [Pending.ofLead?, h₁, h₂, h₃, h₄, h₅, h₆, h₇, h₈, if_false]

/-- A byte opens a sequence just if it is the first of one of two, three or four bytes. -/
theorem ofLead?_cases {b : UInt8} {p : Pending} (h : Pending.ofLead? b = some p) :
    (0xC2 ≤ b.toNat ∧ b.toNat < 0xE0 ∧ p = ⟨b, 1, 1, 0x80, 0xBF, b.toNat % 32⟩) ∨
      (0xE0 ≤ b.toNat ∧ b.toNat < 0xF0 ∧ p = ⟨b, 1, 2, if b = 0xE0 then 0xA0 else 0x80,
        if b = 0xED then 0x9F else 0xBF, b.toNat % 16⟩) ∨
      (0xF0 ≤ b.toNat ∧ b.toNat ≤ 0xF4 ∧ p = ⟨b, 1, 3, if b = 0xF0 then 0x90 else 0x80,
        if b = 0xF4 then 0x8F else 0xBF, b.toNat % 8⟩) := by
  by_cases h₁ : b.toNat < 0xC2
  · cases (ofLead?_low h₁).symm.trans h
  by_cases h₂ : b.toNat < 0xE0
  · rw [ofLead?_two (by omega) h₂] at h
    exact .inl ⟨by omega, h₂, (Option.some.inj h).symm⟩
  by_cases h₃ : b.toNat < 0xF0
  · rw [ofLead?_three (by omega) h₃] at h
    exact .inr (.inl ⟨by omega, h₃, (Option.some.inj h).symm⟩)
  by_cases h₄ : b.toNat ≤ 0xF4
  · rw [ofLead?_four (by omega) h₄] at h
    exact .inr (.inr ⟨by omega, h₄, (Option.some.inj h).symm⟩)
  · cases (ofLead?_high (by omega)).symm.trans h

namespace Decoder

variable {chars : List Char} {position : Nat} {b : UInt8}

theorem feed_ascii (h : b.toNat < 0x80) :
    feed ⟨chars, position, none⟩ b = .ok ⟨Char.ofNat b.toNat :: chars, position + 1, none⟩ := by
  have hb : b < 0x80 := by rw [UInt8.lt_iff_toNat_lt]; exact h
  simp only [feed, hb, if_true]

theorem feed_lead {p : Pending} (h : 0x80 ≤ b.toNat) (hp : Pending.ofLead? b = some p) :
    feed ⟨chars, position, none⟩ b = .ok ⟨chars, position + 1, some p⟩ := by
  have hb : ¬ b < 0x80 := by rw [UInt8.lt_iff_toNat_lt]; exact Nat.not_lt.mpr h
  simp only [feed, hb, if_false, hp]

theorem feed_last {p : Pending} (hlo : p.lo.toNat ≤ b.toNat) (hhi : b.toNat ≤ p.hi.toNat)
    (hp : p.missing ≤ 1) :
    feed ⟨chars, position, some p⟩ b =
      .ok ⟨Char.ofNat (p.code * 64 + b.toNat % 64) :: chars, position + 1, none⟩ := by
  have hb : p.lo ≤ b ∧ b ≤ p.hi := ⟨UInt8.le_iff_toNat_le.mpr hlo, UInt8.le_iff_toNat_le.mpr hhi⟩
  simp only [feed, hb, and_self, if_true, hp]

theorem feed_more {p : Pending} (hlo : p.lo.toNat ≤ b.toNat) (hhi : b.toNat ≤ p.hi.toNat)
    (hp : 1 < p.missing) :
    feed ⟨chars, position, some p⟩ b =
      .ok ⟨chars, position + 1, some ⟨p.lead, p.seen + 1, p.missing - 1, 0x80, 0xBF,
        p.code * 64 + b.toNat % 64⟩⟩ := by
  have hb : p.lo ≤ b ∧ b ≤ p.hi := ⟨UInt8.le_iff_toNat_le.mpr hlo, UInt8.le_iff_toNat_le.mpr hhi⟩
  have hp : ¬ p.missing ≤ 1 := Nat.not_le.mpr hp
  simp only [feed, hb, and_self, if_true, hp, if_false]

/-! ## A character -/

/-- The sequences of two, three and four bytes add their code point. A first byte is known by its
high bits, and the code point is put together from the low ones. -/
theorem foldlM_feed_two {n : Nat} (hlo : 0x80 ≤ n) (hhi : n ≤ 0x7FF) :
    [UInt8.ofNat (n / 64 % 32 + 192), UInt8.ofNat (n % 64 + 128)].foldlM feed
      ⟨chars, position, none⟩ = .ok ⟨Char.ofNat n :: chars, position + 1 + 1, none⟩ := by
  have h₁ := toNat_byte (n := n / 64 % 32 + 192) (by omega)
  have h₂ := toNat_byte (n := n % 64 + 128) (by omega)
  generalize UInt8.ofNat (n / 64 % 32 + 192) = b₁ at h₁ ⊢
  generalize UInt8.ofNat (n % 64 + 128) = b₂ at h₂ ⊢
  have hlead := ofLead?_two (b := b₁) (by omega) (by omega)
  have hcode : b₁.toNat % 32 * 64 + b₂.toNat % 64 = n := by omega
  rw [List.foldlM_cons, feed_lead (by omega) hlead]
  change [b₂].foldlM feed _ = _
  rw [List.foldlM_cons, feed_last (by simp; omega) (by simp; omega) (Nat.le_refl _), hcode]
  rfl

theorem foldlM_feed_three {n : Nat} (hlo : 0x800 ≤ n) (hhi : n ≤ 0xFFFF)
    (hn : n < 0xD800 ∨ 0xDFFF < n) :
    [UInt8.ofNat (n / 4096 % 16 + 224), UInt8.ofNat (n / 64 % 64 + 128),
      UInt8.ofNat (n % 64 + 128)].foldlM feed ⟨chars, position, none⟩ =
      .ok ⟨Char.ofNat n :: chars, position + 1 + 1 + 1, none⟩ := by
  have h₁ := toNat_byte (n := n / 4096 % 16 + 224) (by omega)
  have h₂ := toNat_byte (n := n / 64 % 64 + 128) (by omega)
  have h₃ := toNat_byte (n := n % 64 + 128) (by omega)
  generalize UInt8.ofNat (n / 4096 % 16 + 224) = b₁ at h₁ ⊢
  generalize UInt8.ofNat (n / 64 % 64 + 128) = b₂ at h₂ ⊢
  generalize UInt8.ofNat (n % 64 + 128) = b₃ at h₃ ⊢
  have hlead := ofLead?_three (b := b₁) (by omega) (by omega)
  have hcode : (b₁.toNat % 16 * 64 + b₂.toNat % 64) * 64 + b₃.toNat % 64 = n := by omega
  -- an overlong form would have a smaller second byte after the first lead, a surrogate a larger
  -- one after the last but two
  have hmin : (if b₁ = 0xE0 then 0xA0 else 0x80 : UInt8).toNat ≤ b₂.toNat := by
    split
    · next he => subst he; simp at h₁ ⊢; omega
    · simp; omega
  have hmax : b₂.toNat ≤ (if b₁ = 0xED then 0x9F else 0xBF : UInt8).toNat := by
    split
    · next hd => subst hd; simp at h₁ ⊢; omega
    · simp; omega
  rw [List.foldlM_cons, feed_lead (by omega) hlead]
  change [b₂, b₃].foldlM feed _ = _
  rw [List.foldlM_cons, feed_more hmin hmax (by simp)]
  change [b₃].foldlM feed _ = _
  rw [List.foldlM_cons, feed_last (by simp; omega) (by simp; omega) (by simp), hcode]
  rfl

theorem foldlM_feed_four {n : Nat} (hlo : 0x10000 ≤ n) (hhi : n < 0x110000) :
    [UInt8.ofNat (n / 262144 % 8 + 240), UInt8.ofNat (n / 4096 % 64 + 128),
      UInt8.ofNat (n / 64 % 64 + 128), UInt8.ofNat (n % 64 + 128)].foldlM feed
      ⟨chars, position, none⟩ = .ok ⟨Char.ofNat n :: chars, position + 1 + 1 + 1 + 1, none⟩ := by
  have h₁ := toNat_byte (n := n / 262144 % 8 + 240) (by omega)
  have h₂ := toNat_byte (n := n / 4096 % 64 + 128) (by omega)
  have h₃ := toNat_byte (n := n / 64 % 64 + 128) (by omega)
  have h₄ := toNat_byte (n := n % 64 + 128) (by omega)
  generalize UInt8.ofNat (n / 262144 % 8 + 240) = b₁ at h₁ ⊢
  generalize UInt8.ofNat (n / 4096 % 64 + 128) = b₂ at h₂ ⊢
  generalize UInt8.ofNat (n / 64 % 64 + 128) = b₃ at h₃ ⊢
  generalize UInt8.ofNat (n % 64 + 128) = b₄ at h₄ ⊢
  have hlead := ofLead?_four (b := b₁) (by omega) (by omega)
  have hcode : ((b₁.toNat % 8 * 64 + b₂.toNat % 64) * 64 + b₃.toNat % 64) * 64 + b₄.toNat % 64 =
      n := by omega
  have hmin : (if b₁ = 0xF0 then 0x90 else 0x80 : UInt8).toNat ≤ b₂.toNat := by
    split
    · next hf => subst hf; simp at h₁ ⊢; omega
    · simp; omega
  have hmax : b₂.toNat ≤ (if b₁ = 0xF4 then 0x8F else 0xBF : UInt8).toNat := by
    split
    · next hl => subst hl; simp at h₁ ⊢; omega
    · simp; omega
  rw [List.foldlM_cons, feed_lead (by omega) hlead]
  change [b₂, b₃, b₄].foldlM feed _ = _
  rw [List.foldlM_cons, feed_more hmin hmax (by simp)]
  change [b₃, b₄].foldlM feed _ = _
  rw [List.foldlM_cons, feed_more (by simp; omega) (by simp; omega) (by simp)]
  change [b₄].foldlM feed _ = _
  rw [List.foldlM_cons, feed_last (by simp; omega) (by simp; omega) (by simp), hcode]
  rfl

/-- Feeding the bytes of a character adds it. -/
theorem foldlM_feed_char (c : Char) (chars : List Char) (position : Nat) :
    ∃ position', (String.utf8EncodeChar c).foldlM feed ⟨chars, position, none⟩ =
      .ok ⟨c :: chars, position', none⟩ := by
  have hvalid : c.val.toNat < 0xD800 ∨ 0xDFFF < c.val.toNat ∧ c.val.toNat < 0x110000 := c.valid
  have hc : Char.ofNat c.val.toNat = c := Char.ofNat_toNat c
  unfold String.utf8EncodeChar
  dsimp only
  split
  · have hb := toNat_byte (n := c.val.toNat) (by omega)
    refine ⟨position + 1, ?_⟩
    rw [List.foldlM_cons, feed_ascii (by omega), hb, hc]
    rfl
  split
  · exact ⟨_, by rw [foldlM_feed_two (by omega) ‹_›, hc]⟩
  split
  · exact ⟨_, by rw [foldlM_feed_three (by omega) ‹_› (by omega), hc]⟩
  · exact ⟨_, by rw [foldlM_feed_four (by omega) (by omega), hc]⟩

theorem foldl_feedLossy_of_foldlM {bytes : List UInt8} {d d' : Decoder}
    (h : bytes.foldlM feed d = .ok d') : bytes.foldl feedLossy d = d' := by
  induction bytes generalizing d with
  | nil => cases h; rfl
  | cons b bytes ih =>
    rw [List.foldlM_cons] at h
    cases hb : d.feed b with
    | error fault =>
      rw [hb] at h
      cases h
    | ok next =>
      rw [hb] at h
      rw [List.foldl_cons]
      simp only [feedLossy, hb]
      exact ih h

/-- Reading that tolerates faults finds none in the bytes of a character. -/
theorem foldl_feedLossy_char (c : Char) (chars : List Char) (position : Nat) :
    ∃ position', (String.utf8EncodeChar c).foldl feedLossy ⟨chars, position, none⟩ =
      ⟨c :: chars, position', none⟩ := by
  obtain ⟨position', h⟩ := foldlM_feed_char c chars position
  exact ⟨position', foldl_feedLossy_of_foldlM h⟩

/-! ## An open sequence -/

/-- An open sequence goes on with a byte in its range, if the reading ends well. -/
theorem exists_fed {bytes : List UInt8} {p : Pending} {d : Decoder}
    (h : bytes.foldlM feed ⟨chars, position, some p⟩ = .ok d) (hd : d.pending = none) :
    ∃ b rest next, bytes = b :: rest ∧ p.lo.toNat ≤ b.toNat ∧ b.toNat ≤ p.hi.toNat ∧
      feed ⟨chars, position, some p⟩ b = .ok next ∧ rest.foldlM feed next = .ok d := by
  cases bytes with
  | nil =>
    cases h
    cases hd
  | cons b rest =>
    rw [List.foldlM_cons] at h
    cases hfeed : feed ⟨chars, position, some p⟩ b with
    | error fault =>
      rw [hfeed] at h
      cases h
    | ok next =>
      rw [hfeed] at h
      by_cases hb : p.lo ≤ b ∧ b ≤ p.hi
      · exact ⟨b, rest, next, rfl, UInt8.le_iff_toNat_le.mp hb.1, UInt8.le_iff_toNat_le.mp hb.2,
          hfeed, h⟩
      · simp only [feed, hb, if_false] at hfeed
        cases hfeed

theorem exists_last {bytes : List UInt8} {d : Decoder} {lead lo hi : UInt8} {seen code : Nat}
    (h : bytes.foldlM feed ⟨chars, position, some ⟨lead, seen, 1, lo, hi, code⟩⟩ = .ok d)
    (hd : d.pending = none) :
    ∃ b rest, bytes = b :: rest ∧ lo.toNat ≤ b.toNat ∧ b.toNat ≤ hi.toNat ∧
      rest.foldlM feed ⟨Char.ofNat (code * 64 + b.toNat % 64) :: chars, position + 1, none⟩ =
        .ok d := by
  obtain ⟨b, rest, next, rfl, hlo, hhi, hfeed, hrest⟩ := exists_fed h hd
  rw [feed_last hlo hhi (Nat.le_refl 1)] at hfeed
  cases hfeed
  exact ⟨b, rest, rfl, hlo, hhi, hrest⟩

theorem exists_more {bytes : List UInt8} {d : Decoder} {lead lo hi : UInt8}
    {seen missing code : Nat}
    (h : bytes.foldlM feed ⟨chars, position, some ⟨lead, seen, missing + 2, lo, hi, code⟩⟩ = .ok d)
    (hd : d.pending = none) :
    ∃ b rest, bytes = b :: rest ∧ lo.toNat ≤ b.toNat ∧ b.toNat ≤ hi.toNat ∧
      rest.foldlM feed ⟨chars, position + 1, some ⟨lead, seen + 1, missing + 1, 0x80, 0xBF,
        code * 64 + b.toNat % 64⟩⟩ = .ok d := by
  obtain ⟨b, rest, next, rfl, hlo, hhi, hfeed, hrest⟩ := exists_fed h hd
  rw [feed_more hlo hhi (Nat.lt_add_left missing Nat.one_lt_two)] at hfeed
  cases hfeed
  exact ⟨b, rest, rfl, hlo, hhi, hrest⟩

end Decoder

/-! ## The bytes of a code point -/

theorem val_ofNat {n : Nat} (h : n < 0xD800 ∨ 0xDFFF < n ∧ n < 0x110000) :
    (Char.ofNat n).val.toNat = n := by
  have hvalid : n.isValidChar := h
  rw [Char.ofNat, dif_pos hvalid]
  rfl

theorem toNat_ite {b lead x y : UInt8} :
    (if b = lead then x else y).toNat = if b.toNat = lead.toNat then x.toNat else y.toNat := by
  simp only [apply_ite UInt8.toNat, UInt8.toNat_inj]

theorem ofNat_eq {n : Nat} {b : UInt8} (h : n = b.toNat) : UInt8.ofNat n = b :=
  h ▸ UInt8.ofNat_toNat

theorem encodeChar_one {b : UInt8} (h : b.toNat < 0x80) :
    String.utf8EncodeChar (Char.ofNat b.toNat) = [b] := by
  have hval := val_ofNat (n := b.toNat) (by omega)
  unfold String.utf8EncodeChar
  dsimp only
  rw [hval, if_pos (by omega), UInt8.ofNat_toNat]

theorem encodeChar_two {b₁ b₂ : UInt8} (hlo₁ : 0xC2 ≤ b₁.toNat) (hhi₁ : b₁.toNat < 0xE0)
    (hlo₂ : 0x80 ≤ b₂.toNat) (hhi₂ : b₂.toNat ≤ 0xBF) :
    String.utf8EncodeChar (Char.ofNat (b₁.toNat % 32 * 64 + b₂.toNat % 64)) = [b₁, b₂] := by
  generalize hn : b₁.toNat % 32 * 64 + b₂.toNat % 64 = n
  have hval := val_ofNat (n := n) (by omega)
  unfold String.utf8EncodeChar
  dsimp only
  rw [hval, if_neg (by omega), if_pos (by omega), ofNat_eq (b := b₁) (by omega),
    ofNat_eq (b := b₂) (by omega)]

theorem encodeChar_three {b₁ b₂ b₃ : UInt8} (hlo₁ : 0xE0 ≤ b₁.toNat) (hhi₁ : b₁.toNat < 0xF0)
    (hlo₂ : (if b₁.toNat = 0xE0 then 0xA0 else 0x80) ≤ b₂.toNat)
    (hhi₂ : b₂.toNat ≤ if b₁.toNat = 0xED then 0x9F else 0xBF)
    (hlo₃ : 0x80 ≤ b₃.toNat) (hhi₃ : b₃.toNat ≤ 0xBF) :
    String.utf8EncodeChar
      (Char.ofNat ((b₁.toNat % 16 * 64 + b₂.toNat % 64) * 64 + b₃.toNat % 64)) =
        [b₁, b₂, b₃] := by
  generalize hn : (b₁.toNat % 16 * 64 + b₂.toNat % 64) * 64 + b₃.toNat % 64 = n
  have hsecond : 0x80 ≤ b₂.toNat ∧ b₂.toNat ≤ 0xBF ∧ (b₁.toNat = 0xE0 → 0xA0 ≤ b₂.toNat) ∧
      (b₁.toNat = 0xED → b₂.toNat ≤ 0x9F) := by
    split at hlo₂ <;> split at hhi₂ <;> omega
  have hval := val_ofNat (n := n) (by omega)
  unfold String.utf8EncodeChar
  dsimp only
  rw [hval, if_neg (by omega), if_neg (by omega), if_pos (by omega), ofNat_eq (b := b₁) (by omega),
    ofNat_eq (b := b₂) (by omega), ofNat_eq (b := b₃) (by omega)]

theorem encodeChar_four {b₁ b₂ b₃ b₄ : UInt8} (hlo₁ : 0xF0 ≤ b₁.toNat) (hhi₁ : b₁.toNat ≤ 0xF4)
    (hlo₂ : (if b₁.toNat = 0xF0 then 0x90 else 0x80) ≤ b₂.toNat)
    (hhi₂ : b₂.toNat ≤ if b₁.toNat = 0xF4 then 0x8F else 0xBF)
    (hlo₃ : 0x80 ≤ b₃.toNat) (hhi₃ : b₃.toNat ≤ 0xBF)
    (hlo₄ : 0x80 ≤ b₄.toNat) (hhi₄ : b₄.toNat ≤ 0xBF) :
    String.utf8EncodeChar (Char.ofNat
      (((b₁.toNat % 8 * 64 + b₂.toNat % 64) * 64 + b₃.toNat % 64) * 64 + b₄.toNat % 64)) =
        [b₁, b₂, b₃, b₄] := by
  generalize hn :
    ((b₁.toNat % 8 * 64 + b₂.toNat % 64) * 64 + b₃.toNat % 64) * 64 + b₄.toNat % 64 = n
  have hsecond : 0x80 ≤ b₂.toNat ∧ b₂.toNat ≤ 0xBF ∧ (b₁.toNat = 0xF0 → 0x90 ≤ b₂.toNat) ∧
      (b₁.toNat = 0xF4 → b₂.toNat ≤ 0x8F) := by
    split at hlo₂ <;> split at hhi₂ <;> omega
  have hval := val_ofNat (n := n) (by omega)
  unfold String.utf8EncodeChar
  dsimp only
  rw [hval, if_neg (by omega), if_neg (by omega), if_neg (by omega), ofNat_eq (b := b₁) (by omega),
    ofNat_eq (b := b₂) (by omega), ofNat_eq (b := b₃) (by omega), ofNat_eq (b := b₄) (by omega)]

namespace Decoder

variable {chars : List Char} {position : Nat} {b : UInt8}

/-! ## What is read are the bytes of characters -/

/-- The bytes that are read without a fault start with those of the character they add first. -/
theorem exists_char {bytes : List UInt8} {d : Decoder}
    (h : (b :: bytes).foldlM feed ⟨chars, position, none⟩ = .ok d) (hd : d.pending = none) :
    ∃ c rest position', b :: bytes = String.utf8EncodeChar c ++ rest ∧
      rest.foldlM feed ⟨c :: chars, position', none⟩ = .ok d := by
  rw [List.foldlM_cons] at h
  by_cases hb : b.toNat < 0x80
  · rw [feed_ascii hb] at h
    exact ⟨_, bytes, _, by rw [encodeChar_one hb]; rfl, h⟩
  have hlead : ¬ b < 0x80 := by rw [UInt8.lt_iff_toNat_lt]; exact hb
  simp only [feed, hlead, if_false] at h
  split at h
  next p hp =>
    have h : bytes.foldlM feed ⟨chars, position + 1, some p⟩ = .ok d := h
    obtain ⟨hlo, hhi, rfl⟩ | ⟨hlo, hhi, rfl⟩ | ⟨hlo, hhi, rfl⟩ := ofLead?_cases hp
    · obtain ⟨b₂, rest, rfl, hlo₂, hhi₂, h⟩ := exists_last h hd
      exact ⟨_, rest, _, by rw [encodeChar_two hlo hhi hlo₂ hhi₂]; rfl, h⟩
    · obtain ⟨b₂, rest, rfl, hlo₂, hhi₂, h⟩ := exists_more h hd
      obtain ⟨b₃, rest, rfl, hlo₃, hhi₃, h⟩ := exists_last h hd
      rw [toNat_ite] at hlo₂ hhi₂
      exact ⟨_, rest, _, by rw [encodeChar_three hlo hhi hlo₂ hhi₂ hlo₃ hhi₃]; rfl, h⟩
    · obtain ⟨b₂, rest, rfl, hlo₂, hhi₂, h⟩ := exists_more h hd
      obtain ⟨b₃, rest, rfl, hlo₃, hhi₃, h⟩ := exists_more h hd
      obtain ⟨b₄, rest, rfl, hlo₄, hhi₄, h⟩ := exists_last h hd
      rw [toNat_ite] at hlo₂ hhi₂
      exact ⟨_, rest, _,
        by rw [encodeChar_four hlo hhi hlo₂ hhi₂ hlo₃ hhi₃ hlo₄ hhi₄]; rfl, h⟩
  next => cases h

theorem exists_chars {bytes : List UInt8} {d : Decoder}
    (h : bytes.foldlM feed ⟨chars, position, none⟩ = .ok d) (hd : d.pending = none) :
    ∃ cs : List Char, bytes = cs.flatMap String.utf8EncodeChar ∧ d.chars = cs.reverse ++ chars := by
  induction hlength : bytes.length using Nat.strongRecOn generalizing bytes chars position with
  | _ length ih =>
    cases bytes with
    | nil =>
      cases h
      exact ⟨[], rfl, rfl⟩
    | cons b bytes =>
      obtain ⟨c, rest, position', hbytes, hrest⟩ := exists_char h hd
      have hless : rest.length < length := by
        have hpos : 0 < (String.utf8EncodeChar c).length := by
          rw [String.length_utf8EncodeChar]
          exact c.utf8Size_pos
        rw [← hlength, hbytes, List.length_append]
        omega
      obtain ⟨cs, hcs, hchars⟩ := ih rest.length hless hrest rfl
      refine ⟨c :: cs, ?_, ?_⟩
      · rw [hbytes, hcs, List.flatMap_cons]
      · rw [hchars, List.reverse_cons, List.append_assoc, List.singleton_append]

/-- The bytes of characters add them. -/
theorem foldlM_feed_chars (cs chars : List Char) (position : Nat) :
    ∃ position', (cs.flatMap String.utf8EncodeChar).foldlM feed ⟨chars, position, none⟩ =
      .ok ⟨cs.reverse ++ chars, position', none⟩ := by
  induction cs generalizing chars position with
  | nil => exact ⟨position, rfl⟩
  | cons c cs ih =>
    obtain ⟨position₁, hfirst⟩ := foldlM_feed_char c chars position
    obtain ⟨position₂, hrest⟩ := ih (c :: chars) position₁
    refine ⟨position₂, ?_⟩
    rw [List.flatMap_cons, List.foldlM_append, hfirst, List.reverse_cons, List.append_assoc]
    exact hrest

end Decoder

theorem encode_eq_flatMap (cs : List Char) : encode cs = cs.flatMap String.utf8EncodeChar := by
  simp [encode, String.toUTF8, String.ofList, List.utf8Encode]

/-- Bytes are read as a text just when they are its encoding. -/
theorem decode_eq_ok_iff {bytes : List UInt8} {cs : List Char} :
    decode bytes = .ok cs ↔ bytes = encode cs := by
  rw [encode_eq_flatMap, decode]
  constructor
  · intro h
    cases hd : bytes.foldlM Decoder.feed Decoder.empty with
    | error fault =>
      rw [hd] at h
      cases h
    | ok d =>
      rw [hd] at h
      have h : d.finish = .ok cs := h
      unfold Decoder.finish at h
      split at h
      next hpending =>
        obtain ⟨cs', hbytes, hchars⟩ := Decoder.exists_chars hd hpending
        rw [hchars, List.append_nil, List.reverse_reverse] at h
        rw [hbytes, Except.ok.inj h]
      next => cases h
  · rintro rfl
    obtain ⟨position, hread⟩ := Decoder.foldlM_feed_chars cs [] 0
    rw [Decoder.empty, hread, List.append_nil]
    exact congrArg Except.ok (List.reverse_reverse cs)

end SpecSkeleton.Text.Utf8
