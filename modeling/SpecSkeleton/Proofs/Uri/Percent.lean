import SpecSkeleton.Proofs.Text.Utf8
import SpecSkeleton.Uri.Percent

/-!
# What is encoded is read back

Reading takes the bytes that the encoding wrote back to the character they are of, whatever has been
read before it (`decodeWith_encodeChar`), so an encoded text is read as the text itself
(`decode_encode`).
-/

namespace SpecSkeleton.Percent

open Text.Utf8 (Decoder)

theorem hexValue?_hexDigit {n : Nat} (h : n < 16) : hexValue? (hexDigit n) = some n := by
  have hall : ∀ i : Fin 16, hexValue? (hexDigit i) = some i.val := by decide
  exact hall ⟨n, h⟩

theorem isAlphanum_hexDigit {n : Nat} (h : n < 16) : (hexDigit n).isAlphanum = true := by
  have hall : ∀ i : Fin 16, (hexDigit i).isAlphanum = true := by decide
  exact hall ⟨n, h⟩

theorem hexPair?_hexDigit (b : UInt8) :
    hexPair? (hexDigit (b.toNat / 16)) (hexDigit (b.toNat % 16)) = some b := by
  have hb : b.toNat < 256 := b.toNat_lt
  have hsum : b.toNat / 16 * 16 + b.toNat % 16 = b.toNat := by omega
  simp only [hexPair?, hexValue?_hexDigit (show b.toNat / 16 < 16 by omega),
    hexValue?_hexDigit (show b.toNat % 16 < 16 by omega), Option.pure_def, Option.bind_eq_bind,
    Option.bind_some, hsum, UInt8.ofNat_toNat]

/-! ## Reading -/

theorem decodeWith_encodeByte (d : Decoder) (b : UInt8) (rest : List Char) :
    decodeWith d (encodeByte b ++ rest) = decodeWith (d.feedLossy b) rest := by
  simp only [encodeByte, List.cons_append, List.nil_append, decodeWith, hexPair?_hexDigit]

theorem decodeWith_encodeBytes (bytes : List UInt8) (d : Decoder) (rest : List Char) :
    decodeWith d (bytes.flatMap encodeByte ++ rest) =
      decodeWith (bytes.foldl Decoder.feedLossy d) rest := by
  induction bytes generalizing d with
  | nil => rfl
  | cons b bytes ih =>
    rw [List.flatMap_cons, List.append_assoc, decodeWith_encodeByte, ih, List.foldl_cons]

/-- A character of one byte that is no percent sign is read as itself. -/
theorem decodeWith_cons {c : Char} (hc : c.toNat < 0x80) (hpercent : c ≠ '%') (chars : List Char)
    (position : Nat) (rest : List Char) :
    decodeWith ⟨chars, position, none⟩ (c :: rest) =
      decodeWith ⟨c :: chars, position + 1, none⟩ rest := by
  have hbyte : c.toUInt8.toNat = c.toNat := Text.Utf8.toNat_byte (Nat.lt_trans hc (by decide))
  rw [decodeWith.eq_3 _ _ _ fun _ _ _ h => absurd h hpercent, if_pos hc]
  rw [Decoder.feedLossy, Decoder.feed_ascii (by omega), hbyte, Char.ofNat_toNat]

/-! ## Characters that need no encoding -/

theorem isPlain_iff {c : Char} : isPlain c = true ↔
    c.isAlphanum ∨ c = '_' ∨ c = '.' ∨ c = '-' ∨ c = '~' ∨ c = '/' := by
  simp [isPlain, or_assoc]

theorem toNat_lt_of_isAlphanum {c : Char} (h : c.isAlphanum = true) : c.toNat < 0x80 := by
  change (c.isUpper || c.isLower || c.isDigit) = true at h
  rw [Bool.or_eq_true, Bool.or_eq_true] at h
  obtain (hupper | hlower) | hdigit := h
  · have hle : c.val ≤ 'Z'.val := (of_decide_eq_true hupper).2
    exact Nat.lt_of_le_of_lt (UInt32.le_iff_toNat_le.mp hle) (by decide)
  · have hle : c.val ≤ 'z'.val := of_decide_eq_true ((Bool.and_eq_true _ _).mp hlower).2
    exact Nat.lt_of_le_of_lt (UInt32.le_iff_toNat_le.mp hle) (by decide)
  · exact Nat.lt_of_le_of_lt (Char.isDigit_iff_toNat.mp hdigit).2 (by decide)

theorem toNat_lt_of_isPlain {c : Char} (h : isPlain c = true) : c.toNat < 0x80 := by
  obtain h | rfl | rfl | rfl | rfl | rfl := isPlain_iff.mp h
  · exact toNat_lt_of_isAlphanum h
  all_goals decide

theorem ne_of_isPlain {c d : Char} (h : isPlain c = true) (hd : isPlain d = false) : c ≠ d := by
  rintro rfl
  rw [h] at hd
  cases hd

/-- An encoded text has no other characters than those that need no encoding and percent signs. -/
theorem mem_encode {s : String} {c : Char} (h : c ∈ (encode s).toList) :
    isPlain c = true ∨ c = '%' := by
  have hdigit {n : Nat} (hn : n < 16) : isPlain (hexDigit n) = true :=
    isPlain_iff.mpr (.inl (isAlphanum_hexDigit hn))
  rw [encode, String.toList_ofList, List.mem_flatMap] at h
  obtain ⟨a, -, hc⟩ := h
  split at hc
  next ha =>
    rw [List.mem_singleton.mp hc]
    exact .inl ha
  next =>
    obtain ⟨b, -, hb⟩ := List.mem_flatMap.mp hc
    have hlt : b.toNat < 256 := b.toNat_lt
    simp only [encodeByte, List.mem_cons, List.not_mem_nil, or_false] at hb
    obtain rfl | rfl | rfl := hb
    · exact .inr rfl
    · exact .inl (hdigit (by omega))
    · exact .inl (hdigit (by omega))

/-! ## The round trip -/

/-- A character is read back from its encoding, whatever stands around it. -/
theorem decodeWith_encodeChar (c : Char) (chars : List Char) (position : Nat) (rest : List Char) :
    ∃ position', decodeWith ⟨chars, position, none⟩
        ((if isPlain c then [c] else (String.utf8EncodeChar c).flatMap encodeByte) ++ rest) =
      decodeWith ⟨c :: chars, position', none⟩ rest := by
  split
  next h =>
    exact ⟨_, decodeWith_cons (toNat_lt_of_isPlain h) (ne_of_isPlain h (by decide)) _ _ _⟩
  next =>
    obtain ⟨position', h⟩ := Decoder.foldl_feedLossy_char c chars position
    exact ⟨position', by rw [decodeWith_encodeBytes, h]⟩

theorem decodeWith_encodeChars (cs chars : List Char) (position : Nat) :
    decodeWith ⟨chars, position, none⟩ (cs.flatMap fun c =>
        if isPlain c then [c] else (String.utf8EncodeChar c).flatMap encodeByte) =
      chars.reverse ++ cs := by
  induction cs generalizing chars position with
  | nil => simp [decodeWith, Decoder.breakOff]
  | cons c cs ih =>
    rw [List.flatMap_cons]
    obtain ⟨position', h⟩ := decodeWith_encodeChar c chars position _
    rw [h, ih, List.reverse_cons, List.append_assoc, List.singleton_append]

/-- An encoded text after signs that are read as themselves is read back. -/
theorem decode_append_encode (before : List Char)
    (h : ∀ c ∈ before, c.toNat < 0x80 ∧ c ≠ '%') (s : String) :
    decode (String.ofList before ++ encode s) = String.ofList before ++ s := by
  have hread (chars : List Char) (position : Nat) :
      decodeWith ⟨chars, position, none⟩ (before ++ (encode s).toList) =
        chars.reverse ++ (before ++ s.toList) := by
    induction before generalizing chars position with
    | nil =>
      rw [encode, String.toList_ofList]
      exact decodeWith_encodeChars _ _ _
    | cons c before ih =>
      obtain ⟨⟨hc, hpercent⟩, hbefore⟩ := List.forall_mem_cons.mp h
      rw [List.cons_append, decodeWith_cons hc hpercent, ih hbefore, List.reverse_cons,
        List.append_assoc]
      rfl
  rw [decode, String.toList_append, String.toList_ofList, Decoder.empty, hread]
  simp

@[simp]
theorem decode_encode (s : String) : decode (encode s) = s := by
  have h := decode_append_encode [] (by simp) s
  simpa using h

end SpecSkeleton.Percent
