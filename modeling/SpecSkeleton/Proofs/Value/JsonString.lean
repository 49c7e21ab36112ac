import SpecSkeleton.Uri.Percent
import SpecSkeleton.Value.Json

/-!
# Reading a JSON string

A reader of the strings of JSON text, which takes the UTF-16 units of a string together again, and
that it undoes the writing of one (`readString_escape`).
-/

namespace SpecSkeleton.Json

/-! ## UTF-16 units -/

/-- The UTF-16 units of a character. -/
def units (c : Char) : List Nat :=
  if c.toNat < 0x10000 then [c.toNat]
  else [0xD800 + (c.toNat - 0x10000) / 0x400, 0xDC00 + (c.toNat - 0x10000) % 0x400]

/-- The characters that units stand for; half a pair stands for none. -/
def ofUnits? : List Nat → Option (List Char)
  | [] => some []
  | u :: us =>
    if u < 0xD800 ∨ 0xDFFF < u then (ofUnits? us).map (Char.ofNat u :: ·)
    else
      match us with
      | [] => none
      | v :: us =>
        if u < 0xDC00 ∧ 0xDC00 ≤ v ∧ v ≤ 0xDFFF then
          (ofUnits? us).map (Char.ofNat (0x10000 + (u - 0xD800) * 0x400 + (v - 0xDC00)) :: ·)
        else none

theorem ofUnits?_alone {u : Nat} (h : u < 0xD800 ∨ 0xDFFF < u) (us : List Nat) :
    ofUnits? (u :: us) = (ofUnits? us).map (Char.ofNat u :: ·) := by
  rw [ofUnits?.eq_def]
  simp only [if_pos h]

theorem ofUnits?_units (c : Char) (us : List Nat) :
    ofUnits? (units c ++ us) = (ofUnits? us).map (c :: ·) := by
  have hvalid : c.toNat < 0xD800 ∨ 0xDFFF < c.toNat ∧ c.toNat < 0x110000 := c.valid
  unfold units
  split
  · next hlow =>
    rw [List.singleton_append, ofUnits?_alone (by omega), Char.ofNat_toNat]
  · next hhigh =>
    have hchar : 0x10000 + (0xD800 + (c.toNat - 0x10000) / 0x400 - 0xD800) * 0x400 +
        (0xDC00 + (c.toNat - 0x10000) % 0x400 - 0xDC00) = c.toNat := by omega
    rw [List.cons_append, List.singleton_append, ofUnits?, if_neg (by omega), if_pos (by omega),
      hchar, Char.ofNat_toNat]

theorem ofUnits?_flatMap (cs : List Char) : ofUnits? (cs.flatMap units) = some cs := by
  induction cs with
  | nil => rfl
  | cons c cs ih => rw [List.flatMap_cons, ofUnits?_units, ih, Option.map_some]

/-! ## Strings -/

/-- The unit of four hexadecimal digits. -/
def hexUnit? (a b c d : Char) : Option Nat := do
  return (((← Percent.hexValue? a) * 16 + (← Percent.hexValue? b)) * 16 +
    (← Percent.hexValue? c)) * 16 + (← Percent.hexValue? d)

/-- The character of an escape of one letter. -/
def plainEscape? : Char → Option Char
  | '"' => some '"'
  | '\\' => some '\\'
  | '/' => some '/'
  | 'b' => some '\x08'
  | 'f' => some '\x0c'
  | 'n' => some '\n'
  | 'r' => some '\r'
  | 't' => some '\t'
  | _ => none

/-- Puts units in front of those of the rest of a string. -/
def pushUnits (front : List Nat) (read : Option (List Nat × List Char)) :
    Option (List Nat × List Char) :=
  read.map fun (us, rest) => (front ++ us, rest)

/-- The units of a string after its opening quote, and what follows the closing one. -/
def readUnits : List Char → Option (List Nat × List Char)
  | [] => none
  | '"' :: cs => some ([], cs)
  | '\\' :: 'u' :: a :: b :: c :: d :: cs =>
    (hexUnit? a b c d).bind fun u => pushUnits [u] (readUnits cs)
  | '\\' :: e :: cs => (plainEscape? e).bind fun c => pushUnits [c.toNat] (readUnits cs)
  | c :: cs => if c.toNat < 0x20 then none else pushUnits (units c) (readUnits cs)

/-- A string after its opening quote, and what follows the closing one. -/
def readString (cs : List Char) : Option (String × List Char) :=
  (readUnits cs).bind fun (us, rest) => (ofUnits? us).map fun ds => (String.ofList ds, rest)

theorem hexValue?_digitChar {n : Nat} (h : n < 16) :
    Percent.hexValue? (Nat.digitChar n) = some n := by
  have hall : ∀ i : Fin 16, Percent.hexValue? (Nat.digitChar i) = some i.val := by decide
  exact hall ⟨n, h⟩

theorem readUnits_unit {n : Nat} (h : n < 0x10000) (rest : List Char) :
    readUnits (unit n ++ rest) = pushUnits [n] (readUnits rest) := by
  have hsum : ((n / 16 / 16 / 16 % 16 * 16 + n / 16 / 16 % 16) * 16 + n / 16 % 16) * 16 + n % 16 =
      n := by omega
  have hdigits : unit n ++ rest = '\\' :: 'u' :: Nat.digitChar (n / 16 / 16 / 16 % 16) ::
      Nat.digitChar (n / 16 / 16 % 16) :: Nat.digitChar (n / 16 % 16) ::
      Nat.digitChar (n % 16) :: rest := by simp [unit, Text.hex]
  have hvalue (m : Nat) : Percent.hexValue? (Nat.digitChar (m % 16)) = some (m % 16) :=
    hexValue?_digitChar (Nat.mod_lt m (by decide))
  rw [hdigits, readUnits]
  simp only [hexUnit?, hvalue, Option.bind_eq_bind, Option.pure_def, Option.bind_some, hsum]

theorem readUnits_escape (c : Char) (rest : List Char) :
    readUnits (escape c ++ rest) = pushUnits (units c) (readUnits rest) := by
  have hvalid : c.toNat < 0xD800 ∨ 0xDFFF < c.toNat ∧ c.toNat < 0x110000 := c.valid
  unfold escape
  split
  · next h => rcases h with rfl | rfl <;> rfl
  split
  · next h => subst h; rfl
  split
  · next h => subst h; rfl
  split
  · next h => subst h; rfl
  split
  · next h => subst h; rfl
  split
  · next h => subst h; rfl
  next hquote _ _ _ _ _ =>
  obtain ⟨hquote, hslash⟩ := not_or.mp hquote
  split
  · next h =>
    have hlow : ¬ c.toNat < 0x20 := by
      have hspace : 0x20 ≤ c.toNat := h.1
      omega
    rw [List.singleton_append, readUnits, if_neg hlow]
    · exact hquote
    · exact fun _ _ _ _ _ h _ => hslash h
    · exact fun _ _ h _ => hslash h
  split
  · next h =>
    rw [readUnits_unit h, units, if_pos h]
  · next h =>
    simp only
    rw [List.append_assoc, readUnits_unit (by omega), readUnits_unit (by omega), units, if_neg h]
    cases readUnits rest <;> rfl

/-- Reading a string undoes writing it. -/
theorem readString_escape (s : String) (rest : List Char) :
    readString (s.toList.flatMap escape ++ '"' :: rest) = some (s, rest) := by
  have hunits : ∀ cs : List Char, readUnits (cs.flatMap escape ++ '"' :: rest) =
      some (cs.flatMap units, rest) := by
    intro cs
    induction cs with
    | nil => rfl
    | cons c cs ih =>
      rw [List.flatMap_cons, List.append_assoc, readUnits_escape, ih]
      rfl
  rw [readString, hunits]
  simp [ofUnits?_flatMap]

end SpecSkeleton.Json
