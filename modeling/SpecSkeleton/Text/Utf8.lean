/-!
# Reading UTF-8

Bytes are fed to a decoder one at a time. The decoder knows the range that the next byte must lie
in, so overlong forms, surrogates and code points past the last one are refused at their second
byte. A fault names the bytes of the broken sequence and where it starts. Reading that tolerates
faults puts a replacement character in the place of each broken sequence.
-/

namespace SpecSkeleton.Text.Utf8

inductive Reason where
  | invalidStart
  | invalidContinuation
  | unexpectedEnd
  deriving DecidableEq, Repr

def Reason.text : Reason → String
  | invalidStart => "invalid start byte"
  | invalidContinuation => "invalid continuation byte"
  | unexpectedEnd => "unexpected end of data"

/-- The `count` bytes from `start` on form no character; `lead` is the first of them. -/
structure Fault where
  start : Nat
  count : Nat
  lead : UInt8
  reason : Reason
  deriving DecidableEq, Repr

def hexPair (b : UInt8) : String :=
  String.ofList [Nat.digitChar (b.toNat / 16), Nat.digitChar (b.toNat % 16)]

def Fault.message (f : Fault) : String :=
  let place :=
    if f.count ≤ 1 then s!"byte 0x{hexPair f.lead} in position {f.start}"
    else s!"bytes in position {f.start}-{f.start + f.count - 1}"
  s!"'utf-8' codec can't decode {place}: {f.reason.text}"

/-- A sequence that is not complete: `missing` bytes are to come, the next one from `lo` to `hi`. -/
structure Pending where
  lead : UInt8
  seen : Nat
  missing : Nat
  lo : UInt8
  hi : UInt8
  code : Nat
  deriving DecidableEq, Repr

/-- The sequence that a byte past the ASCII ones opens. -/
def Pending.ofLead? (b : UInt8) : Option Pending :=
  let opening (missing : Nat) (lo hi : UInt8) (mask : Nat) : Option Pending :=
    some ⟨b, 1, missing, lo, hi, b.toNat % mask⟩
  if b < 0xC2 then none
  else if b < 0xE0 then opening 1 0x80 0xBF 32
  else if b = 0xE0 then opening 2 0xA0 0xBF 16
  else if b = 0xED then opening 2 0x80 0x9F 16
  else if b < 0xF0 then opening 2 0x80 0xBF 16
  else if b = 0xF0 then opening 3 0x90 0xBF 8
  else if b < 0xF4 then opening 3 0x80 0xBF 8
  else if b = 0xF4 then opening 3 0x80 0x8F 8
  else none

/-- What has been read: the characters, last first, the number of bytes, and an open sequence. -/
structure Decoder where
  chars : List Char
  position : Nat
  pending : Option Pending
  deriving Repr

namespace Decoder

def empty : Decoder := ⟨[], 0, none⟩

def fault (d : Decoder) (p : Pending) (reason : Reason) : Fault :=
  ⟨d.position - p.seen, p.seen, p.lead, reason⟩

def feed (d : Decoder) (b : UInt8) : Except Fault Decoder :=
  match d.pending with
  | none =>
    if b < 0x80 then .ok ⟨Char.ofNat b.toNat :: d.chars, d.position + 1, none⟩
    else
      match Pending.ofLead? b with
      | some p => .ok ⟨d.chars, d.position + 1, some p⟩
      | none => .error ⟨d.position, 1, b, .invalidStart⟩
  | some p =>
    if p.lo ≤ b ∧ b ≤ p.hi then
      let code := p.code * 64 + b.toNat % 64
      if p.missing ≤ 1 then .ok ⟨Char.ofNat code :: d.chars, d.position + 1, none⟩
      else
        .ok ⟨d.chars, d.position + 1, some ⟨p.lead, p.seen + 1, p.missing - 1, 0x80, 0xBF, code⟩⟩
    else .error (d.fault p .invalidContinuation)

def finish (d : Decoder) : Except Fault (List Char) :=
  match d.pending with
  | none => .ok d.chars.reverse
  | some p => .error (d.fault p .unexpectedEnd)

/-- The character that stands for a broken sequence. -/
def replacement : Char := '\uFFFD'

/-- Gives up an open sequence. -/
def breakOff (d : Decoder) : Decoder :=
  match d.pending with
  | none => d
  | some _ => ⟨replacement :: d.chars, d.position, none⟩

/-- Takes a byte whatever it is. One that does not continue the open sequence may open another. -/
def feedLossy (d : Decoder) (b : UInt8) : Decoder :=
  match d.feed b with
  | .ok next => next
  | .error _ =>
    match d.breakOff.feed b with
    | .ok next => next
    | .error _ => ⟨replacement :: d.breakOff.chars, d.position + 1, none⟩

/-- Adds a character that was not given as bytes. -/
def add (d : Decoder) (c : Char) : Decoder :=
  ⟨c :: d.breakOff.chars, d.position, none⟩

end Decoder

def decode (bytes : List UInt8) : Except Fault (List Char) := do
  (← bytes.foldlM Decoder.feed Decoder.empty).finish

def encode (cs : List Char) : List UInt8 :=
  (String.ofList cs).toUTF8.data.toList

end SpecSkeleton.Text.Utf8
