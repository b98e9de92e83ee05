import TaxFlow.Text.Digit

/-!
# Decoding bytes

Bytes read as characters of one to four bytes. Bytes that form no character are reported with their
place.
-/
namespace TaxFlow.Text

inductive Utf8Reason where
  | invalidStart
  | invalidContinuation
  | unexpectedEnd
  deriving DecidableEq, Repr

/-- Bytes that form no character: the first of them, its position, and how many they are. -/
structure Utf8Fault where
  byte : Nat
  position : Nat
  count : Nat
  reason : Utf8Reason
  deriving DecidableEq, Repr

def Utf8Fault.message (f : Utf8Fault) : String :=
  let place :=
    if f.count = 1 then "byte 0x" ++ hexPadded 2 f.byte ++ " in position " ++ toString f.position
    else "bytes in position " ++ toString f.position ++ "-" ++ toString (f.position + f.count - 1)
  let reason := match f.reason with
    | .invalidStart => "invalid start byte"
    | .invalidContinuation => "invalid continuation byte"
    | .unexpectedEnd => "unexpected end of data"
  "'utf-8' codec can't decode " ++ place ++ ": " ++ reason

def secondRange (first : Nat) : Nat × Nat :=
  if first = 0xE0 then (0xA0, 0xBF)
  else if first = 0xED then (0x80, 0x9F)
  else if first = 0xF0 then (0x90, 0xBF)
  else if first = 0xF4 then (0x80, 0x8F)
  else (0x80, 0xBF)

def followers (first : Nat) : Option Nat :=
  if first < 0x80 then some 0
  else if 0xC2 ≤ first ∧ first ≤ 0xDF then some 1
  else if 0xE0 ≤ first ∧ first ≤ 0xEF then some 2
  else if 0xF0 ≤ first ∧ first ≤ 0xF4 then some 3
  else none

/-- The first byte without its marks of length. -/
def startValue (first count : Nat) : Nat :=
  if count = 0 then first else if count = 1 then first % 0x20 else if count = 2 then first % 0x10
  else first % 0x08

/-- Takes following bytes: the value with them and the rest, or how many were good, and why no
more. -/
def follow (range : Nat × Nat) : (count good value : Nat) → List Nat →
    Except (Nat × Utf8Reason) (Nat × List Nat)
  | 0, _, value, bs => .ok (value, bs)
  | _ + 1, good, _, [] => .error (good, .unexpectedEnd)
  | count + 1, good, value, b :: bs =>
    if range.1 ≤ b ∧ b ≤ range.2 then follow (0x80, 0xBF) count (good + 1) (value * 64 + b % 64) bs
    else .error (good, .invalidContinuation)

theorem follow_length {range : Nat × Nat} {count good value : Nat} {bs : List Nat}
    {r : Nat × List Nat}
    (h : follow range count good value bs = .ok r) : r.2.length ≤ bs.length := by
  fun_induction follow range count good value bs with
  | case1 => cases h; exact Nat.le_refl _
  | case2 => simp at h
  | case3 _ _ _ _ _ _ _ ih => exact Nat.le_succ_of_le (ih h)
  | case4 => simp at h

def decodeFrom (position : Nat) (bs : List Nat) : Except Utf8Fault (List Char) :=
  match bs with
  | [] => .ok []
  | b :: rest =>
    match followers b with
    | none => .error ⟨b, position, 1, .invalidStart⟩
    | some count =>
      match h : follow (secondRange b) count 0 (startValue b count) rest with
      | .error (good, reason) => .error ⟨b, position, good + 1, reason⟩
      | .ok (value, after) => (decodeFrom (position + count + 1) after).map (Char.ofNat value :: ·)
termination_by bs.length
decreasing_by exact Nat.lt_succ_of_le (follow_length h)

def decodeUtf8 (bytes : ByteArray) : Except Utf8Fault (List Char) :=
  decodeFrom 0 (bytes.toList.map UInt8.toNat)

end TaxFlow.Text
