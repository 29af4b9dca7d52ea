/-!
# Base 64

Bytes written as letters, three bytes in four letters. Reading is lenient: characters that are no
letters of base 64 are passed over, and the padding that completes the last four letters ends the
text.
-/

namespace StepFlow.Text.Base64

/-- The value of a letter. -/
def letterValue? (c : Char) : Option Nat :=
  if 'A' ≤ c ∧ c ≤ 'Z' then some (c.toNat - 'A'.toNat)
  else if 'a' ≤ c ∧ c ≤ 'z' then some (c.toNat - 'a'.toNat + 26)
  else if '0' ≤ c ∧ c ≤ '9' then some (c.toNat - '0'.toNat + 52)
  else if c = '+' then some 62
  else if c = '/' then some 63
  else none

/-- The bytes of up to four letters, eight bits of each complete byte. -/
def groupBytes : List Nat → List UInt8
  | [a, b] => [UInt8.ofNat (a * 4 + b / 16)]
  | [a, b, c] => [UInt8.ofNat (a * 4 + b / 16), UInt8.ofNat (b * 16 + c / 4)]
  | [a, b, c, d] =>
    [UInt8.ofNat (a * 4 + b / 16), UInt8.ofNat (b * 16 + c / 4), UInt8.ofNat (c * 64 + d)]
  | _ => []

/-- The bytes that a text writes after the letters of an unfinished group and some padding, if the
last group is complete. Padding counts only after two letters of a group, and a letter after it
takes it back. -/
def decodeFrom? : (group : List Nat) → (padding : Nat) → List Char → Option (List UInt8)
  | group, _, [] => if group.isEmpty then some [] else none
  | group, padding, c :: cs =>
    if c = '=' then
      if 2 ≤ group.length then
        if 4 ≤ group.length + padding + 1 then some (groupBytes group)
        else decodeFrom? group (padding + 1) cs
      else decodeFrom? group padding cs
    else
      match letterValue? c with
      | none => decodeFrom? group padding cs
      | some v =>
        if group.length = 3 then (decodeFrom? [] 0 cs).map (groupBytes (group ++ [v]) ++ ·)
        else decodeFrom? (group ++ [v]) 0 cs

/-- The bytes that a text writes. -/
def decode? (cs : List Char) : Option (List UInt8) :=
  decodeFrom? [] 0 cs

end StepFlow.Text.Base64
