import TerseSchema.Text.Basic
import TerseSchema.Yaml.Fault
/-!
# Binary data

The octets that base-64 text stands for. Other characters among the digits do not count, and
padding that completes a group of four ends the text.
-/

namespace TerseSchema.Yaml

def base64Value? (c : Char) : Option Nat :=
  if 'A' ≤ c && c ≤ 'Z' then some (c.toNat - 'A'.toNat)
  else if 'a' ≤ c && c ≤ 'z' then some (c.toNat - 'a'.toNat + 26)
  else if '0' ≤ c && c ≤ '9' then some (c.toNat - '0'.toNat + 52)
  else if c = '+' then some 62
  else if c = '/' then some 63
  else none

/-- The octets of the digits to come, where `count` digits of a group and `pads` signs of padding
have been read and `bits` are left of them. -/
def base64Octets (count bits pads : Nat) : List Char → Except Fault (List UInt8)
  | [] => if count = 0 then .ok [] else .error .malformed
  | c :: rest =>
    if c = '=' then
      if 2 ≤ count then
        if 4 ≤ count + pads + 1 then .ok [] else base64Octets count bits (pads + 1) rest
      else base64Octets count bits pads rest
    else
      match base64Value? c with
      | none => base64Octets count bits pads rest
      | some d =>
        match count with
        | 0 => base64Octets 1 d 0 rest
        | 1 => do
          let more ← base64Octets 2 (d % 16) 0 rest
          return UInt8.ofNat (bits * 4 + d / 16) :: more
        | 2 => do
          let more ← base64Octets 3 (d % 4) 0 rest
          return UInt8.ofNat (bits * 16 + d / 4) :: more
        | _ => do
          let more ← base64Octets 0 0 0 rest
          return UInt8.ofNat (bits * 64 + d) :: more

def taggedBinary (text : Text) : Except Fault (List UInt8) :=
  match text.chars? with
  | some cs =>
    if cs.all fun c => c.toNat < 0x80 then base64Octets 0 0 0 cs else .error .malformed
  | none => .error .malformed

end TerseSchema.Yaml
