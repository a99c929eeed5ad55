/-
**Network addresses.**

An address has four bytes, written in decimal with points, or eight groups of 16 bits, written in
hexadecimal with colons. The longest run of two or more zero groups is written as two colons; the
last two groups may be read as four bytes, and are written so where the address stands for one of
four bytes.

* `Address.read?`, `Address.write`: addresses in text.
-/

import Paydesk.Text.Ascii
import Paydesk.Text.Hex

namespace Paydesk

/-- An address of 32 or of 128 bits. -/
inductive Address where
  | short (bits : BitVec 32)
  | long (bits : BitVec 128)
  deriving DecidableEq

namespace Address

/-! ### Reading -/

/-- The number of up to so many leading digits in a base, and what follows. -/
def readDigits? (base width : Nat) (value? : Char → Option Nat) (chars : List Char) :
    Option (Nat × Nat × List Char) :=
  let run := chars.takeWhile fun char => (value? char).isSome
  if run.isEmpty || width < run.length then none
  else
    let number := run.foldl (fun number char => number * base + (value? char).getD 0) 0
    some (number, run.length, chars.drop run.length)

/-- A byte in decimal digits without leading zeros. -/
def readByte? (chars : List Char) : Option (Nat × List Char) := do
  let (number, length, rest) ← readDigits? 10 3 Text.digitValue? chars
  if number < 256 && !(chars.head? == some '0' && 1 < length) then some (number, rest) else none

/-- Bytes that each follow a point. -/
def readMoreBytes? : Nat → Nat → List Char → Option (Nat × List Char)
  | 0, number, chars => some (number, chars)
  | count + 1, number, '.' :: chars => do
    let (byte, rest) ← readByte? chars
    readMoreBytes? count (number * 256 + byte) rest
  | _ + 1, _, _ => none

/-- Four bytes divided by points. -/
def readShort? (chars : List Char) : Option (Nat × List Char) := do
  let (first, rest) ← readByte? chars
  readMoreBytes? 3 first rest

/-- A group of up to four hexadecimal digits. -/
def readGroup? (chars : List Char) : Option (Nat × List Char) :=
  (readDigits? 16 4 Text.hexValue? chars).map fun (number, _, rest) => (number, rest)

/-- What follows a colon; the first of several groups needs none. -/
def afterColon? (first : Bool) (chars : List Char) : Option (List Char) :=
  if first then some chars
  else
    match chars with
    | ':' :: rest => some rest
    | _ => none

/-- Groups divided by colons, as many as there are room for, perhaps ending in four bytes: the
groups, whether they end so, and what follows. -/
def readGroups (first : Bool) : Nat → List Char → List Nat × Bool × List Char
  | 0, chars => ([], false, chars)
  | room + 1, chars =>
    let bytes := if room = 0 then none else afterColon? first chars >>= readShort?
    match bytes with
    | some (number, rest) => ([number / 65536, number % 65536], true, rest)
    | none =>
      match afterColon? first chars >>= readGroup? with
      | some (group, rest) =>
        let (groups, bytesLast, more) := readGroups false room rest
        (group :: groups, bytesLast, more)
      | none => ([], false, chars)

/-- The bits of eight groups. -/
def ofGroups (groups : List Nat) : BitVec 128 :=
  BitVec.ofNat 128 (groups.foldl (fun bits group => bits * 65536 + group) 0)

/-- Eight groups, some of them perhaps left out between two colons. -/
def readLong? (chars : List Char) : Option (BitVec 128 × List Char) :=
  let (head, bytesLast, rest) := readGroups true 8 chars
  if head.length = 8 then some (ofGroups head, rest)
  else if bytesLast then none
  else
    match rest with
    | ':' :: ':' :: more =>
      let (tail, _, rest) := readGroups true (7 - head.length) more
      let zeros := List.replicate (8 - head.length - tail.length) 0
      some (ofGroups (head ++ zeros ++ tail), rest)
    | _ => none

/-- The address of a text. -/
def read? (text : String) : Option Address :=
  match readShort? text.toList with
  | some (bits, []) => some (.short (BitVec.ofNat 32 bits))
  | some _ => none
  | none =>
    match readLong? text.toList with
    | some (bits, []) => some (.long bits)
    | _ => none

/-! ### Writing -/

/-- The lowest parts of a number in a base, the highest first. -/
def parts (base : Nat) : Nat → Nat → List Nat
  | 0, _ => []
  | count + 1, number => number / Nat.pow base count % base :: parts base count number

/-- Four bytes divided by points. -/
def writeBytes (bits : Nat) : String :=
  ".".intercalate ((parts 256 4 bits).map fun byte => String.ofList (Text.digits byte))

/-- A group in hexadecimal digits. -/
def writeGroup (group : Nat) : String := String.ofList (Nat.toDigits 16 group)

/-- Groups divided by colons. -/
def writeGroups (groups : List Nat) : String := ":".intercalate (groups.map writeGroup)

/-- How many zeros a list starts with. -/
def leadingZeros (groups : List Nat) : Nat := (groups.takeWhile (· == 0)).length

/-- The place and length of the first of the longest runs of zeros. -/
def longestZeros (start : Nat) : List Nat → Nat × Nat
  | [] => (start, 0)
  | group :: rest =>
    let here := leadingZeros (group :: rest)
    let later := longestZeros (start + 1) rest
    if later.2 ≤ here then (start, here) else later

/-- Eight groups, the longest run of zeros left out. -/
def writeLong (bits : Nat) : String :=
  let groups := parts 65536 8 bits
  if groups.take 6 = [0, 0, 0, 0, 0, 0xffff] then "::ffff:" ++ writeBytes bits
  else
    let (start, length) := longestZeros 0 groups
    if 1 < length then
      writeGroups (groups.take start) ++ "::" ++ writeGroups (groups.drop (start + length))
    else writeGroups groups

/-- The text of an address. -/
def write : Address → String
  | short bits => writeBytes bits.toNat
  | long bits => writeLong bits.toNat

end Address

end Paydesk
