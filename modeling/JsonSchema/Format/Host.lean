import JsonSchema.Format.Domain
import JsonSchema.Text.Digits

/-!
# `JsonSchema.Format.Host` — the hosts of addresses

A host is an IPv6 address in brackets, or else a name. Where a name is looked up it is a domain,
and one whose last label is a number has to be an IPv4 address; elsewhere it is opaque.

## Contents
- **IPv4.** `number4?`, `endsInNumber`, `isAddress4`.
- **IPv6.** `isGroup`, `isDotted`, `isAddress6`.
- **Hosts.** `percentDecode?`, `isDomainHost`, `isOpaqueHost`.
-/

namespace JsonSchema.Format.Host

open Text (digit? numeral? pieces)

/-! ## IPv4 -/

/-- A number of an IPv4 address: hexadecimal after `0x`, octal after another zero. -/
def number4? : List Char → Option Nat
  | [] => none
  | '0' :: 'x' :: digits | '0' :: 'X' :: digits => numeral? 16 digits
  | '0' :: c :: digits => numeral? 8 (c :: digits)
  | digits => numeral? 10 digits

/-- The labels of a name, one dot at its end not counted. -/
def labels (name : List Char) : List (List Char) :=
  let parts := pieces '.' name
  if 1 < parts.length ∧ parts.getLast? = some [] then parts.dropLast else parts

/-- Whether the last label of a name is a number, or would be one but for its digits. -/
def endsInNumber (name : List Char) : Bool :=
  match (labels name).getLast? with
  | none => false
  | some last =>
    (!last.isEmpty && last.all fun c => (digit? 10 c).isSome) || (number4? last).isSome

/-- Whether a name is an IPv4 address: up to four numbers, of which all but the last are bytes and
the last fills what they leave. -/
def isAddress4 (name : List Char) : Bool :=
  match (labels name).mapM number4? with
  | none => false
  | some numbers =>
    match numbers.reverse with
    | [] => false
    | last :: others =>
      others.length ≤ 3 && (others.all fun n => n ≤ 255) && last < 256 ^ (4 - others.length)

/-! ## IPv6 -/

/-- Whether a text is a group of up to four hexadecimal digits. -/
def isGroup (cs : List Char) : Bool :=
  1 ≤ cs.length && cs.length ≤ 4 && cs.all fun c => (digit? 16 c).isSome

/-- Whether a text is a byte in decimal without a leading zero. -/
def isByte (cs : List Char) : Bool :=
  match cs, numeral? 10 cs with
  | [], _ | _, none => false
  | ['0'], _ => true
  | '0' :: _, _ => false
  | _, some n => n ≤ 255

/-- Whether a text is four bytes with dots between them. -/
def isDotted (cs : List Char) : Bool :=
  let parts := pieces '.' cs
  parts.length == 4 && parts.all isByte

/-- The groups of a part of an address; an empty part has none. -/
def groups (part : List Char) : List (List Char) :=
  if part.isEmpty then [] else pieces ':' part

/-- The number of groups that texts make, a dotted one at the very end counting for two. -/
def groupCount? (parts : List (List Char)) : Option Nat :=
  match parts.reverse with
  | [] => some 0
  | last :: others =>
    if others.all isGroup then
      if isGroup last then some (others.length + 1)
      else if isDotted last then some (others.length + 2)
      else none
    else none

/-- The parts before and after the first double colon. -/
def gap? : List Char → Option (List Char × List Char)
  | ':' :: ':' :: rest => some ([], rest)
  | c :: rest => (gap? rest).map fun (before, after) => (c :: before, after)
  | [] => none

/-- Whether a text is an IPv6 address: eight groups, of which one double colon may stand for some. -/
def isAddress6 (cs : List Char) : Bool :=
  match gap? cs with
  | none => groupCount? (groups cs) == some 8
  | some (before, after) =>
    (groups before).all isGroup &&
      match groupCount? (groups after) with
      | some n => (groups before).length + n ≤ 7
      | none => false

/-! ## Hosts -/

/-- What brackets hold, if the text is in brackets. -/
def bracketed? (cs : List Char) : Option (List Char) :=
  match cs with
  | '[' :: rest => if rest.getLast? = some ']' then some rest.dropLast else none
  | _ => none

/-- The bytes of a text in which `%` and two hexadecimal digits are one byte. -/
def percentBytes : List Char → List UInt8
  | '%' :: a :: b :: rest =>
    match digit? 16 a, digit? 16 b with
    | some high, some low => UInt8.ofNat (16 * high + low) :: percentBytes rest
    | _, _ => '%'.toUInt8 :: percentBytes (a :: b :: rest)
  | c :: rest => String.utf8EncodeChar c ++ percentBytes rest
  | [] => []
termination_by cs => cs.length

/-- The text that a percent-encoded text stands for, if its bytes are text. -/
def percentDecode? (cs : List Char) : Option (List Char) :=
  (String.fromUTF8? ⟨(percentBytes cs).toArray⟩).map String.toList

/-- Whether a text is a host where names are looked up. -/
def isDomainHost (cs : List Char) : Bool :=
  if cs.head? = some '[' then (bracketed? cs).any isAddress6
  else
    match (percentDecode? cs).bind Domain.domain? with
    | none => false
    | some name => !name.isEmpty && (!endsInNumber name || isAddress4 name)

/-- Characters that no opaque host has. -/
def isForbidden (c : Char) : Bool := "\x00\t\n\r #/:<>?@[\\]^|".toList.contains c

/-- Whether a text is a host where names are not looked up. -/
def isOpaqueHost (cs : List Char) : Bool :=
  if cs.head? = some '[' then (bracketed? cs).any isAddress6
  else !cs.any isForbidden

end JsonSchema.Format.Host
