import ScrapeJobs.CharSet
import ScrapeJobs.Unicode.Categories
import ScrapeJobs.Url.Punycode

/-!
# Hosts of URLs

A host is an IPv6 address in brackets, an IPv4 address or a domain name. Under a scheme
without a meaning to this library any text without delimiters is a host.
-/

namespace ScrapeJobs.Url

/-- Why a text is no URL. -/
inductive Fault where
  | relative
  | emptyHost
  | port
  | ipv4
  | ipv6
  /-- A domain name with characters that no domain name has. -/
  | domain
  /-- The same under other schemes. -/
  | domainChar
  deriving DecidableEq, Repr

def Fault.message : Fault → String
  | relative => "relative URL without a base"
  | emptyHost => "empty host"
  | port => "invalid port number"
  | ipv4 => "invalid IPv4 address"
  | ipv6 => "invalid IPv6 address"
  | domain => "invalid international domain name"
  | domainChar => "invalid domain character"

/-! ## Numbers -/

def hexDigit? (c : Char) : Option Nat :=
  if c.isDigit then some (c.toNat - '0'.toNat)
  else if 'a' ≤ c ∧ c ≤ 'f' then some (c.toNat - 'a'.toNat + 10)
  else if 'A' ≤ c ∧ c ≤ 'F' then some (c.toNat - 'A'.toNat + 10)
  else none

/-- The number that digits make in a base up to sixteen. -/
def natOfDigits? (base : Nat) (cs : List Char) : Option Nat :=
  cs.foldlM (fun n c => do
    let d ← hexDigit? c
    if d < base then return n * base + d else none) 0

/-- Cuts a text at each dot. -/
def splitDots : List Char → List (List Char)
  | [] => [[]]
  | c :: rest =>
    match splitDots rest with
    | part :: parts => if c = '.' then [] :: part :: parts else (c :: part) :: parts
    | [] => [[c]]

/-! ## IPv6 addresses -/

/-- An IPv4 address at the end of an IPv6 address: four numbers without leading zeros. -/
def isDottedTail (cs : List Char) : Bool :=
  let parts := splitDots cs
  parts.length = 4 && parts.all fun p =>
    p ≠ [] && p.all Char.isDigit && (p.length = 1 || p.head? ≠ some '0') && p.length ≤ 3 &&
      (natOfDigits? 10 p).any (· ≤ 255)

/-- Reads groups of an IPv6 address after the first `count`; `gap` tells whether a double
colon stood among them. -/
def isIpv6From : Nat → Nat → Bool → List Char → Bool
  | _, count, gap, [] => gap || count = 8
  | 0, _, _, _ => false
  | fuel + 1, count, gap, cs =>
    if count = 8 then false
    else
      let digits := (cs.take 4).takeWhile fun c => (hexDigit? c).isSome
      match cs.drop digits.length with
      | ':' :: rest =>
        if digits = [] then !gap && isIpv6From fuel (count + 1) true rest
        else rest ≠ [] && isIpv6From fuel (count + 1) gap rest
      | '.' :: _ => digits ≠ [] && count ≤ 6 && isDottedTail cs && (gap || count = 6)
      | [] => isIpv6From fuel (count + 1) gap []
      | _ => false

def isIpv6 (cs : List Char) : Bool :=
  match cs with
  | [] | [_] => false
  | ':' :: ':' :: rest => isIpv6From (rest.length + 1) 1 true rest
  | ':' :: _ => false
  | _ => isIpv6From (cs.length + 1) 0 false cs

/-! ## IPv4 addresses -/

/-- A part of an IPv4 address, in base ten, or after a zero eight, or after `0x` sixteen. -/
def ipv4Part? (cs : List Char) : Option Nat :=
  match cs with
  | [] => none
  | '0' :: 'x' :: rest | '0' :: 'X' :: rest => natOfDigits? 16 rest
  | '0' :: c :: rest => natOfDigits? 8 (c :: rest)
  | _ => natOfDigits? 10 cs

/-- The parts of a host between dots, without an empty last one. -/
def hostParts (cs : List Char) : List (List Char) :=
  let parts := splitDots cs
  if parts.getLast? = some [] then parts.dropLast else parts

/-- Whether the last part of a host is a number, so that it must be an IPv4 address. -/
def endsInNumber (cs : List Char) : Bool :=
  match (hostParts cs).getLast? with
  | some last => (last ≠ [] && last.all Char.isDigit) || (ipv4Part? last).isSome
  | none => false

/-- Whether a host is an IPv4 address: at most four numbers, of which the last fills up
the bytes that are left. -/
def isIpv4 (cs : List Char) : Bool :=
  let parts := hostParts cs
  parts.length ≤ 4 && match parts.mapM ipv4Part? with
    | some numbers =>
      match numbers.getLast? with
      | some last => numbers.dropLast.all (· ≤ 255) && last < Nat.pow 256 (5 - numbers.length)
      | none => false
    | none => false

/-! ## Domain names -/

/-- Puts the bytes that percent signs stand for in their place. -/
def percentDecode : List UInt8 → List UInt8
  | 0x25 :: a :: b :: rest =>
    match hexDigit? (Char.ofNat a.toNat), hexDigit? (Char.ofNat b.toNat) with
    | some x, some y => UInt8.ofNat (16 * x + y) :: percentDecode rest
    | _, _ => 0x25 :: percentDecode (a :: b :: rest)
  | b :: rest => b :: percentDecode rest
  | [] => []

/-- ASCII characters that no domain name has. -/
def isDeniedInDomain (c : Char) : Bool :=
  c.toNat ≤ 0x20 || c.toNat = 0x7F || "%#/:<>?@[\\]^|".toList.contains c

/-- Characters that leave no trace in a domain name. -/
def isIgnoredInDomain (c : Char) : Bool :=
  c.toNat = 0xAD || c.toNat = 0x34F || (0x180B ≤ c.toNat && c.toNat ≤ 0x180F) ||
    c.toNat = 0x200B || c.toNat = 0x2060 || c.toNat = 0x2064 ||
    (0xFE00 ≤ c.toNat && c.toNat ≤ 0xFE0F) || c.toNat = 0xFEFF

/-- The ASCII characters behind full-width forms and other full stops. -/
def narrow (c : Char) : Char :=
  if 0xFF01 ≤ c.toNat ∧ c.toNat ≤ 0xFF5E then Char.ofNat (c.toNat - 0xFEE0)
  else if c.toNat = 0x3002 ∨ c.toNat = 0xFF61 then '.'
  else c

def categoryNamed (name : String) : CharSet :=
  match Unicode.categories.find? fun e => e.1.contains name with
  | some e => .ofGaps e.2
  | none => .empty

/-- Whether a character outside of ASCII may stand in a domain name. -/
def isDomainChar (c : Char) : Bool :=
  !(["c", "z"].any fun name => (categoryNamed name).contains c) && c.toNat ≠ 0xFFFD

/-- Whether a label holds only what labels may hold and starts with no mark. -/
def isPlainLabel (label : List Char) : Bool :=
  label.all (fun c => if c.toNat < 0x80 then !isDeniedInDomain c else isDomainChar c) &&
    match label with
    | c :: _ => c.toNat < 0x80 || !(categoryNamed "m").contains c
    | [] => true

/-- Whether a label is one of a domain name; a coded one must stand for a text that needs
the code. -/
def isDomainLabel (label : List Char) : Bool :=
  match label with
  | 'x' :: 'n' :: '-' :: '-' :: coded =>
    isPlainLabel label && match Punycode.decode? coded with
      | some text => text.any (0x80 ≤ ·.toNat) && isPlainLabel text
      | none => false
  | _ => isPlainLabel label

/-- The characters of a domain name in the form in which they are compared. -/
def domain? (cs : List Char) : Option (List Char) := do
  let bytes := percentDecode (String.ofList cs).toUTF8.toList
  let text ← String.fromUTF8? ⟨bytes.toArray⟩
  let cs := (text.toList.map narrow).map Char.toLower
  let cs := cs.filter (!isIgnoredInDomain ·)
  if (splitDots cs).all isDomainLabel then some cs else none

/-! ## Hosts -/

/-- A host in brackets. -/
def checkBracketed (cs : List Char) : Except Fault Unit :=
  if cs.getLast? = some ']' ∧ isIpv6 cs.dropLast then .ok () else .error .ipv6

/-- The host of a URL whose scheme has a known meaning. -/
def checkHost (cs : List Char) : Except Fault Unit :=
  match cs with
  | '[' :: rest => checkBracketed rest
  | _ =>
    match domain? cs with
    | none => .error .domain
    | some [] => .error .emptyHost
    | some name => if endsInNumber name && !isIpv4 name then .error .ipv4 else .ok ()

/-- Characters that no host has. -/
def isForbiddenInHost (c : Char) : Bool := "\x00\t\n\r #/:<>?@[\\]^|".toList.contains c

/-- The host of a URL with another scheme. -/
def checkOpaqueHost (cs : List Char) : Except Fault Unit :=
  match cs with
  | '[' :: rest => checkBracketed rest
  | _ => if cs.any isForbiddenInHost then .error .domainChar else .ok ()

end ScrapeJobs.Url
