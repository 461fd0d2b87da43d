/-!
# Sets of characters

A `CharSet` is a list of closed ranges of code points. The operations keep the list
increasing, with a gap between neighbours, so sets built by them are equal as lists when
they hold the same characters. Large fixed sets (the properties of Unicode) are written as
a text of gaps and lengths and read by `CharSet.ofGaps`.
-/

namespace ScrapeJobs

/-- A set of characters as ranges of code points, both ends included. -/
structure CharSet where
  ranges : List (Nat × Nat)
  deriving DecidableEq, Inhabited

namespace CharSet

/-- The greatest code point. -/
def top : Nat := 0x10FFFF

def empty : CharSet := ⟨[]⟩

/-- Every character: all code points but the surrogates. -/
def all : CharSet := ⟨[(0, 0xD7FF), (0xE000, top)]⟩

def containsCode (s : CharSet) (n : Nat) : Bool :=
  s.ranges.any fun r => r.1 ≤ n && n ≤ r.2

def contains (s : CharSet) (c : Char) : Bool := s.containsCode c.toNat

def singleton (c : Char) : CharSet := ⟨[(c.toNat, c.toNat)]⟩

def range (lo hi : Char) : CharSet := ⟨[(lo.toNat, hi.toNat)]⟩

/-! ## Operations -/

/-- Joins ranges that overlap or touch, in a list sorted by lower ends. -/
def join : List (Nat × Nat) → List (Nat × Nat)
  | [] => []
  | r :: rest => go r rest
where
  go (r : Nat × Nat) : List (Nat × Nat) → List (Nat × Nat)
    | [] => [r]
    | s :: rest =>
      if s.1 ≤ r.2 + 1 then go (r.1, max r.2 s.2) rest else r :: go s rest

def ofRanges (l : List (Nat × Nat)) : CharSet :=
  ⟨join (l.mergeSort fun a b => a.1 ≤ b.1)⟩

def union (s t : CharSet) : CharSet :=
  ⟨join (List.merge s.ranges t.ranges fun a b => a.1 ≤ b.1)⟩

/-- The ranges left free, from a code point on. -/
def free (start : Nat) : List (Nat × Nat) → List (Nat × Nat)
  | [] => if start ≤ top then [(start, top)] else []
  | r :: rest =>
    if start < r.1 then (start, r.1 - 1) :: free (r.2 + 1) rest else free (r.2 + 1) rest

/-- The code points outside a set, surrogates included. -/
def outside (s : CharSet) : CharSet := ⟨free 0 s.ranges⟩

def inter (s t : CharSet) : CharSet := (s.outside.union t.outside).outside

/-- The characters outside a set. -/
def complement (s : CharSet) : CharSet := all.inter s.outside

def diff (s t : CharSet) : CharSet := s.inter t.outside

def symmDiff (s t : CharSet) : CharSet := (s.diff t).union (t.diff s)

/-- Whether a set holds ASCII characters only. -/
def isAscii (s : CharSet) : Bool := s.ranges.all fun r => r.2 < 0x80

/-! ## Tables -/

/-- The hexadecimal numbers of a text, separated by blanks. -/
def numbers (s : String) : List Nat :=
  let (done, last) := s.toList.foldl
    (fun (acc : List Nat × Option Nat) c =>
      match hexDigit c, acc.2 with
      | some d, some n => (acc.1, some (16 * n + d))
      | some d, none => (acc.1, some d)
      | none, some n => (n :: acc.1, none)
      | none, none => acc)
    ([], none)
  ((last.toList ++ done)).reverse
where
  hexDigit (c : Char) : Option Nat :=
    if '0' ≤ c ∧ c ≤ '9' then some (c.toNat - '0'.toNat)
    else if 'a' ≤ c ∧ c ≤ 'f' then some (c.toNat - 'a'.toNat + 10)
    else none

/-- Ranges given as the gap before each one and its length. -/
def rangesOfGaps (start : Nat) : List Nat → List (Nat × Nat)
  | gap :: len :: rest =>
    (start + gap, start + gap + len - 1) :: rangesOfGaps (start + gap + len) rest
  | _ => []

/-- The set written as a text of gaps and lengths in hexadecimal. -/
def ofGaps (s : String) : CharSet := ⟨rangesOfGaps 0 (numbers s)⟩

end CharSet

end ScrapeJobs
