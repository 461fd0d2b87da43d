import ScrapeJobs.Unicode.Lookup

/-!
# Quoted text in messages

A message shows a value between double quotes, with a backslash before quotes and
backslashes, the usual escapes for white space, and the number of every character that
does not show on its own.
-/

namespace ScrapeJobs.Text

def hexDigits (n : Nat) : List Char := Nat.toDigits 16 n

/-- Whether a character would not show on its own: it extends the one before it or is
not printable. -/
def isHidden (c : Char) : Bool :=
  0x80 ≤ c.toNat && (Unicode.graphemeExtend.contains c || Unicode.unprintable.contains c)
    || c.toNat < 0x20 || c.toNat = 0x7F

def quotedChar (c : Char) : List Char :=
  match c with
  | '\x00' => ['\\', '0']
  | '\t' => ['\\', 't']
  | '\r' => ['\\', 'r']
  | '\n' => ['\\', 'n']
  | '\\' => ['\\', '\\']
  | '\x22' => ['\\', '\x22']
  | c => if isHidden c then ['\\', 'u', '\x7b'] ++ hexDigits c.toNat ++ ['\x7d'] else [c]

/-- A value as messages show it. -/
def quoted (s : String) : String :=
  "\"" ++ String.ofList (s.toList.flatMap quotedChar) ++ "\""

end ScrapeJobs.Text
