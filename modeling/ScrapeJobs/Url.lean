import ScrapeJobs.Url.Host

/-!
# URLs

`Url.check` tells whether a text is a URL with a scheme of its own. Tabs and line breaks
in the text do not count, nor do blanks and control characters at its ends. Behind the
host nothing can go wrong but the port.
-/

namespace ScrapeJobs.Url

/-- The kinds of schemes: the one of files, those whose URLs have a host and a path, and
all others. -/
inductive SchemeKind where
  | file
  | web
  | other
  deriving DecidableEq, Repr

def SchemeKind.of (scheme : String) : SchemeKind :=
  if scheme = "file" then .file
  else if ["http", "https", "ws", "wss", "ftp"].contains scheme then .web
  else .other

/-- The scheme in small letters and what follows its colon. -/
def scheme? (cs : List Char) : Option (String × List Char) :=
  let isSchemeChar (c : Char) : Bool := c.isAlphanum || c = '+' || c = '-' || c = '.'
  match cs.takeWhile isSchemeChar, cs.dropWhile isSchemeChar with
  | c :: name, ':' :: rest =>
    if c.isAlpha then some ((String.ofList (c :: name)).toLower, rest) else none
  | _, _ => none

/-- Whether a character ends the part of a URL that names the host. -/
def endsAuthority (kind : SchemeKind) (c : Char) : Bool :=
  c = '/' || c = '?' || c = '#' || (c = '\\' && kind ≠ .other)

/-- Splits behind the last at-sign before the path, if there is one. -/
def splitUser (kind : SchemeKind) (cs : List Char) : Option (List Char) × List Char :=
  let authority := cs.takeWhile (!endsAuthority kind ·)
  let host := (authority.reverse.takeWhile (· ≠ '@')).reverse
  if host.length = authority.length then (none, cs)
  else
    let user := authority.take (authority.length - host.length - 1)
    (some user, host ++ cs.dropWhile (!endsAuthority kind ·))

/-- The host at the start of a text: up to a colon outside of brackets, or the path. -/
def takeHost (kind : SchemeKind) (inBrackets : Bool) : List Char → List Char
  | [] => []
  | c :: rest =>
    if (c = ':' ∧ !inBrackets) ∨ endsAuthority kind c then []
    else c :: takeHost kind (c = '[' || (c ≠ ']' && inBrackets)) rest

/-- A port and what follows it. -/
def checkPort (cs : List Char) : Except Fault Unit :=
  let digits := cs.takeWhile Char.isDigit
  if (natOfDigits? 10 digits).any (65535 < ·) then .error .port
  else
    match cs.dropWhile Char.isDigit with
    | [] => .ok ()
    | c :: _ => if c = '/' ∨ c = '\\' ∨ c = '?' ∨ c = '#' then .ok () else .error .port

/-- The part of a URL behind the two slashes. -/
def checkAuthority (kind : SchemeKind) (cs : List Char) : Except Fault Unit := do
  let (user, cs) := splitUser kind cs
  if user = some [] ∧ cs.head?.any (endsAuthority kind) then throw .emptyHost
  let host := takeHost kind false cs
  if kind = .web then
    if host = [] then throw .emptyHost
    checkHost host
  else checkOpaqueHost host
  let rest := cs.drop host.length
  if host = [] ∧ (rest.head? = some ':' ∨ user.any fun u => u ≠ [] ∧ u ≠ [':']) then
    throw .emptyHost
  match rest with
  | ':' :: rest => checkPort rest
  | _ => return ()

/-- Whether a text is a drive letter with a colon or a bar. -/
def isDriveLetter : List Char → Bool
  | [c, d] => c.isAlpha && (d = ':' || d = '|')
  | _ => false

/-- What follows the scheme of a file URL. -/
def checkFile (cs : List Char) : Except Fault Unit :=
  let isSlash (c : Char) : Bool := c = '/' || c = '\\'
  match cs with
  | a :: b :: rest =>
    if isSlash a && isSlash b then
      let host := rest.takeWhile (!endsAuthority .file ·)
      if host = [] ∨ isDriveLetter host then .ok () else checkHost host
    else .ok ()
  | _ => .ok ()

/-- Tells whether a text is a URL with a scheme. -/
def check (text : String) : Except Fault Unit :=
  let isEdge (c : Char) : Bool := c.toNat ≤ 0x20
  let cs := ((text.toList.dropWhile isEdge).reverse.dropWhile isEdge).reverse
  let cs := cs.filter fun c => c ≠ '\t' && c ≠ '\n' && c ≠ '\r'
  match scheme? cs with
  | none => .error .relative
  | some (scheme, rest) =>
    match SchemeKind.of scheme with
    | .file => checkFile rest
    | .web => checkAuthority .web (rest.dropWhile fun c => c = '/' || c = '\\')
    | .other =>
      match rest with
      | '/' :: '/' :: rest => checkAuthority .other rest
      | _ => .ok ()

end ScrapeJobs.Url
