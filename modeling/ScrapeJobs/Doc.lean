/-!
# Documents

`Doc` is the common form of configuration files and resources once their text is read:
scalars, sequences and mappings. A scalar that was written plainly in a format without
typed literals is kept as its text (`Doc.plain`), since what it stands for depends on
what is asked for: `123` is a string where a string is wanted and a number where any
value is (`Doc.resolve?`).
-/

namespace ScrapeJobs

/-- A value of a configuration format. -/
inductive Doc where
  | null
  | bool (b : Bool)
  | int (n : Int)
  /-- A number that is no integer of 64 bits. Nothing here asks for its value. -/
  | float
  | str (s : String)
  /-- A scalar whose type is open. -/
  | plain (s : String)
  | seq (items : List Doc)
  | map (entries : List (Doc × Doc))
  | tagged (tag : String) (body : Doc)
  /-- A reference to a node from within itself. -/
  | endless
  deriving Inhabited

namespace Doc

/-- A mapping with string keys. -/
def object (fields : List (String × Doc)) : Doc := map (fields.map fun (k, v) => (str k, v))

def strings (ss : List String) : Doc := seq (ss.map str)

def nat (n : Nat) : Doc := int n

/-- A value or null. -/
def orNull (d : Option Doc) : Doc := d.getD null

end Doc

end ScrapeJobs
