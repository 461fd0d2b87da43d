import ScrapeJobs.Dict
import ScrapeJobs.Doc
import ScrapeJobs.Doc.Scalar

/-!
# Reading values from documents

A decoder is a function `Doc → Option α`. Texts may be plain scalars; numbers and truth
values may be plain scalars too, which are read as the type asks for.

A record is a mapping, or a sequence of its fields in order (`Doc.record?`); fields that
are not known are passed over, and no field may occur twice. Records that share the
mapping with an inner record are mappings only (`Doc.openRecord?`): what is not a field of
their own goes to the inner record, after each plain scalar has become what it stands for
(`Doc.settle?`). `Doc.record` writes a record, and leaves out the fields without a value.
-/

namespace ScrapeJobs.Doc

/-! ## Scalars -/

def untagged : Doc → Doc
  | tagged _ d => untagged d
  | d => d

def text? (d : Doc) : Option String :=
  match d.untagged with
  | str s => some s
  | plain s => some s
  | _ => none

def bool? (d : Doc) : Option Bool :=
  match d.untagged with
  | bool b => some b
  | plain s => Scalar.bool? s
  | _ => none

/-- An integer. -/
def int? (d : Doc) : Option Int :=
  match d.untagged with
  | int n => some n
  | plain s => (Scalar.word? s).map Int.ofNat
  | _ => none

/-- An integer of 64 bits without a sign. -/
def word? (d : Doc) : Option UInt64 := do
  let n ← d.int?
  if 0 ≤ n ∧ n < UInt64.size then some (UInt64.ofNat n.toNat) else none

/-- An integer of 64 bits with a sign. -/
def int64? (d : Doc) : Option Int64 := do
  let n ← d.int?
  if Int64.minValue.toInt ≤ n ∧ n ≤ Int64.maxValue.toInt then some (Int64.ofInt n) else none

/-- An integer of 32 bits with a sign. -/
def int32? (d : Doc) : Option Int32 := do
  let n ← d.int?
  if Int32.minValue.toInt ≤ n ∧ n ≤ Int32.maxValue.toInt then some (Int32.ofInt n) else none

/-- Whether a document stands for nothing. -/
def isNull : Doc → Bool
  | null => true
  | plain s => Scalar.isNull s
  | _ => false

/-- The tag of what stands for nothing. -/
def nullTag : String := "tag:yaml.org,2002:null"

/-- A value or nothing. A scalar may be tagged to be nothing. -/
def optional? (decode : Doc → Option α) (d : Doc) : Option (Option α) :=
  match d with
  | tagged t (plain s) =>
    if t ≠ nullTag then (decode d).map some
    else if Scalar.isNull s ∧ s ≠ "" then some none
    else none
  | _ => if d.isNull then some none else (decode d).map some

/-- The name that a document gives for one of several choices. -/
def choice? : Doc → Option String
  | str s => some s
  | plain s => some s
  | map [(str s, null)] => some s
  | tagged t d =>
    match t.toList, d with
    | '!' :: c :: name, plain s =>
      if Scalar.isNull s then some (String.ofList (c :: name)) else none
    | '!' :: _, _ => none
    | _, plain s => some s
    | _, str s => some s
    | _, _ => none
  | _ => none

/-! ## Sequences and mappings -/

def list? (decode : Doc → Option α) (d : Doc) : Option (List α) :=
  match d.untagged with
  | seq items => items.mapM decode
  | plain "" => some []
  | _ => none

/-- A mapping from texts. The last of several entries for a key counts. -/
def dict? (decode : Doc → Option α) (d : Doc) : Option (Dict α) :=
  match d.untagged with
  | map entries => do
    return Dict.ofList (← entries.mapM fun (k, v) => do return (← k.text?, ← decode v))
  | plain "" => some ∅
  | _ => none

/-! ## What plain scalars stand for -/

/-- The document that a plain scalar stands for where any value may stand. Numbers that
need more than 64 bits stand for none. -/
def ofPlain? (s : String) : Option Doc :=
  match Scalar.ofText s with
  | .null => some null
  | .bool b => some (bool b)
  | .int n => some (int n)
  | .huge => none
  | .float => some float
  | .text => some (str s)

/-- The document that a tagged scalar stands for where any value may stand. Tags of one's
own name a choice, for which there is no place. -/
def ofTagged? (tag : String) (body : Doc) : Option Doc :=
  if tag.startsWith "!" then none
  else
    match body.text? with
    | none => some body
    | some s =>
      match tag with
      | "tag:yaml.org,2002:null" => if Scalar.isNull s ∧ s ≠ "" then some null else none
      | "tag:yaml.org,2002:bool" => (Scalar.bool? s).map bool
      | "tag:yaml.org,2002:int" =>
        match Scalar.ofText s with
        | .int n => some (int n)
        | _ => none
      | "tag:yaml.org,2002:float" => if Scalar.isFloat s.toList then some float else none
      | _ => some (str s)

mutual

/-- Replaces each plain scalar by what it stands for. -/
def settle? : Doc → Option Doc
  | plain s => ofPlain? s
  | seq items => (settleItems? items).map seq
  | map entries => (settleEntries? entries).map map
  | tagged tag (plain s) => ofTagged? tag (plain s)
  | tagged tag (str s) => ofTagged? tag (str s)
  | tagged tag d => (settle? d).bind (ofTagged? tag)
  | endless => none
  | d => some d

def settleItems? : List Doc → Option (List Doc)
  | [] => some []
  | d :: rest => do return (← settle? d) :: (← settleItems? rest)

def settleEntries? : List (Doc × Doc) → Option (List (Doc × Doc))
  | [] => some []
  | (k, v) :: rest => do return (← settle? k, ← settle? v) :: (← settleEntries? rest)

end

/-! ## Records -/

/-- Fields of a record with their values. -/
abbrev Fields := List (String × Doc)

/-- The key of an entry of a record: the name of a field, or its place. -/
inductive Key where
  | name (s : String)
  | place (n : Nat)

/-- The key that a document is, if it is one. -/
def key? (d : Doc) : Option Key :=
  match d.untagged with
  | str s => some (.name s)
  | plain s => some (.name s)
  | int n => if 0 ≤ n then some (.place n.toNat) else none
  | _ => none

/-- Whether no field occurs twice. -/
def Fields.distinct : Fields → Bool
  | [] => true
  | (k, _) :: rest => (rest.lookup k).isNone && distinct rest

/-- The entries of a mapping that are fields of a record. -/
def fieldsOf? (names : List String) : List (Doc × Doc) → Option Fields
  | [] => some []
  | (k, v) :: rest => do
    let fields ← fieldsOf? names rest
    match ← key? k with
    | .name s => return if s ∈ names then (s, v) :: fields else fields
    | .place n => return match names[n]? with
      | some s => (s, v) :: fields
      | none => fields

/-- The fields of a record, which may be missing. -/
def record? (names : List String) (d : Doc) : Option Fields :=
  match d.untagged with
  | map entries => (fieldsOf? names entries).filter Fields.distinct
  | seq items => if items.length ≤ names.length then some (names.zip items) else none
  | plain "" => some []
  | _ => none

/-- Parts the entries of a mapping into fields of a record and others. -/
def splitEntries? (names : List String) :
    List (Doc × Doc) → Option (Fields × List (Doc × Doc))
  | [] => some ([], [])
  | (k, v) :: rest => do
    let (fields, others) ← splitEntries? names rest
    match ← key? k with
    | .name s =>
      return if s ∈ names then ((s, v) :: fields, others) else (fields, (str s, v) :: others)
    | .place n => return (fields, (int n, v) :: others)

/-- The fields of a record that shares its mapping with an inner record, and the entries
that are left for the inner one. -/
def openRecord? (names : List String) (d : Doc) : Option (Fields × List (Doc × Doc)) :=
  match d.untagged with
  | map entries => do
    let (fields, others) ← splitEntries? names entries
    if fields.distinct then return (fields, ← settleEntries? others) else none
  | plain "" => some ([], [])
  | _ => none

/-- The fields of an inner record among the entries that are left for it. -/
def innerFields? (names : List String) (others : List (Doc × Doc)) : Option Fields :=
  let fields : Fields := others.filterMap fun (k, v) =>
    match k with
    | str s => if s ∈ names then some (s, v) else none
    | _ => none
  if fields.distinct then some fields else none

namespace Fields

/-- A field that must be there. -/
def need (fs : Fields) (name : String) (decode : Doc → Option α) : Option α :=
  (fs.lookup name).bind decode

/-- A field with a value of its own if it is missing. -/
def get (fs : Fields) (name : String) (decode : Doc → Option α) (default : α) : Option α :=
  match fs.lookup name with
  | some d => decode d
  | none => some default

/-- A field that may be missing or stand for nothing. -/
def find (fs : Fields) (name : String) (decode : Doc → Option α) : Option (Option α) :=
  fs.get name (optional? decode) none

end Fields

/-! ## Writing -/

/-- Fields with the values of those that have one. -/
def written (fields : List (String × Option Doc)) : List (String × Doc) :=
  fields.filterMap fun (k, v) => v.map (k, ·)

/-- A record of the fields that have a value. -/
def record (fields : List (String × Option Doc)) : Doc := object (written fields)

/-- The value of a field that is left out when it has no use for it. -/
def leaveOut (leave : Bool) (d : Doc) : Option Doc := if leave then none else some d

/-- A text that is left out when empty. -/
def someText (s : String) : Option Doc := leaveOut (s = "") (str s)

def word (n : UInt64) : Doc := int n.toNat

/-- A number that is left out when zero. -/
def someWord (n : UInt64) : Option Doc := leaveOut (n = 0) (word n)

/-- A truth value that is left out when false. -/
def someTrue (b : Bool) : Option Doc := leaveOut (!b) (bool b)

def list (encode : α → Doc) (l : List α) : Doc := seq (l.map encode)

/-- A list that is left out when empty. -/
def someList (encode : α → Doc) (l : List α) : Option Doc := leaveOut l.isEmpty (list encode l)

def dict (encode : α → Doc) (d : Dict α) : Doc := object (d.entries.map fun (k, v) => (k, encode v))

/-- A map that is left out when empty. -/
def someDict (encode : α → Doc) (d : Dict α) : Option Doc := leaveOut d.isEmpty (dict encode d)

end ScrapeJobs.Doc
