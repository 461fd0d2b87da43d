import ScrapeJobs.Proofs.Doc.Json
import ScrapeJobs.Proofs.Doc.Records

/-!
# Reading records as they were written

A text with typed literals leaves nothing open, so a decoder has only to give back the value of
the document that was written. `Keeps table fs` says that fields have just the values of a table; a
field is then read as the value it was written for, or as the usual one if it was left out
(`Keeps.get`, `Keeps.need`, `Keeps.find`).
-/

namespace ScrapeJobs.Doc

variable {α : Type} {n : Nat} {d : Doc} {names : List String} {table : List (String × Option Doc)}
  {fs : Fields} {encode : α → Doc} {decode : Doc → Option α} {default a : α}

/-! ## Values -/

@[simp] theorem isJson_str (s : String) : IsJson n (str s) := .str s

@[simp] theorem isJson_bool (b : Bool) : IsJson n (bool b) := .bool b

@[simp] theorem isJson_word (k : UInt64) : IsJson n (word k) :=
  .int (by omega) (Int.ofNat_lt.mpr k.toNat_lt_size)

@[simp] theorem isJson_int64 (k : Int64) : IsJson n (int k.toInt) :=
  .int k.le_toInt (Int.lt_trans k.toInt_lt (by decide))

@[simp] theorem isJson_int32 (k : Int32) : IsJson n (int k.toInt) :=
  .int (Int.le_trans (by decide) k.le_toInt) (Int.lt_trans k.toInt_lt (by decide))

@[simp] theorem isJson_list (h : ∀ a, IsJson n (encode a)) (l : List α) :
    IsJson (n + 1) (list encode l) :=
  .seq (List.forall_mem_map.mpr fun a _ => h a)

@[simp] theorem isJson_dict (h : ∀ a, IsJson n (encode a)) (d : Dict α) :
    IsJson (n + 1) (dict encode d) := by
  refine .object ?_ (List.forall_mem_map.mpr fun e _ => h e.2)
  rw [List.map_map]
  exact d.nodup_keys

theorem text?_str (s : String) : text? (str s) = some s := rfl

theorem bool?_bool (b : Bool) : bool? (bool b) = some b := rfl

theorem word?_word (k : UInt64) : word? (word k) = some k := word?_of_int? rfl

theorem int64?_int (k : Int64) : int64? (int k.toInt) = some k := by
  change (if _ then some (Int64.ofInt k.toInt) else none) = some k
  rw [if_pos ⟨k.minValue_le_toInt, k.toInt_le⟩, Int64.ofInt_toInt]

theorem int32?_int (k : Int32) : int32? (int k.toInt) = some k := by
  change (if _ then some (Int32.ofInt k.toInt) else none) = some k
  rw [if_pos ⟨k.minValue_le_toInt, k.toInt_le⟩, Int32.ofInt_toInt]

theorem list?_list {l : List α} (h : ∀ a ∈ l, decode (encode a) = some a) :
    list? decode (list encode l) = some l := by
  change (l.map encode).mapM decode = some l
  induction l with
  | nil => rfl
  | cons a l ih =>
    obtain ⟨ha, hl⟩ := List.forall_mem_cons.mp h
    rw [List.map_cons, List.mapM_cons, ha, ih hl]
    rfl

theorem dict?_dict (h : ∀ a, decode (encode a) = some a) (d : Dict α) :
    dict? decode (dict encode d) = some d := by
  change (List.mapM _ _ >>= fun l => some (Dict.ofList l)) = some d
  rw [mapM_entries (List.forall₂_map_right_iff.mpr (List.forall₂_map_right_iff.mpr
    (List.forall₂_same.mpr fun f _ => ⟨text?_str f.1, h f.2⟩))), Option.bind_eq_bind,
    Option.bind_some, Dict.ofList_entries]

/-! ## Values that are left out -/

theorem elim_leaveOut {leave : Bool} (hleave : leave = true → default = a)
    (h : decode d = some a) : (leaveOut leave d).elim (some default) decode = some a := by
  cases leave with
  | true => exact congrArg some (hleave rfl)
  | false => exact h

theorem elim_someList {l : List α} (h : ∀ a ∈ l, decode (encode a) = some a) :
    (someList encode l).elim (some []) (list? decode) = some l :=
  elim_leaveOut (fun hl => (List.isEmpty_iff.mp hl).symm) (list?_list h)

theorem elim_someDict (h : ∀ a, decode (encode a) = some a) (d : Dict α) :
    (someDict encode d).elim (some ∅) (dict? decode) = some d := by
  refine elim_leaveOut (fun hd => ?_) (dict?_dict h d)
  have hentries : d.entries = [] := List.isEmpty_iff.mp hd
  refine Dict.ext_get? fun k => ?_
  rw [Dict.get?_empty, Dict.get?, hentries, List.lookup_nil]

/-- A value that is left out or can be written as JSON. -/
def IsJsonValue (n : Nat) (v : Option Doc) : Prop := ∀ d ∈ v, IsJson n d

@[simp] theorem isJsonValue_some : IsJsonValue n (some d) ↔ IsJson n d := by
  simp [IsJsonValue]

@[simp] theorem isJsonValue_map (h : ∀ a, IsJson n (encode a)) (v : Option α) :
    IsJsonValue n (v.map encode) := by
  cases v with
  | none => nofun
  | some a => exact isJsonValue_some.mpr (h a)

theorem isJsonValue_leaveOut (leave : Bool) (h : IsJson n d) :
    IsJsonValue n (leaveOut leave d) := by
  cases leave with
  | true => nofun
  | false => exact isJsonValue_some.mpr h

@[simp] theorem isJsonValue_someList (h : ∀ a, IsJson n (encode a)) (l : List α) :
    IsJsonValue (n + 1) (someList encode l) :=
  isJsonValue_leaveOut _ (isJson_list h l)

@[simp] theorem isJsonValue_someDict (h : ∀ a, IsJson n (encode a)) (d : Dict α) :
    IsJsonValue (n + 1) (someDict encode d) :=
  isJsonValue_leaveOut _ (isJson_dict h d)

/-! ## Tables -/

/-- The values of a table are left out or can be written as JSON. -/
def IsJsonTable (n : Nat) (table : List (String × Option Doc)) : Prop :=
  ∀ f ∈ table, IsJsonValue n f.2

@[simp] theorem isJsonTable_nil : IsJsonTable n [] := nofun

@[simp] theorem isJsonTable_cons {f : String × Option Doc} :
    IsJsonTable n (f :: table) ↔ IsJsonValue n f.2 ∧ IsJsonTable n table :=
  List.forall_mem_cons

theorem isJson_record (hnodup : (table.map (·.1)).Nodup) (h : IsJsonTable n table) :
    IsJson (n + 1) (record table) := by
  refine .object (nodup_written hnodup) fun w hw => ?_
  obtain ⟨f, hf, hv⟩ := List.mem_filterMap.mp hw
  obtain ⟨d, hd, rfl⟩ := Option.map_eq_some_iff.mp hv
  exact h f hf d hd

/-! ## Fields -/

/-- The fields have the values of a table. -/
def Keeps (table : List (String × Option Doc)) (fs : Fields) : Prop :=
  ∀ name v, table.lookup name = some v → fs.lookup name = v

theorem keeps_written (hnodup : (table.map (·.1)).Nodup) : Keeps table (written table) := by
  intro name v hv
  rw [lookup_written hnodup, hv, Option.join_some]

theorem distinct_written (hnodup : (table.map (·.1)).Nodup) :
    Fields.distinct (written table) = true :=
  distinct_of_nodup (nodup_written hnodup)

theorem filter_written_of_subset (h : table.map (·.1) ⊆ names) :
    (written table).filter (·.1 ∈ names) = written table :=
  List.filter_eq_self.mpr fun _ hw => decide_eq_true (h (mem_map_fst_of_mem_written hw))

theorem filter_written_of_disjoint (h : ∀ name ∈ table.map (·.1), name ∉ names) :
    (written table).filter (·.1 ∈ names) = [] := by
  refine List.filter_eq_nil_iff.mpr fun w hw => ?_
  simpa using h w.1 (mem_map_fst_of_mem_written hw)

theorem fieldsOf?_entries (names : List String) (fs : Fields) :
    fieldsOf? names (entries fs) = some (fs.filter (·.1 ∈ names)) := by
  induction fs with
  | nil => rfl
  | cons f fs ih =>
    rw [entries, List.map_cons, fieldsOf?, List.filter_cons, ← entries, ih]
    by_cases hf : f.1 ∈ names <;> simp [key?, untagged, hf]

theorem splitEntries?_entries (names : List String) (fs : Fields) :
    splitEntries? names (entries fs) =
      some (fs.filter (·.1 ∈ names), entries (without names fs)) := by
  induction fs with
  | nil => rfl
  | cons f fs ih =>
    rw [entries, List.map_cons, splitEntries?, ← entries, ih]
    by_cases hf : f.1 ∈ names <;> simp [key?, untagged, hf, entries, without]

/-- A record is read as its fields as they were written, whatever else was. -/
theorem record?_of_append (names : List String) {others own : List (String × Option Doc)}
    (hd : d = record (others ++ own)) (hown : own.map (·.1) = names)
    (hnodup : ((others ++ own).map (·.1)).Nodup) :
    ∃ fs, d.record? names = some fs ∧ Keeps own fs := by
  subst hd hown
  rw [List.map_append, List.nodup_append'] at hnodup
  obtain ⟨-, hnodup, hapart⟩ := hnodup
  have hfields : (written (others ++ own)).filter (·.1 ∈ own.map (·.1)) = written own := by
    rw [written_append, List.filter_append, filter_written_of_disjoint fun _ ho hr => hapart ho hr,
      filter_written_of_subset (List.Subset.refl _), List.nil_append]
  refine ⟨_, ?_, keeps_written hnodup⟩
  change (fieldsOf? _ (entries (written (others ++ own)))).filter Fields.distinct = _
  rw [fieldsOf?_entries, hfields, Option.filter_some, distinct_written hnodup, if_pos rfl]

theorem record?_of_eq (names : List String) (hd : d = record table)
    (hnames : table.map (·.1) = names) (hnodup : names.Nodup) :
    ∃ fs, d.record? names = some fs ∧ Keeps table fs := by
  have hnil : d = record ([] ++ table) := hd
  exact record?_of_append names hnil hnames (hnames.symm ▸ hnodup)

/-- An open record is read as its own fields, and the others are left as they were written. -/
theorem openRecord?_of_eq (names : List String) {own rest : List (String × Option Doc)}
    (hd : d = record (own ++ rest)) (hown : own.map (·.1) = names) (hjson : IsJson n d)
    (hnodup : ((own ++ rest).map (·.1)).Nodup) :
    ∃ fs, d.openRecord? names = some (fs, entries (written rest)) ∧ Keeps own fs := by
  subst hd hown
  rw [List.map_append, List.nodup_append'] at hnodup
  obtain ⟨hnodup, -, hapart⟩ := hnodup
  have hrest : ∀ name ∈ rest.map (·.1), name ∉ own.map (·.1) := fun _ hr ho => hapart ho hr
  have hfields : (written (own ++ rest)).filter (·.1 ∈ own.map (·.1)) = written own := by
    rw [written_append, List.filter_append, filter_written_of_subset (List.Subset.refl _),
      filter_written_of_disjoint hrest, List.append_nil]
  have hothers : without (own.map (·.1)) (written (own ++ rest)) = written rest := by
    rw [written_append, without_append, without_written_of_subset (List.Subset.refl _),
      without_written_of_disjoint hrest, List.nil_append]
  have hsettled : (object (written rest)).Settled := by
    refine settled_object_iff.mpr fun f hf => settled_object_iff.mp hjson.settled f ?_
    rw [written_append]
    exact List.mem_append_right _ hf
  have hread : settleEntries? (entries (written rest)) = some (entries (written rest)) :=
    settleEntries?_of_readsAs hsettled
  refine ⟨_, ?_, keeps_written hnodup⟩
  have hmap : record (own ++ rest) = map (entries (written (own ++ rest))) := rfl
  rw [hmap]
  unfold openRecord?
  simp only [untagged, splitEntries?_entries, hfields, hothers, distinct_written hnodup, if_true,
    hread, Option.bind_eq_bind, Option.bind_some]
  rfl

/-- An inner record is read from what an outer one leaves. -/
theorem innerFields?_of_eq (names : List String) (hnames : table.map (·.1) = names)
    (hnodup : names.Nodup) :
    ∃ fs, innerFields? names (entries (written table)) = some fs ∧ Keeps table fs := by
  subst hnames
  refine ⟨_, ?_, keeps_written hnodup⟩
  rw [innerFields?_entries, filter_written_of_subset (List.Subset.refl _), Option.filter_some,
    distinct_written hnodup, if_pos rfl]

namespace Keeps

theorem get (h : Keeps table fs) (name : String) {v : Option Doc}
    (hv : table.lookup name = some v) (hread : v.elim (some default) decode = some a) :
    fs.get name decode default = some a := by
  rw [Fields.get, h name v hv, ← hread]
  cases v <;> rfl

/-- A field that is never left out, though it may be missing. -/
theorem get_some (h : Keeps table fs) (name : String) (hd : table.lookup name = some (some d))
    (hread : decode d = some a) : fs.get name decode default = some a :=
  h.get name hd (show (some d).elim (some default) decode = some a from hread)

theorem need (h : Keeps table fs) (name : String) (hd : table.lookup name = some (some d))
    (hread : decode d = some a) : fs.need name decode = some a := by
  rw [Fields.need, h name (some d) hd, Option.bind_some, hread]

/-- A field that may stand for nothing, written by an encoder that never writes nothing. -/
theorem find (h : Keeps table fs) (name : String) {v : Option α}
    (hv : table.lookup name = some (v.map encode)) (hread : ∀ a ∈ v, decode (encode a) = some a)
    (hvalue : ∀ a, optional? decode (encode a) = (decode (encode a)).map some) :
    fs.find name decode = some v := by
  refine h.get name hv ?_
  cases v with
  | none => rfl
  | some a => exact (hvalue a).trans (congrArg (Option.map some) (hread a rfl))

theorem find_text (h : Keeps table fs) (name : String) {v : Option String}
    (hv : table.lookup name = some (v.map str)) : fs.find name text? = some v :=
  h.find name hv (fun s _ => text?_str s) fun _ => rfl

end Keeps

end ScrapeJobs.Doc
