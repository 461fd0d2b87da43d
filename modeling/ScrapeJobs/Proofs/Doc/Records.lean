import Mathlib.Data.List.Nodup
import ScrapeJobs.Proofs.Doc.Readings

/-!
# Reading written records

A record is written as a table of fields, some of which have no value and are left out. What
is read of it are readings of the fields that were written (`record?_of_readsAs`). A record
that shares its mapping with an inner one leaves to that one just what was written for it
(`openRecord?_of_readsAs`, `innerFields?_of_settled`).

The values that are left out are those that a field has when it is missing: `Gives v decode
default a` says that a field written as `v` is read as `a`, be it there or not.
-/

namespace ScrapeJobs.Doc

variable {α : Type}

/-! ## Tables of fields -/

theorem map_fst_written_sublist (fields : List (String × Option Doc)) :
    ((written fields).map (·.1)).Sublist (fields.map (·.1)) := by
  induction fields with
  | nil => exact .slnil
  | cons e rest ih =>
    obtain ⟨k, v⟩ := e
    cases v with
    | none => exact ih.cons k
    | some d => exact ih.cons_cons k

theorem nodup_written {fields : List (String × Option Doc)} (h : (fields.map (·.1)).Nodup) :
    ((written fields).map (·.1)).Nodup :=
  (map_fst_written_sublist fields).nodup h

/-- A field is written with the value that the table has for it. -/
theorem lookup_written {fields : List (String × Option Doc)} (h : (fields.map (·.1)).Nodup)
    (k : String) : (written fields).lookup k = (fields.lookup k).join := by
  induction fields with
  | nil => rfl
  | cons e rest ih =>
    obtain ⟨key, v⟩ := e
    obtain ⟨hkey, hrest⟩ := List.nodup_cons.mp h
    have hskip : key ∉ (written rest).map (·.1) :=
      fun hmem => hkey ((map_fst_written_sublist rest).mem hmem)
    rw [Dict.lookup_cons_eq]
    cases v with
    | none =>
      have hwritten : written ((key, none) :: rest) = written rest := rfl
      rw [hwritten]
      by_cases hk : k = key
      · rw [if_pos hk, hk, Dict.lookup_eq_none_of_notMem hskip]
        rfl
      · rw [if_neg hk, ih hrest]
    | some d =>
      have hwritten : written ((key, some d) :: rest) = (key, d) :: written rest := rfl
      rw [hwritten, Dict.lookup_cons_eq]
      by_cases hk : k = key
      · rw [if_pos hk, if_pos hk]
        rfl
      · rw [if_neg hk, if_neg hk, ih hrest]

/-- The fields without those of some names. -/
def without (names : List String) (fields : Fields) : Fields := fields.filter (·.1 ∉ names)

theorem written_append (l m : List (String × Option Doc)) :
    written (l ++ m) = written l ++ written m :=
  List.filterMap_append

theorem without_append (names : List String) (l m : Fields) :
    without names (l ++ m) = without names l ++ without names m :=
  List.filter_append l m

theorem mem_map_fst_of_mem_written {fields : List (String × Option Doc)} {w : String × Doc}
    (hw : w ∈ written fields) : w.1 ∈ fields.map (·.1) :=
  (map_fst_written_sublist fields).mem (List.mem_map.mpr ⟨w, hw, rfl⟩)

theorem without_written_of_subset {names : List String} {fields : List (String × Option Doc)}
    (h : fields.map (·.1) ⊆ names) : without names (written fields) = [] := by
  refine List.filter_eq_nil_iff.mpr fun w hw => ?_
  simpa using h (mem_map_fst_of_mem_written hw)

theorem without_written_of_disjoint {names : List String} {fields : List (String × Option Doc)}
    (h : ∀ name ∈ fields.map (·.1), name ∉ names) :
    without names (written fields) = written fields := by
  refine List.filter_eq_self.mpr fun w hw => decide_eq_true ?_
  exact h w.1 (mem_map_fst_of_mem_written hw)

theorem distinct_of_nodup {fs : Fields} (h : (fs.map (·.1)).Nodup) : fs.distinct = true := by
  induction fs with
  | nil => rfl
  | cons e rest ih =>
    obtain ⟨k, d⟩ := e
    obtain ⟨hk, hrest⟩ := List.nodup_cons.mp h
    rw [Fields.distinct, Dict.lookup_eq_none_of_notMem hk, ih hrest]
    rfl

/-! ## Fields and their readings -/

namespace Fields

/-- The second fields are readings of the first ones. -/
def Read (ws fs : Fields) : Prop :=
  List.Forall₂ (fun w f => w.1 = f.1 ∧ w.2.readsAs f.2 = true) ws fs

variable {ws fs : Fields}

theorem Read.map_fst (h : Read ws fs) : ws.map (·.1) = fs.map (·.1) := by
  induction h with
  | nil => rfl
  | cons hf _ ih => rw [List.map_cons, List.map_cons, hf.1, ih]

theorem Read.lookup (h : Read ws fs) (name : String) :
    Option.Rel (fun d e => d.readsAs e = true) (ws.lookup name) (fs.lookup name) := by
  induction h with
  | nil => exact .none
  | cons hf _ ih =>
    rw [Dict.lookup_cons_eq, Dict.lookup_cons_eq, hf.1]
    split
    · exact .some hf.2
    · exact ih

theorem Read.distinct (h : Read ws fs) (hnodup : (ws.map (·.1)).Nodup) :
    fs.distinct = true :=
  distinct_of_nodup (h.map_fst ▸ hnodup)

end Fields

/-- Fields that are readings of a table, as far as some names go. -/
def Has (names : List String) (table : List (String × Option Doc)) (fs : Fields) : Prop :=
  ∀ name ∈ names,
    Option.Rel (fun d e => d.readsAs e = true) (table.lookup name).join (fs.lookup name)

theorem Fields.Read.has {names : List String} {table : List (String × Option Doc)} {fs : Fields}
    (hnodup : (table.map (·.1)).Nodup) (h : Fields.Read ((written table).filter (·.1 ∈ names)) fs) :
    Has names table fs := by
  intro name hname
  have hlookup := h.lookup name
  rwa [Dict.lookup_filter_key (fun k => decide (k ∈ names)), if_pos (decide_eq_true hname),
    lookup_written hnodup] at hlookup

/-! ## Records -/

theorem fieldsOf?_of_readsAs (names : List String) {ws : Fields} {es : List (Doc × Doc)}
    (h : readsEntriesAs (entries ws) es = true) :
    ∃ fs, fieldsOf? names es = some fs ∧ Fields.Read (ws.filter (·.1 ∈ names)) fs := by
  rw [readsEntriesAs_entries_iff] at h
  induction h with
  | nil => exact ⟨[], rfl, .nil⟩
  | @cons w e ws es hw _ ih =>
    obtain ⟨k, v⟩ := w
    obtain ⟨hk, hv⟩ := hw
    obtain ⟨fs, hfs, hread⟩ := ih
    rw [fieldsOf?, hfs, List.filter_cons]
    simp only [key?_of_readsAs hk, Option.bind_eq_bind, Option.bind_some, decide_eq_true_eq]
    split
    · exact ⟨_, rfl, .cons ⟨rfl, hv⟩ hread⟩
    · exact ⟨fs, rfl, hread⟩

theorem splitEntries?_of_readsAs (names : List String) {ws : Fields} {es : List (Doc × Doc)}
    (h : readsEntriesAs (entries ws) es = true) :
    ∃ fs others, splitEntries? names es = some (fs, others) ∧
      Fields.Read (ws.filter (·.1 ∈ names)) fs ∧
      readsEntriesAs (entries (without names ws)) others = true := by
  simp only [readsEntriesAs_entries_iff] at h ⊢
  induction h with
  | nil => exact ⟨[], [], rfl, .nil, .nil⟩
  | @cons w e ws es hw _ ih =>
    obtain ⟨k, v⟩ := w
    obtain ⟨hk, hv⟩ := hw
    obtain ⟨fs, others, hsplit, hread, hothers⟩ := ih
    rw [splitEntries?, hsplit, without, List.filter_cons, List.filter_cons]
    simp only [key?_of_readsAs hk, Option.bind_eq_bind, Option.bind_some]
    by_cases hmem : k ∈ names
    · rw [if_pos hmem, if_pos (decide_eq_true hmem), if_neg (by simpa using hmem)]
      exact ⟨_, _, rfl, .cons ⟨rfl, hv⟩ hread, hothers⟩
    · rw [if_neg hmem, if_neg (by simpa using hmem), if_pos (by simpa using hmem)]
      exact ⟨_, _, rfl, hread, .cons ⟨readsAs_str_iff.mpr (.inl rfl), hv⟩ hothers⟩

variable {names : List String} {table : List (String × Option Doc)} {e : Doc}

theorem record_ne_null (table : List (String × Option Doc)) : record table ≠ null := nofun

theorem nodup_filter_written (hnodup : (table.map (·.1)).Nodup) (p : String × Doc → Bool) :
    (((written table).filter p).map (·.1)).Nodup :=
  (List.filter_sublist.map _).nodup (nodup_written hnodup)

/-- A reading of a record has readings of its fields. -/
theorem record?_of_readsAs (names : List String) (hnodup : (table.map (·.1)).Nodup)
    (h : (record table).readsAs e = true) :
    ∃ fs, e.record? names = some fs ∧ Has names table fs := by
  obtain ⟨es, rfl, hes⟩ := readsAs_map_iff.mp h
  obtain ⟨fs, hfs, hread⟩ := fieldsOf?_of_readsAs names hes
  refine ⟨fs, ?_, hread.has hnodup⟩
  change (fieldsOf? names es).filter Fields.distinct = some fs
  rw [hfs, Option.filter_some, hread.distinct (nodup_filter_written hnodup _), if_pos rfl]

/-- A reading of an open record has readings of its own fields, and what was written of the
others. -/
theorem openRecord?_of_readsAs (names : List String) (hnodup : (table.map (·.1)).Nodup)
    (h : (record table).readsAs e = true) :
    ∃ fs, e.openRecord? names = some (fs, entries (without names (written table))) ∧
      Has names table fs := by
  obtain ⟨es, rfl, hes⟩ := readsAs_map_iff.mp h
  obtain ⟨fs, others, hsplit, hread, hothers⟩ := splitEntries?_of_readsAs names hes
  refine ⟨fs, ?_, hread.has hnodup⟩
  unfold openRecord?
  simp only [untagged, hsplit, Option.bind_eq_bind, Option.bind_some,
    hread.distinct (nodup_filter_written hnodup _), if_true, settleEntries?_of_readsAs hothers]
  rfl

theorem innerFields?_entries (names : List String) (fs : Fields) :
    innerFields? names (entries fs) =
      (some (fs.filter (·.1 ∈ names))).filter Fields.distinct := by
  have hfilter : ∀ g : Doc × Doc → Option (String × Doc),
      (∀ f : String × Doc, g (str f.1, f.2) = if f.1 ∈ names then some f else none) →
        (entries fs).filterMap g = fs.filter (·.1 ∈ names) := by
    -- for any such function, so that the one of the decoder need not be written out
    intro g hg
    rw [entries, List.filterMap_map]
    induction fs with
    | nil => rfl
    | cons f fs ih =>
      rw [List.filterMap_cons, List.filter_cons, Function.comp_apply, hg, ih]
      by_cases hf : f.1 ∈ names <;> simp [hf]
  unfold innerFields?
  rw [hfilter _ fun f => rfl]
  rfl

/-- The fields of an inner record are among what an outer one leaves. -/
theorem innerFields?_of_settled (own names : List String)
    (hown : ∀ name ∈ names, name ∉ own) (hnodup : (table.map (·.1)).Nodup)
    (h : (record table).Settled) :
    ∃ fs, innerFields? names (entries (without own (written table))) = some fs ∧
      Has names table fs := by
  have hfilter : (without own (written table)).filter (·.1 ∈ names) =
      (written table).filter (·.1 ∈ names) := by
    rw [without, List.filter_filter]
    refine List.filter_congr fun w _ => ?_
    by_cases hw : w.1 ∈ names
    · simp [hw, hown w.1 hw]
    · simp [hw]
  have hread : Fields.Read ((written table).filter (·.1 ∈ names))
      ((written table).filter (·.1 ∈ names)) :=
    List.forall₂_same.mpr fun w hw =>
      ⟨rfl, settled_object_iff.mp h w (List.mem_of_mem_filter hw)⟩
  refine ⟨_, ?_, hread.has hnodup⟩
  rw [innerFields?_entries, hfilter, Option.filter_some,
    hread.distinct (nodup_filter_written hnodup _), if_pos rfl]

/-! ## Settled records -/

/-- A value that is left out or settled. -/
def SettledValue (v : Option Doc) : Prop := ∀ d ∈ v, d.Settled

section

variable {encode : α → Doc}

@[simp] theorem settledValue_some {d : Doc} : SettledValue (some d) ↔ d.Settled := by
  simp [SettledValue]

@[simp] theorem settledValue_leaveOut {leave : Bool} {d : Doc} (h : d.Settled) :
    SettledValue (leaveOut leave d) := by
  cases leave with
  | true => nofun
  | false => exact settledValue_some.mpr h

@[simp] theorem settledValue_someText (s : String) : SettledValue (someText s) :=
  settledValue_leaveOut (settled_str s)

@[simp] theorem settledValue_someTrue (b : Bool) : SettledValue (someTrue b) :=
  settledValue_leaveOut (settled_bool b)

@[simp] theorem settledValue_someWord (n : UInt64) : SettledValue (someWord n) :=
  settledValue_leaveOut (settled_word n)

@[simp] theorem settledValue_someList (h : ∀ a, (encode a).Settled) (l : List α) :
    SettledValue (someList encode l) :=
  settledValue_leaveOut (settled_list h l)

@[simp] theorem settledValue_someDict (h : ∀ a, (encode a).Settled) (d : Dict α) :
    SettledValue (someDict encode d) :=
  settledValue_leaveOut (settled_dict h d)

@[simp] theorem settledValue_map (h : ∀ a, (encode a).Settled) (v : Option α) :
    SettledValue (v.map encode) := by
  cases v with
  | none => nofun
  | some a => exact settledValue_some.mpr (h a)

/-- The values of a table are left out or settled. -/
def SettledTable (table : List (String × Option Doc)) : Prop := ∀ f ∈ table, SettledValue f.2

@[simp] theorem settledTable_nil : SettledTable [] := nofun

@[simp] theorem settledTable_cons {f : String × Option Doc} :
    SettledTable (f :: table) ↔ SettledValue f.2 ∧ SettledTable table :=
  List.forall_mem_cons

@[simp] theorem settledTable_append {table' : List (String × Option Doc)} :
    SettledTable (table ++ table') ↔ SettledTable table ∧ SettledTable table' :=
  List.forall_mem_append

@[simp] theorem settled_record : (record table).Settled ↔ SettledTable table := by
  rw [record, settled_object_iff]
  simp only [written, List.mem_filterMap, Option.map_eq_some_iff, SettledTable, SettledValue]
  constructor
  · intro h f hf d hd
    exact h (f.1, d) ⟨f, hf, d, hd, rfl⟩
  · rintro h - ⟨f, hf, d, hd, rfl⟩
    exact h f hf d hd

end

/-! ## Values that are left out -/

/-- A field written as a value, or left out without one, is read as `a`. -/
def Gives (v : Option Doc) (decode : Doc → Option α) (default a : α) : Prop :=
  v.elim (default = a) fun d => ∀ e, d.readsAs e = true → decode e = some a

/-- Reading goes on with what has been read. -/
theorem bind_read {β : Type} {x : Option α} {a : α} (h : x = some a) (f : α → Option β) :
    x >>= f = f a := by
  rw [h]
  rfl

theorem get_of_rel {fs : Fields} {name : String} {v : Option Doc} {decode : Doc → Option α}
    {default a : α} (h : Option.Rel (fun d e => d.readsAs e = true) v (fs.lookup name))
    (hgives : Gives v decode default a) : fs.get name decode default = some a := by
  unfold Fields.get
  generalize fs.lookup name = w at h
  cases h with
  | none => exact congrArg some hgives
  | some hde => exact hgives _ hde

/-- What is read of a field of a table. -/
theorem Has.get {fs : Fields} (h : Has names table fs) (name : String) {v : Option Doc}
    {decode : Doc → Option α} {default a : α} (hgives : Gives v decode default a)
    (hname : name ∈ names := by decide) (hv : table.lookup name = some v := by rfl) :
    fs.get name decode default = some a := by
  have hrel := h name hname
  rw [hv, Option.join_some] at hrel
  exact get_of_rel hrel hgives

/-- What is read of a field that is always there. -/
theorem Has.need {fs : Fields} (h : Has names table fs) (name : String) {d : Doc}
    {decode : Doc → Option α} {a : α} (hreads : ∀ e, d.readsAs e = true → decode e = some a)
    (hname : name ∈ names := by decide) (hd : table.lookup name = some (some d) := by rfl) :
    fs.need name decode = some a := by
  have hrel := h name hname
  rw [hd, Option.join_some] at hrel
  unfold Fields.need
  generalize fs.lookup name = w at hrel
  cases hrel with
  | some hde => exact hreads _ hde

variable {encode : α → Doc} {decode : Doc → Option α} {default a : α}

theorem Reads.gives (h : Reads encode decode) (a default : α) :
    Gives (some (encode a)) decode default a :=
  h a

theorem Reads.gives_leaveOut (h : Reads encode decode) {leave : Bool}
    (hleave : leave = true → default = a) : Gives (leaveOut leave (encode a)) decode default a := by
  cases leave with
  | true => exact hleave rfl
  | false => exact h a

theorem gives_someText (s : String) : Gives (someText s) text? "" s :=
  reads_text.gives_leaveOut fun h => (of_decide_eq_true h).symm

theorem gives_someTrue (b : Bool) : Gives (someTrue b) bool? false b :=
  reads_bool.gives_leaveOut fun h => by simpa using h

theorem gives_someWord (n : UInt64) : Gives (someWord n) word? 0 n := by
  unfold someWord leaveOut
  by_cases hn : n = 0
  · rw [if_pos (decide_eq_true hn)]
    exact hn.symm
  · rw [if_neg (by simpa using hn)]
    exact fun e he => word?_of_readsAs hn he

theorem Reads.gives_someList (h : Reads encode decode) (l : List α) :
    Gives (someList encode l) (list? decode) [] l :=
  h.list.gives_leaveOut fun hl => (List.isEmpty_iff.mp hl).symm

theorem Reads.gives_someDict (h : Reads encode decode) (d : Dict α) :
    Gives (someDict encode d) (dict? decode) ∅ d := by
  refine h.dict.gives_leaveOut fun hd => ?_
  have hentries : d.entries = [] := List.isEmpty_iff.mp hd
  refine Dict.ext_get? fun k => ?_
  rw [Dict.get?_empty, Dict.get?, hentries, List.lookup_nil]

/-- A value that may be missing, written by an encoder that never writes nothing. -/
theorem Reads.gives_map (h : Reads encode decode) (hnull : ∀ a, encode a ≠ null) (v : Option α) :
    Gives (v.map encode) (optional? decode) none v := by
  cases v with
  | none => rfl
  | some a =>
    intro e he
    rw [optional?_of_readsAs decode (hnull a) he, h a e he, Option.map_some]

/-- What is read of a field that may be missing or stand for nothing. -/
theorem Has.find {fs : Fields} (has : Has names table fs) (name : String)
    (h : Reads encode decode) (v : Option α) (hnull : ∀ a, encode a ≠ null := by nofun)
    (hname : name ∈ names := by decide) (hv : table.lookup name = some (v.map encode) := by rfl) :
    fs.find name decode = some v :=
  has.get name (h.gives_map hnull v) hname hv

end ScrapeJobs.Doc
