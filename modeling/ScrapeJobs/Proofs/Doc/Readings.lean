import Mathlib.Data.List.Forall2
import ScrapeJobs.Doc.Decode
import ScrapeJobs.Proofs.Labels

/-!
# Readings of written documents

A written document comes back with its scalars plain wherever a plain scalar stands for the
same: `Doc.readsAs` relates a document to what may be read from its text. Decoders for values
and sequences of them do not tell a document from a reading of it (`Reads`), and where any value
may stand a reading becomes the written document again (`settle?_of_readsAs`).
-/

namespace ScrapeJobs

/-! ## Plain scalars -/

namespace Scalar

variable {s : String}

theorem isNull_of_ofText (h : ofText s ≠ .null) : isNull s = false := by
  refine Bool.eq_false_iff.mpr fun hnull => h ?_
  rw [ofText, if_pos hnull]

/-- What the kind of a plain scalar says about its text. -/
theorem ofText_cases (s : String) :
    ofText s = .null ∨ (∃ b, ofText s = .bool b ∧ bool? s = some b) ∨
      (∃ n : Nat, ofText s = .int n ∧ word? s = some n) ∨ (∃ n : Nat, ofText s = .int (-n)) ∨
      ofText s = .huge ∨ ofText s = .float ∨ ofText s = .text := by
  unfold ofText
  split
  · exact .inl rfl
  right
  cases hb : bool? s with
  | some b => exact .inl ⟨b, rfl, rfl⟩
  | none =>
    right
    simp only
    cases hn : nat? s.toList with
    | some n =>
      by_cases hlt : n < UInt64.size
      · refine .inl ⟨n, if_pos hlt, ?_⟩
        rw [word?, hn, Option.filter_some, decide_eq_true hlt, if_pos rfl]
      · refine .inr (.inr ?_)
        simp only [if_neg hlt]
        grind
    | none =>
      cases negative? s.toList with
      | some n =>
        by_cases hle : n ≤ UInt64.size / 2
        · exact .inr (.inl ⟨n, if_pos hle⟩)
        · refine .inr (.inr ?_)
          simp only [if_neg hle]
          grind
      | none =>
        refine .inr (.inr ?_)
        grind

theorem bool?_of_ofText {b : Bool} (h : ofText s = .bool b) : bool? s = some b := by
  rcases ofText_cases s with hs | ⟨c, hs, hc⟩ | ⟨n, hs, -⟩ | ⟨n, hs⟩ | hs | hs | hs
  all_goals cases h.symm.trans hs
  exact hc

/-- A plain number that is not zero is read as that number; a zero may have a sign. -/
theorem word?_of_ofText {n : Nat} (h : ofText s = .int n) (hn : n ≠ 0) : word? s = some n := by
  rcases ofText_cases s with hs | ⟨b, hs, -⟩ | ⟨m, hs, hm⟩ | ⟨m, hs⟩ | hs | hs | hs
  case inr.inr.inl =>
    have hnm : (n : Int) = m := Scalar.int.inj (h.symm.trans hs)
    rw [hm, Int.ofNat.inj hnm]
  case inr.inr.inr.inl =>
    have hnm : (n : Int) = -m := Scalar.int.inj (h.symm.trans hs)
    omega
  all_goals cases h.symm.trans hs

end Scalar

/-! ## Readings -/

namespace Doc

mutual

/-- Whether the second document is a reading of the first one: a plain scalar may stand for
what it would be read as. -/
def readsAs : Doc → Doc → Bool
  | null, null => true
  | null, plain s => Scalar.ofText s = .null
  | bool b, bool c => b = c
  | bool b, plain s => Scalar.ofText s = .bool b
  | int n, int m => n = m
  | int n, plain s => Scalar.ofText s = .int n
  | str s, str t => s = t
  | str s, plain t => s = t && Scalar.ofText t = .text
  | seq ds, seq es => readsItemsAs ds es
  | map ds, map es => readsEntriesAs ds es
  | _, _ => false

def readsItemsAs : List Doc → List Doc → Bool
  | [], [] => true
  | d :: ds, e :: es => readsAs d e && readsItemsAs ds es
  | _, _ => false

def readsEntriesAs : List (Doc × Doc) → List (Doc × Doc) → Bool
  | [], [] => true
  | (k, v) :: ds, (l, w) :: es => readsAs k l && readsAs v w && readsEntriesAs ds es
  | _, _ => false

end

/-- What is read is a reading of the document that was written. -/
def ReadsBack (d : Doc) (read : Option Doc) : Prop := ∃ e, read = some e ∧ d.readsAs e = true

instance (d : Doc) (read : Option Doc) : Decidable (d.ReadsBack read) :=
  decidable_of_iff (read.any d.readsAs = true) (by cases read <;> simp [ReadsBack])

variable {α : Type} {d e : Doc}

theorem readsAs_str_iff {s : String} :
    (str s).readsAs e = true ↔ e = str s ∨ e = plain s ∧ Scalar.ofText s = .text := by
  cases e <;> simp [readsAs]
  case str t => exact eq_comm
  case plain t =>
    constructor
    · rintro ⟨rfl, h⟩
      exact ⟨rfl, h⟩
    · rintro ⟨rfl, h⟩
      exact ⟨rfl, h⟩

theorem readsAs_null_iff :
    null.readsAs e = true ↔ e = null ∨ ∃ s, e = plain s ∧ Scalar.ofText s = .null := by
  cases e <;> simp [readsAs]

theorem readsAs_bool_iff {b : Bool} :
    (bool b).readsAs e = true ↔ e = bool b ∨ ∃ s, e = plain s ∧ Scalar.ofText s = .bool b := by
  cases e <;> simp [readsAs]
  case bool c => exact eq_comm

theorem readsAs_int_iff {n : Int} :
    (int n).readsAs e = true ↔ e = int n ∨ ∃ s, e = plain s ∧ Scalar.ofText s = .int n := by
  cases e <;> simp [readsAs]
  case int m => exact eq_comm

theorem readsAs_seq_iff {ds : List Doc} :
    (seq ds).readsAs e = true ↔ ∃ es, e = seq es ∧ readsItemsAs ds es = true := by
  cases e <;> simp [readsAs]

theorem readsAs_map_iff {ds : List (Doc × Doc)} :
    (map ds).readsAs e = true ↔ ∃ es, e = map es ∧ readsEntriesAs ds es = true := by
  cases e <;> simp [readsAs]

theorem readsItemsAs_iff {ds es : List Doc} :
    readsItemsAs ds es = true ↔ List.Forall₂ (fun d e => d.readsAs e = true) ds es := by
  induction ds generalizing es with
  | nil => cases es <;> simp [readsItemsAs]
  | cons d ds ih =>
    cases es with
    | nil => simp [readsItemsAs]
    | cons e es => simp [readsItemsAs, ih]

theorem readsEntriesAs_iff {ds es : List (Doc × Doc)} :
    readsEntriesAs ds es = true ↔
      List.Forall₂ (fun d e => d.1.readsAs e.1 = true ∧ d.2.readsAs e.2 = true) ds es := by
  induction ds generalizing es with
  | nil => cases es <;> simp [readsEntriesAs]
  | cons d ds ih =>
    obtain ⟨k, v⟩ := d
    cases es with
    | nil => simp [readsEntriesAs]
    | cons e es =>
      obtain ⟨l, w⟩ := e
      simp [readsEntriesAs, ih]

/-- The entries of a mapping with these fields. -/
def entries (fs : Fields) : List (Doc × Doc) := fs.map fun f => (str f.1, f.2)

theorem readsEntriesAs_entries_iff {fs : Fields} {es : List (Doc × Doc)} :
    readsEntriesAs (entries fs) es = true ↔
      List.Forall₂ (fun f e => (str f.1).readsAs e.1 = true ∧ f.2.readsAs e.2 = true) fs es := by
  rw [readsEntriesAs_iff, entries, List.forall₂_map_left_iff]

/-! ## What readings stand for -/

mutual

/-- Where any value may stand, a reading becomes the written document. -/
theorem settle?_of_readsAs : ∀ {d e : Doc}, d.readsAs e = true → settle? e = some d
  | null, e, h => by
    obtain rfl | ⟨s, rfl, hs⟩ := readsAs_null_iff.mp h
    · rfl
    · rw [settle?, ofPlain?, hs]
  | bool b, e, h => by
    obtain rfl | ⟨s, rfl, hs⟩ := readsAs_bool_iff.mp h
    · rfl
    · rw [settle?, ofPlain?, hs]
  | int n, e, h => by
    obtain rfl | ⟨s, rfl, hs⟩ := readsAs_int_iff.mp h
    · rfl
    · rw [settle?, ofPlain?, hs]
  | str s, e, h => by
    obtain rfl | ⟨rfl, hs⟩ := readsAs_str_iff.mp h
    · rfl
    · rw [settle?, ofPlain?, hs]
  | seq ds, e, h => by
    obtain ⟨es, rfl, h⟩ := readsAs_seq_iff.mp h
    rw [settle?, settleItems?_of_readsAs h, Option.map_some]
  | map ds, e, h => by
    obtain ⟨es, rfl, h⟩ := readsAs_map_iff.mp h
    rw [settle?, settleEntries?_of_readsAs h, Option.map_some]
  | float, e, h | plain s, e, h | tagged t d, e, h | endless, e, h => by
    cases e <;> simp [readsAs] at h

theorem settleItems?_of_readsAs :
    ∀ {ds es : List Doc}, readsItemsAs ds es = true → settleItems? es = some ds
  | [], [], _ => rfl
  | [], _ :: _, h => by simp [readsItemsAs] at h
  | _ :: _, [], h => by simp [readsItemsAs] at h
  | d :: ds, e :: es, h => by
    obtain ⟨hd, hds⟩ := Bool.and_eq_true_iff.mp h
    rw [settleItems?, settle?_of_readsAs hd, settleItems?_of_readsAs hds]
    rfl

theorem settleEntries?_of_readsAs :
    ∀ {ds es : List (Doc × Doc)}, readsEntriesAs ds es = true → settleEntries? es = some ds
  | [], [], _ => rfl
  | [], _ :: _, h => by simp [readsEntriesAs] at h
  | _ :: _, [], h => by simp [readsEntriesAs] at h
  | (k, v) :: ds, (l, w) :: es, h => by
    obtain ⟨h, hds⟩ := Bool.and_eq_true_iff.mp h
    obtain ⟨hk, hv⟩ := Bool.and_eq_true_iff.mp h
    rw [settleEntries?, settle?_of_readsAs hk, settle?_of_readsAs hv, settleEntries?_of_readsAs hds]
    rfl

end

/-! ## Settled documents -/

/-- A document without plain scalars, as encoders make them: it is a reading of itself. -/
def Settled (d : Doc) : Prop := d.readsAs d = true

@[simp] theorem settled_str (s : String) : (str s).Settled := readsAs_str_iff.mpr (.inl rfl)

@[simp] theorem settled_bool (b : Bool) : (bool b).Settled := readsAs_bool_iff.mpr (.inl rfl)

@[simp] theorem settled_word (n : UInt64) : (word n).Settled := readsAs_int_iff.mpr (.inl rfl)

theorem settled_seq_iff {ds : List Doc} : (seq ds).Settled ↔ ∀ d ∈ ds, d.Settled :=
  readsItemsAs_iff.trans List.forall₂_same

theorem settled_object_iff {fs : List (String × Doc)} :
    (object fs).Settled ↔ ∀ f ∈ fs, f.2.Settled := by
  refine readsEntriesAs_entries_iff.trans ?_
  rw [List.forall₂_map_right_iff, List.forall₂_same]
  exact forall₂_congr fun f _ => and_iff_right (settled_str f.1)

@[simp] theorem settled_list {encode : α → Doc} (h : ∀ a, (encode a).Settled) (l : List α) :
    (list encode l).Settled :=
  settled_seq_iff.mpr (List.forall_mem_map.mpr fun a _ => h a)

@[simp] theorem settled_dict {encode : α → Doc} (h : ∀ a, (encode a).Settled) (d : Dict α) :
    (dict encode d).Settled :=
  settled_object_iff.mpr (List.forall_mem_map.mpr fun a _ => h a.2)

/-! ## Decoders -/

theorem text?_of_readsAs {s : String} (h : (str s).readsAs e = true) : e.text? = some s := by
  obtain rfl | ⟨rfl, -⟩ := readsAs_str_iff.mp h <;> rfl

theorem choice?_of_readsAs {s : String} (h : (str s).readsAs e = true) : e.choice? = some s := by
  obtain rfl | ⟨rfl, -⟩ := readsAs_str_iff.mp h <;> rfl

theorem key?_of_readsAs {s : String} (h : (str s).readsAs e = true) :
    e.key? = some (.name s) := by
  obtain rfl | ⟨rfl, -⟩ := readsAs_str_iff.mp h <;> rfl

theorem bool?_of_readsAs {b : Bool} (h : (bool b).readsAs e = true) : e.bool? = some b := by
  obtain rfl | ⟨s, rfl, hs⟩ := readsAs_bool_iff.mp h
  · rfl
  · exact Scalar.bool?_of_ofText hs

theorem word?_of_int? {n : UInt64} (h : e.int? = some (n.toNat : Int)) : e.word? = some n := by
  have hrange : 0 ≤ (n.toNat : Int) ∧ (n.toNat : Int) < (UInt64.size : Int) :=
    ⟨Int.natCast_nonneg _, Int.ofNat_lt.mpr n.toNat_lt_size⟩
  have hword : e.word? = e.int?.bind fun n =>
    if 0 ≤ n ∧ n < UInt64.size then some (UInt64.ofNat n.toNat) else none := rfl
  rw [hword, h, Option.bind_some, if_pos hrange, Int.toNat_natCast, UInt64.ofNat_toNat]

theorem word?_of_readsAs {n : UInt64} (hn : n ≠ 0) (h : (word n).readsAs e = true) :
    e.word? = some n := by
  refine word?_of_int? ?_
  obtain rfl | ⟨s, rfl, hs⟩ := readsAs_int_iff.mp h
  · rfl
  · have hzero : n.toNat ≠ 0 := fun h0 => hn (UInt64.toNat_inj.mp h0)
    have hword := Scalar.word?_of_ofText hs hzero
    change (Scalar.word? s).map Int.ofNat = _
    rw [hword]
    rfl

/-- A value other than nothing is not read as nothing. -/
theorem optional?_of_readsAs (decode : Doc → Option α) (hd : d ≠ null)
    (h : d.readsAs e = true) : optional? decode e = (decode e).map some := by
  have hnull : e.isNull = false := by
    cases e with
    | null => cases d <;> simp [readsAs] at h hd
    | plain s =>
      refine Scalar.isNull_of_ofText fun hs => hd ?_
      have hsettle := settle?_of_readsAs h
      rw [settle?, ofPlain?, hs] at hsettle
      exact (Option.some.inj hsettle).symm
    | _ => rfl
  cases e with
  | tagged t e => cases d <;> simp [readsAs] at h
  | _ => rw [optional?, hnull, if_neg Bool.false_ne_true]; try nofun

/-- A decoder gives back the value of every reading of what was written. -/
def Reads (encode : α → Doc) (decode : Doc → Option α) : Prop :=
  ∀ a e, (encode a).readsAs e = true → decode e = some a

theorem reads_text : Reads str text? := fun _ _ h => text?_of_readsAs h

theorem reads_bool : Reads bool bool? := fun _ _ h => bool?_of_readsAs h

variable {encode : α → Doc} {decode : Doc → Option α}

theorem Reads.mapM (hreads : Reads encode decode) {l : List α} {es : List Doc}
    (h : List.Forall₂ (fun d e => d.readsAs e = true) (l.map encode) es) :
    es.mapM decode = some l := by
  induction l generalizing es with
  | nil =>
    cases h
    rfl
  | cons a l ih =>
    cases h with
    | cons ha hl =>
      rw [List.mapM_cons, hreads a _ ha, ih hl]
      rfl

theorem Reads.list (hreads : Reads encode decode) :
    Reads (list encode) (list? decode) := by
  intro l e h
  obtain ⟨es, rfl, h⟩ := readsAs_seq_iff.mp h
  exact hreads.mapM (readsItemsAs_iff.mp h)

/-- Entries are read one by one, each key and each value for itself. -/
theorem mapM_entries {fs : List (String × α)} {es : List (Doc × Doc)}
    (h : List.Forall₂ (fun f e => e.1.text? = some f.1 ∧ decode e.2 = some f.2) fs es) :
    es.mapM (fun (k, v) => do return (← k.text?, ← decode v)) = some fs := by
  induction h with
  | nil => rfl
  | cons hentry _ ih =>
    rw [List.mapM_cons, ih]
    simp only [hentry, Option.bind_eq_bind, Option.bind_some]
    rfl

theorem Reads.dict (hreads : Reads encode decode) :
    Reads (dict encode) (dict? decode) := by
  intro d e h
  obtain ⟨es, rfl, hes⟩ := readsAs_map_iff.mp h
  have hpairs : List.Forall₂ (fun f e => e.1.text? = some f.1 ∧ decode e.2 = some f.2)
      d.entries es :=
    (List.forall₂_map_left_iff.mp (readsEntriesAs_entries_iff.mp hes)).imp
      fun _ _ hf => ⟨text?_of_readsAs hf.1, hreads _ _ hf.2⟩
  change (es.mapM _ >>= fun l => some (Dict.ofList l)) = some d
  rw [mapM_entries hpairs, Option.bind_eq_bind, Option.bind_some, Dict.ofList_entries]

end Doc

end ScrapeJobs
