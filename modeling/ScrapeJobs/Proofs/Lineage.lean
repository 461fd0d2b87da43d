import Mathlib.Data.List.Pairwise
import Mathlib.Data.String.Basic
import ScrapeJobs.Proofs.Relabel.Generated
import ScrapeJobs.Proofs.Relabel.Texts

/-!
# Which controller is inferred

`Infers` says which controller stands above what owns a pod, from the kind and the name of the
owner and the template hash of the pod. What each step of inference finds can be said of these
three texts alone, if they have no semicolon (`found?_owner`, `found?_deployment_iff`,
`found?_cronJob_iff`). The rules of a step record what it finds over what was recorded before
(`pass_rules_step`), so that all of them leave what the last step that matches has found
(`pass_rules`), in the labels that were asked for.
-/

namespace ScrapeJobs.Lineage

open Label Labels Relabel

/-! ## The controller above an owner -/

/-- The eight digits that a cron job puts behind its name. -/
def IsTime (cs : List Char) : Prop := cs.length = 8 ∧ ∀ c ∈ cs, c.isDigit = true

/-- The letters and digits that a deployment puts behind its name. -/
def IsRevision (cs : List Char) : Prop :=
  cs ≠ [] ∧ ∀ c ∈ cs, c.isLower = true ∨ c.isDigit = true

instance : DecidablePred IsTime := fun cs =>
  decidable_of_iff (cs.length = 8 ∧ cs.all Char.isDigit = true) (by simp [IsTime])

instance : DecidablePred IsRevision := fun cs =>
  decidable_of_iff (cs ≠ [] ∧ cs.all (fun c => c.isLower || c.isDigit) = true)
    (by simp [IsRevision])

/-- The name is made from a base by a dash and a suffix of some form. -/
def HasBase (IsSuffix : List Char → Prop) (name base : String) : Prop :=
  base ≠ "" ∧ ∃ suffix, name.toList = base.toList ++ '-' :: suffix ∧ IsSuffix suffix

/-- The controller above an owner of this kind and name, whose pods have this template hash. -/
inductive Infers (kind name hash : String) : Lineage → Prop
  | cronJob {base : String} (hkind : kind = "Job") (hname : HasBase IsTime name base) :
      Infers kind name hash ⟨some base, some "CronJob"⟩
  | deployment {base : String} (hkind : kind = "ReplicaSet") (hhash : hash ≠ "")
      (hname : HasBase IsRevision name base) : Infers kind name hash ⟨some base, some "Deployment"⟩
  | owner (hjob : kind = "Job" → ∀ base, ¬ HasBase IsTime name base)
      (hset : kind = "ReplicaSet" → hash ≠ "" → ∀ base, ¬ HasBase IsRevision name base)
      (hkind : kind ≠ "") (hname : name ≠ "") : Infers kind name hash ⟨some name, some kind⟩
  | nothing (h : kind = "" ∨ name = "") : Infers kind name hash ⟨none, none⟩

/-- The template hash among the labels of a pod: the value of the greatest key that is taken for
the one of it. -/
def templateHashOf (podLabels : Dict String) : String :=
  ((podLabels.keys.filter (sanitize · = "pod_template_hash")).max?.bind podLabels.get?).getD ""

variable {kind name hash base type : String} {ls : Labels} {s : Step} {l : Lineage}

/-! ## Bases of names -/

theorem append_dash_inj {x y u v : List Char} (hu : '-' ∉ u) (hv : '-' ∉ v)
    (h : x ++ '-' :: u = y ++ '-' :: v) : x = y ∧ u = v := by
  simp only [List.append_eq_append_iff, List.cons_eq_append_iff, List.cons_eq_cons] at h
  rcases h with ⟨c, rfl, ⟨rfl, -, rfl⟩ | ⟨d, rfl, rfl⟩⟩ | ⟨c, rfl, ⟨rfl, -, rfl⟩ | ⟨d, rfl, rfl⟩⟩
  all_goals simp_all

theorem IsTime.dash_not_mem {cs : List Char} (h : IsTime cs) : '-' ∉ cs :=
  fun hmem => absurd (h.2 _ hmem) (by decide)

theorem IsRevision.dash_not_mem {cs : List Char} (h : IsRevision cs) : '-' ∉ cs :=
  fun hmem => absurd (h.2 _ hmem) (by decide)

variable {IsSuffix : List Char → Prop}

/-- The base ends at the last dash. -/
theorem HasBase.unique (hdash : ∀ cs, IsSuffix cs → '-' ∉ cs) {base' : String}
    (h : HasBase IsSuffix name base) (h' : HasBase IsSuffix name base') : base = base' := by
  obtain ⟨-, suffix, hname, hsuffix⟩ := h
  obtain ⟨-, suffix', hname', hsuffix'⟩ := h'
  rw [hname] at hname'
  exact String.toList_inj.mp (append_dash_inj (hdash _ hsuffix) (hdash _ hsuffix') hname').1

theorem HasBase.ne_empty (h : HasBase IsSuffix name base) : name ≠ "" := by
  obtain ⟨-, suffix, hname, -⟩ := h
  rintro rfl
  exact List.append_ne_nil_of_right_ne_nil _ (List.cons_ne_nil _ _) hname.symm

theorem Infers.ne_empty (h : Infers kind name hash l) : l.name ≠ some "" ∧ l.type ≠ some "" := by
  cases h with
  | cronJob hkind hname =>
    exact ⟨fun h => hname.1 (Option.some.inj h), fun h => absurd (Option.some.inj h) (by decide)⟩
  | deployment hkind hhash hname =>
    exact ⟨fun h => hname.1 (Option.some.inj h), fun h => absurd (Option.some.inj h) (by decide)⟩
  | owner hjob hset hkind hname =>
    exact ⟨fun h => hname (Option.some.inj h), fun h => hkind (Option.some.inj h)⟩
  | nothing h => exact ⟨nofun, nofun⟩

/-- There is one controller at most above an owner. -/
theorem Infers.unique {l' : Lineage} (h : Infers kind name hash l) (h' : Infers kind name hash l') :
    l = l' := by
  have hjobs : ∀ {x y}, HasBase IsTime name x → HasBase IsTime name y → x = y :=
    fun hx hy => hx.unique (fun _ => IsTime.dash_not_mem) hy
  have hsets : ∀ {x y}, HasBase IsRevision name x → HasBase IsRevision name y → x = y :=
    fun hx hy => hx.unique (fun _ => IsRevision.dash_not_mem) hy
  cases h with
  | cronJob hkind hname =>
    subst hkind
    cases h' with
    | cronJob _ hname' => rw [hjobs hname hname']
    | deployment hkind' => exact absurd hkind' (by decide)
    | owner hjob => exact absurd hname (hjob rfl _)
    | nothing h => exact absurd hname.ne_empty (by simpa using h)
  | deployment hkind hhash hname =>
    subst hkind
    cases h' with
    | cronJob hkind' => exact absurd hkind' (by decide)
    | deployment _ _ hname' => rw [hsets hname hname']
    | owner _ hset => exact absurd hname (hset rfl hhash _)
    | nothing h => exact absurd hname.ne_empty (by simpa using h)
  | owner hjob hset hkind hname =>
    cases h' with
    | cronJob hkind' hname' => exact absurd hname' (hjob hkind' _)
    | deployment hkind' hhash hname' => exact absurd hname' (hset hkind' hhash _)
    | owner => rfl
    | nothing h => exact absurd h (not_or.mpr ⟨hkind, hname⟩)
  | nothing h =>
    cases h' with
    | cronJob hkind' hname' =>
      subst hkind'
      exact absurd hname'.ne_empty (by simpa using h)
    | deployment hkind' _ hname' =>
      subst hkind'
      exact absurd hname'.ne_empty (by simpa using h)
    | owner _ _ hkind hname => exact absurd h (not_or.mpr ⟨hkind, hname⟩)
    | nothing => rfl

/-! ## What a step records -/

/-- What was found, as a controller. -/
def ofFound (found : Option (String × String)) : Lineage := ⟨found.map (·.1), found.map (·.2)⟩

/-- What the pattern of a step captures of the labels that it reads. -/
def Step.captures? (s : Step) (ls : Labels) : Option Regex.Captures :=
  (Regex.anchored? s.regex).bind (·.captures? (s.nameRule.source ls))

/-- What a step finds in a label set: the name and the type of a controller. -/
def Step.found? (s : Step) (ls : Labels) : Option (String × String) :=
  (s.captures? ls).map fun c => (c.expand s.name, c.expand s.type)

/-- The rules of a step. -/
def Step.rules (s : Step) (withName withType : Bool) : List Rule :=
  (if withName then [s.nameRule] else []) ++ (if withType then [s.typeRule] else [])

/-- Writes a value to a label, if there is one. -/
def write (label : String) (value : Option String) (ls : Labels) : Labels :=
  value.elim ls (ls.set label)

/-- Writes what was found to the labels that are asked for. -/
def record (withName withType : Bool) (found : Option (String × String)) (ls : Labels) : Labels :=
  write controllerType (if withType then found.map (·.2) else none)
    (write controllerName (if withName then found.map (·.1) else none) ls)

variable {withName withType : Bool} {found : Option (String × String)} {label : String}
  {value : Option String}

theorem get?_write_ne (h : label ≠ name) (value : Option String) (ls : Labels) :
    (write name value ls).get? label = ls.get? label := by
  cases value with
  | none => rfl
  | some v => exact get?_set_ne h ls v

theorem get?_write_self (h : value ≠ some "") (ls : Labels) :
    (write label value ls).get? label = value.or (ls.get? label) := by
  cases value with
  | none => rfl
  | some v =>
    have hv : v ≠ "" := fun hempty => h (congrArg some hempty)
    rw [write, Option.elim_some, get?_set_self, if_neg hv, Option.some_or]

theorem write_write (label : String) (value value' : Option String) (ls : Labels) :
    write label value' (write label value ls) = write label (value'.or value) ls := by
  cases value' with
  | none => rfl
  | some v' =>
    cases value with
    | none => rfl
    | some v => exact set_set ls label v v'

theorem write_comm {other : String} (h : label ≠ other) (value value' : Option String)
    (ls : Labels) :
    write other value' (write label value ls) = write label value (write other value' ls) := by
  cases value with
  | none => rfl
  | some v =>
    cases value' with
    | none => rfl
    | some v' => exact set_comm ls h v v'

/-- What is recorded last counts. -/
theorem record_record (found found' : Option (String × String)) (ls : Labels) :
    record withName withType found' (record withName withType found ls) =
      record withName withType (found'.or found) ls := by
  have hasked : ∀ (asked : Bool) (f : String × String → String),
      ((if asked then found'.map f else none).or (if asked then found.map f else none)) =
        if asked then (found'.or found).map f else none := by
    intro asked f
    cases asked with
    | false => rfl
    | true => exact Option.map_or.symm
  rw [record, record, record, write_comm (by decide : controllerType ≠ controllerName), write_write,
    write_write, hasked, hasked]

theorem get?_record (hname : label ≠ controllerName) (htype : label ≠ controllerType) :
    (record withName withType found ls).get? label = ls.get? label := by
  rw [record, get?_write_ne htype, get?_write_ne hname]

/-- What a step captures depends on the labels that it reads only, and no step reads what the steps
write. -/
theorem captures?_write (hs : s ∈ steps) (hlabel : label = controllerName ∨ label = controllerType)
    (value : Option String) (ls : Labels) :
    s.captures? (write label value ls) = s.captures? ls := by
  have hsources : ∀ s ∈ steps, controllerName ∉ s.sources ∧ controllerType ∉ s.sources := by decide
  have hnot : label ∉ s.sources := by
    rcases hlabel with rfl | rfl
    · exact (hsources s hs).1
    · exact (hsources s hs).2
  have hsource : s.nameRule.source (write label value ls) = s.nameRule.source ls := by
    refine source_congr fun l hl => ?_
    have hne : l ≠ label := fun h => hnot (h ▸ hl)
    rw [Labels.value, Labels.value, get?_write_ne hne]
  rw [Step.captures?, Step.captures?, hsource]

theorem found?_record (hs : s ∈ steps) (found : Option (String × String)) (ls : Labels) :
    s.found? (record withName withType found ls) = s.found? ls := by
  rw [Step.found?, Step.found?, record, captures?_write hs (.inr rfl),
    captures?_write hs (.inl rfl)]

/-- A rule of a step writes what it makes of the groups. -/
theorem step_rule {target : String} (hs : s ∈ steps) (ht : isName target = true)
    (template : String) (ls : Labels) :
    ({ Rule.copy s.sources target with regex := s.regex, replacement := template } : Rule).step ls =
      some (write target ((s.captures? ls).map (·.expand template)) ls) := by
  obtain ⟨regex, hregex⟩ := Option.isSome_iff_exists.mp (isSome_anchored?_regex hs)
  rw [Step.captures?, hregex, Option.bind_some]
  cases hc : regex.captures? (s.nameRule.source ls) with
  | none => exact step_of_captures?_eq_none rfl hregex hc
  | some c => exact step_of_captures?_eq_some rfl hregex ht hc

theorem pass_asked {target : String} (hs : s ∈ steps) (ht : isName target = true)
    (template : String) (asked : Bool) (ls : Labels) :
    pass ls (if asked then
        [{ Rule.copy s.sources target with regex := s.regex, replacement := template }] else []) =
      some (write target
        (if asked then (s.captures? ls).map (·.expand template) else none) ls) := by
  cases asked with
  | false => rfl
  | true => rw [if_pos rfl, if_pos rfl, pass_cons, step_rule hs ht, Option.bind_some, pass_nil]

/-- The rules of a step record what it finds. -/
theorem pass_rules_step (hs : s ∈ steps) (withName withType : Bool) (ls : Labels) :
    pass ls (s.rules withName withType) = some (record withName withType (s.found? ls) ls) := by
  rw [Step.rules, Step.nameRule, Step.typeRule, pass_append, pass_asked hs (by decide),
    Option.bind_some, pass_asked hs (by decide), captures?_write hs (.inl rfl), record, Step.found?,
    Option.map_map, Option.map_map]
  rfl

/-- The rules of some steps record what the last one finds that matches. -/
theorem pass_rules {L : List Step} (hL : ∀ s ∈ L, s ∈ steps) (withName withType : Bool)
    (ls : Labels) : pass ls (L.flatMap (·.rules withName withType)) =
      some (record withName withType (L.reverse.findSome? (·.found? ls)) ls) := by
  induction L generalizing ls with
  | nil => cases withName <;> cases withType <;> rfl
  | cons s rest ih =>
    obtain ⟨hs, hrest⟩ := List.forall_mem_cons.mp hL
    have hfound : ∀ t ∈ rest.reverse,
        t.found? (record withName withType (s.found? ls) ls) = t.found? ls :=
      fun t ht => found?_record (hrest t (List.mem_reverse.mp ht)) _ _
    rw [List.flatMap_cons, pass_append, pass_rules_step hs, Option.bind_some, ih hrest,
      Regex.findSome?_congr hfound, record_record, List.reverse_cons, List.findSome?_append,
      List.findSome?_singleton]

/-- All rules record what the last step finds that matches. -/
theorem run_rules (withName withType : Bool) (ls : Labels) : run ls (rules withName withType) =
    .ok (some (record withName withType (steps.reverse.findSome? (·.found? ls)) ls)) := by
  have hread : ∀ r ∈ rules withName withType, r.IsReadable :=
    fun r hr => isReadable_of_check (check_of_mem_rules hr)
  rw [run_eq_pass hread, ← pass_rules (fun _ h => h)]
  rfl

/-! ## What the steps find -/

/-- A step for what stands between a word and a tail finds it, if the text can be cut in one way
only. -/
theorem found?_between_iff {word : List Char} {tail : List Regex.Expr} {L : List Char → Prop}
    (hregex : Regex.anchored? s.regex = some (Regex.between word tail)) (hname : s.name = "$1")
    (htype : '$' ∉ s.type.toList) (htail : Regex.Accepts tail L)
    (hloops : ∀ x ∈ tail, x.hasCharLoops = true) (hgroupless : ∀ x ∈ tail, x.isGroupless = true)
    (hunique : ∀ x y : String, Regex.IsCut word L (s.nameRule.source ls).toList x.toList →
      Regex.IsCut word L (s.nameRule.source ls).toList y.toList → x = y) :
    s.found? ls = some (base, type) ↔
      Regex.IsCut word L (s.nameRule.source ls).toList base.toList ∧ type = s.type := by
  have hexpand : ∀ c : Regex.Captures, c.expand s.name = String.ofList (c.group 1) := by
    intro c
    rw [hname, Regex.expand_one]
  have hcut : ∀ {c : Regex.Captures}, s.captures? ls = some c →
      Regex.IsCut word L (s.nameRule.source ls).toList (String.ofList (c.group 1)).toList := by
    intro c hc
    rw [Step.captures?, hregex, Option.bind_some] at hc
    rw [String.toList_ofList]
    exact Regex.cut_of_captures?_between htail hloops hgroupless hc
  simp only [Step.found?, Option.map_eq_some_iff, hexpand, expand_of_not_mem _ htype,
    Prod.mk.injEq]
  constructor
  · rintro ⟨c, hc, rfl, rfl⟩
    exact ⟨hcut hc, rfl⟩
  · rintro ⟨hbase, rfl⟩
    obtain ⟨c, hc⟩ := Regex.exists_captures_between htail hloops hbase
    have hcaptures : s.captures? ls = some c := by rw [Step.captures?, hregex, Option.bind_some, hc]
    exact ⟨c, hcaptures, hunique _ _ (hcut hcaptures) hbase, rfl⟩

/-- Behind a kind and a semicolon the cut goes on as it would on its own. -/
theorem isCut_kind_iff {word cs rest middle : List Char} {L : List Char → Prop}
    (hword : ';' ∉ word) (hcs : ';' ∉ cs) :
    Regex.IsCut (word ++ [';']) L (cs ++ ';' :: rest) middle ↔
      cs = word ∧ Regex.IsCut [] L rest middle := by
  constructor
  · rintro ⟨hne, tail, htext, htail⟩
    obtain rfl := (prefix_append_cons_iff hcs hword).mp ⟨_, htext.symm⟩
    rw [List.append_assoc, List.append_right_inj, List.singleton_append, List.cons.injEq] at htext
    exact ⟨rfl, hne, tail, htext.2, htail⟩
  · rintro ⟨rfl, hne, tail, rfl, htail⟩
    exact ⟨hne, tail, by simp, htail⟩

/-- A rest of a name that is a dash and a suffix. -/
def IsTail (IsSuffix : List Char → Prop) (rest : List Char) : Prop :=
  ∃ suffix, rest = '-' :: suffix ∧ IsSuffix suffix

/-- The same with a semicolon and some text behind the suffix. -/
def IsTailBefore (IsSuffix : List Char → Prop) (rest : List Char) : Prop :=
  ∃ suffix more, rest = '-' :: (suffix ++ ';' :: more) ∧ more ≠ [] ∧ IsSuffix suffix

theorem isCut_tail_iff : Regex.IsCut [] (IsTail IsSuffix) name.toList base.toList ↔
    HasBase IsSuffix name base := by
  rw [Regex.IsCut, HasBase, Ne, Ne, String.toList_eq_nil_iff]
  refine and_congr_right fun _ => ?_
  constructor
  · rintro ⟨-, hname, suffix, rfl, hsuffix⟩
    exact ⟨suffix, hname, hsuffix⟩
  · rintro ⟨suffix, hname, hsuffix⟩
    exact ⟨_, hname, suffix, rfl, hsuffix⟩

/-- The semicolon behind a name ends its suffix too. -/
theorem isCut_tailBefore_iff (hname : ';' ∉ name.toList) (hhash : ';' ∉ hash.toList) :
    Regex.IsCut [] (IsTailBefore IsSuffix) (name.toList ++ ';' :: hash.toList) base.toList ↔
      hash ≠ "" ∧ HasBase IsSuffix name base := by
  rw [Regex.IsCut, HasBase, Ne, Ne, String.toList_eq_nil_iff, and_left_comm]
  refine and_congr_right fun _ => ?_
  constructor
  · rintro ⟨-, htext, suffix, more, rfl, hmore, hsuffix⟩
    have hsplit : name.toList ++ ';' :: hash.toList =
        (base.toList ++ '-' :: suffix) ++ ';' :: more := by
      rw [htext, List.nil_append, List.append_assoc, List.cons_append]
    obtain ⟨hbase, -, rfl⟩ := (List.append_cons_inj_of_notMem hname hhash).mp hsplit
    exact ⟨fun h => hmore (String.toList_eq_nil_iff.mpr h), suffix, hbase, hsuffix⟩
  · rintro ⟨hne, suffix, hbase, hsuffix⟩
    refine ⟨'-' :: (suffix ++ ';' :: hash.toList), ?_, suffix, _, rfl,
      fun h => hne (String.toList_eq_nil_iff.mp h), hsuffix⟩
    rw [hbase, List.nil_append, List.append_assoc, List.cons_append]

/-! ## Texts without semicolons -/

section NoSemicolons

variable (hkind : ';' ∉ (ls.value metaPodControllerKind).toList)

include hkind

theorem found?_cronJob_iff :
    cronJob.found? ls = some (base, type) ↔ ls.value metaPodControllerKind = "Job" ∧
      HasBase IsTime (ls.value metaPodControllerName) base ∧ type = "CronJob" := by
  have hregex : Regex.anchored? cronJob.regex =
      some (Regex.between "Job;".toList Regex.timeTail) := Regex.anchored?_cronJob
  have htail : Regex.Accepts Regex.timeTail (IsTail IsTime) := Regex.accepts_time
  have hsource : cronJob.nameRule.source ls =
      ls.value metaPodControllerKind ++ ";" ++ ls.value metaPodControllerName :=
    source_of_pair rfl ls
  have hword : "Job;".toList = "Job".toList ++ [';'] := by decide
  have hcut : ∀ x : String, Regex.IsCut "Job;".toList (IsTail IsTime)
      (cronJob.nameRule.source ls).toList x.toList ↔ ls.value metaPodControllerKind = "Job" ∧
        HasBase IsTime (ls.value metaPodControllerName) x := by
    intro x
    rw [hsource, toList_joined, hword, isCut_kind_iff (by decide) hkind, String.toList_inj,
      isCut_tail_iff]
  have hunique : ∀ x y : String, _ → _ → x = y := fun x y hx hy =>
    ((hcut x).mp hx).2.unique (fun _ => IsTime.dash_not_mem) ((hcut y).mp hy).2
  rw [found?_between_iff hregex rfl (by decide) htail (by decide) (by decide) hunique, hcut,
    and_assoc]
  rfl

variable (hname : ';' ∉ (ls.value metaPodControllerName).toList)

include hname

/-- The name ends at the only semicolon. -/
theorem found?_owner : owner.found? ls =
      if ls.value metaPodControllerKind ≠ "" ∧ ls.value metaPodControllerName ≠ "" then
        some (ls.value metaPodControllerName, ls.value metaPodControllerKind)
      else none := by
  have hsource : (owner.nameRule.source ls).toList = (ls.value metaPodControllerName).toList ++
      ';' :: (ls.value metaPodControllerKind).toList := by
    have hpair : owner.nameRule.source ls =
        ls.value metaPodControllerName ++ ";" ++ ls.value metaPodControllerKind :=
      source_of_pair rfl ls
    rw [hpair, toList_joined]
  have hcaptures : owner.captures? ls = Regex.pair.captures? (owner.nameRule.source ls) := by
    have hregex : Regex.anchored? owner.regex = some Regex.pair := Regex.anchored?_pair
    rw [Step.captures?, hregex, Option.bind_some]
  split
  · rename_i hne
    obtain ⟨c, hc, hfirst, hsecond⟩ := Regex.exists_captures_pair hsource
      (fun h => hne.2 (String.toList_eq_nil_iff.mp h))
      (fun h => hne.1 (String.toList_eq_nil_iff.mp h))
      (fun h => hkind (List.dropLast_subset _ h))
    have hone : c.expand "$1" = ls.value metaPodControllerName := by
      rw [Regex.expand_one, hfirst, String.ofList_toList]
    have htwo : c.expand "$2" = ls.value metaPodControllerKind := by
      rw [Regex.expand_two, hsecond, String.ofList_toList]
    rw [Step.found?, hcaptures, hc, Option.map_some]
    exact congrArg some (Prod.ext hone htwo)
  · rename_i hempty
    have hnone : Regex.pair.captures? (owner.nameRule.source ls) = none := by
      refine Regex.captures?_pair_eq_none fun x y hxy => ?_
      rw [hsource] at hxy
      obtain ⟨rfl, -, rfl⟩ := (List.append_cons_inj_of_notMem hname hkind).mp hxy
      rw [String.toList_eq_nil_iff, String.toList_eq_nil_iff]
      rw [not_and_or, not_not, not_not] at hempty
      exact hempty.symm
    rw [Step.found?, hcaptures, hnone, Option.map_none]

variable (hhash : ';' ∉ (ls.value templateHash).toList)

include hhash

theorem found?_deployment_iff :
    deployment.found? ls = some (base, type) ↔ ls.value metaPodControllerKind = "ReplicaSet" ∧
      ls.value templateHash ≠ "" ∧ HasBase IsRevision (ls.value metaPodControllerName) base ∧
        type = "Deployment" := by
  have hregex : Regex.anchored? deployment.regex =
      some (Regex.between "ReplicaSet;".toList Regex.revisionTail) := Regex.anchored?_replicaSet
  have htail : Regex.Accepts Regex.revisionTail (IsTailBefore IsRevision) := Regex.accepts_revision
  have hsource : (deployment.nameRule.source ls).toList =
      (ls.value metaPodControllerKind).toList ++ ';' ::
        ((ls.value metaPodControllerName).toList ++ ';' :: (ls.value templateHash).toList) := by
    have htriple : deployment.nameRule.source ls = ls.value metaPodControllerKind ++ ";" ++
        (ls.value metaPodControllerName ++ ";" ++ ls.value templateHash) :=
      source_of_triple rfl ls
    rw [htriple, toList_joined, toList_joined]
  have hword : "ReplicaSet;".toList = "ReplicaSet".toList ++ [';'] := by decide
  have hcut : ∀ x : String, Regex.IsCut "ReplicaSet;".toList (IsTailBefore IsRevision)
      (deployment.nameRule.source ls).toList x.toList ↔
        ls.value metaPodControllerKind = "ReplicaSet" ∧ ls.value templateHash ≠ "" ∧
          HasBase IsRevision (ls.value metaPodControllerName) x := by
    intro x
    rw [hsource, hword, isCut_kind_iff (by decide) hkind, String.toList_inj,
      isCut_tailBefore_iff hname hhash]
  have hunique : ∀ x y : String, _ → _ → x = y := fun x y hx hy =>
    ((hcut x).mp hx).2.2.unique (fun _ => IsRevision.dash_not_mem) ((hcut y).mp hy).2.2
  rw [found?_between_iff hregex rfl (by decide) htail (by decide) (by decide) hunique, hcut,
    and_assoc, and_assoc]
  rfl

/-- What the steps find is what is inferred. The last step comes first, since its finding counts. -/
theorem infers_found :
    Infers (ls.value metaPodControllerKind) (ls.value metaPodControllerName) (ls.value templateHash)
      (ofFound (steps.reverse.findSome? (·.found? ls))) := by
  have horder : steps.reverse.findSome? (·.found? ls) =
      (cronJob.found? ls).or ((deployment.found? ls).or (owner.found? ls)) := by
    have hreverse : steps.reverse = [cronJob] ++ ([deployment] ++ [owner]) := rfl
    rw [hreverse]
    simp only [List.findSome?_append, List.findSome?_singleton]
  rw [horder]
  cases hjob : cronJob.found? ls with
  | some found =>
    obtain ⟨base, type⟩ := found
    obtain ⟨hkind', hbase, rfl⟩ := (found?_cronJob_iff hkind).mp hjob
    exact .cronJob hkind' hbase
  | none =>
    have hjob' : ls.value metaPodControllerKind = "Job" →
        ∀ base, ¬ HasBase IsTime (ls.value metaPodControllerName) base := by
      intro hkind' base hbase
      rw [(found?_cronJob_iff hkind).mpr ⟨hkind', hbase, rfl⟩] at hjob
      cases hjob
    cases hset : deployment.found? ls with
    | some found =>
      obtain ⟨base, type⟩ := found
      obtain ⟨hkind', hhash', hbase, rfl⟩ := (found?_deployment_iff hkind hname hhash).mp hset
      exact .deployment hkind' hhash' hbase
    | none =>
      have hset' : ls.value metaPodControllerKind = "ReplicaSet" → ls.value templateHash ≠ "" →
          ∀ base, ¬ HasBase IsRevision (ls.value metaPodControllerName) base := by
        intro hkind' hhash' base hbase
        rw [(found?_deployment_iff hkind hname hhash).mpr ⟨hkind', hhash', hbase, rfl⟩] at hset
        cases hset
      rw [Option.none_or, Option.none_or, found?_owner hkind hname]
      split
      · rename_i hne
        exact .owner hjob' hset' hne.1 hne.2
      · rename_i hempty
        rw [not_and_or, not_not, not_not] at hempty
        exact .nothing hempty

theorem infers_iff :
    Infers (ls.value metaPodControllerKind) (ls.value metaPodControllerName)
      (ls.value templateHash) l ↔ l = ofFound (steps.reverse.findSome? (·.found? ls)) := by
  have hfound := infers_found hkind hname hhash
  constructor
  · exact fun h => h.unique hfound
  · rintro rfl
    exact hfound

/-- The rules write what is inferred to the labels that were asked for, and nothing else. -/
theorem exists_run_rules (hnoName : ls.get? controllerName = none)
    (hnoType : ls.get? controllerType = none) (withName withType : Bool) :
    ∃ l out, (∀ l', Infers (ls.value metaPodControllerKind) (ls.value metaPodControllerName)
        (ls.value templateHash) l' ↔ l' = l) ∧
      run ls (rules withName withType) = .ok (some out) ∧
      out.get? controllerName = (if withName then l.name else none) ∧
      out.get? controllerType = (if withType then l.type else none) ∧
      ∀ label, label ≠ controllerName → label ≠ controllerType →
        out.get? label = ls.get? label := by
  have hiff := fun l' => infers_iff (l := l') hkind hname hhash
  have hrun := run_rules withName withType ls
  generalize steps.reverse.findSome? (·.found? ls) = found at hiff hrun
  obtain ⟨hne, hne'⟩ := ((hiff _).mpr rfl).ne_empty
  have hvalue : (if withName then found.map (·.1) else none) ≠ some "" := by
    split
    · exact hne
    · nofun
  have hvalue' : (if withType then found.map (·.2) else none) ≠ some "" := by
    split
    · exact hne'
    · nofun
  refine ⟨ofFound found, _, hiff, hrun, ?_, ?_,
    fun label hlabel hlabel' => get?_record hlabel hlabel'⟩
  · rw [record, get?_write_ne (by decide), get?_write_self hvalue, hnoName, Option.or_none]
    rfl
  · rw [record, get?_write_self hvalue', get?_write_ne (by decide), hnoType, Option.or_none]
    rfl

end NoSemicolons

/-! ## What discovery says -/

/-- The label of an object has what the last entry for it gives. -/
theorem get?_foldl_valueOf (entries : List (String × String)) (out : Labels) (label : String) :
    (entries.foldl (fun ls e => ls.insert (Family.pod.valueOf e.1) e.2) out).get? label =
      ((entries.reverse.find? fun e => Family.pod.valueOf e.1 = label).map (·.2)).or
        (out.get? label) := by
  induction entries generalizing out with
  | nil => rfl
  | cons e rest ih =>
    rw [List.foldl_cons, ih, Dict.get?_insert, List.reverse_cons, List.find?_append]
    cases rest.reverse.find? fun e => Family.pod.valueOf e.1 = label with
    | some d => rfl
    | none =>
      by_cases he : Family.pod.valueOf e.1 = label
      · simp [he]
      · simp [he, Ne.symm he]

theorem get?_discovered (kind name : String) (podLabels : Dict String) (label : String) :
    (discovered kind name podLabels).get? label =
      if label = metaPodControllerName then some name
      else if label = metaPodControllerKind then some kind
      else (podLabels.entries.reverse.find? fun e => Family.pod.valueOf e.1 = label).map (·.2) := by
  rw [discovered, Dict.get?_insert, Dict.get?_insert, get?_foldl_valueOf, Dict.get?_empty,
    Option.or_none]

/-- Discovery does not say what is asked for. -/
theorem get?_discovered_eq_none {label : String} (hname : label ≠ metaPodControllerName)
    (hkind : label ≠ metaPodControllerKind) (hlabel : ¬ IsObjectLabel label) (kind name : String)
    (podLabels : Dict String) : (discovered kind name podLabels).get? label = none := by
  have hnone :
      (podLabels.entries.reverse.find? fun e => Family.pod.valueOf e.1 = label) = none := by
    refine List.find?_eq_none.mpr fun e _ he => hlabel ?_
    rw [← of_decide_eq_true he]
    exact isObjectLabel_valueOf _ _
  rw [get?_discovered, if_neg hname, if_neg hkind, hnone, Option.map_none]

/-- The greatest of increasing keys is the last one. -/
theorem max?_eq_getLast? {keys : List String} (h : keys.Pairwise (· < ·)) :
    keys.max? = keys.getLast? := by
  rcases eq_or_ne keys [] with rfl | hne
  · rfl
  · rw [List.getLast?_eq_some_getLast hne]
    refine List.max?_eq_some_iff.mpr ⟨List.getLast_mem hne, fun k hk => ?_⟩
    exact (h.imp le_of_lt).rel_getLast hk

theorem value_discovered_templateHash (kind name : String) (podLabels : Dict String) :
    (discovered kind name podLabels).value templateHash = templateHashOf podLabels := by
  have hkey : ∀ k, Family.pod.valueOf k = templateHash ↔ sanitize k = "pod_template_hash" := by
    intro k
    rw [templateHash, Family.valueOf_inj]
    have hsame : sanitize "pod_template_hash" = "pod_template_hash" := by decide
    rw [hsame]
  have hsorted : podLabels.keys.Pairwise (· < ·) := List.pairwise_map.mpr podLabels.sorted
  have hlast : (podLabels.keys.filter (sanitize · = "pod_template_hash")).max? =
      (podLabels.entries.reverse.find? fun e =>
        Family.pod.valueOf e.1 = templateHash).map (·.1) := by
    rw [max?_eq_getLast? (hsorted.filter _), Dict.keys, List.filter_map, List.getLast?_map,
      List.getLast?_filter]
    simp only [Function.comp_def, hkey]
  rw [value, get?_discovered, if_neg (by decide), if_neg (by decide), templateHashOf, hlast]
  cases hfind : podLabels.entries.reverse.find? fun e => Family.pod.valueOf e.1 = templateHash with
  | none => rfl
  | some e =>
    have hmem : e ∈ podLabels.entries := List.mem_reverse.mp (List.mem_of_find?_eq_some hfind)
    rw [Option.map_some, Option.map_some, Option.bind_some, Dict.get?_of_mem hmem]

/-- For texts without semicolons, the controller that is resolved for a pod is the one inferred, and
the rules for a candidate that does not have the labels yet write what is inferred of it to those
that are asked for. -/
theorem resolve_and_rules_infer :
    (∀ kind name podLabels, ';' ∉ kind.toList → ';' ∉ name.toList →
      ';' ∉ (templateHashOf podLabels).toList →
        ∃ l, resolve kind name podLabels = .ok l ∧
          ∀ l', Infers kind name (templateHashOf podLabels) l' ↔ l' = l) ∧
    ∀ withName withType ls, ls.get? controllerName = none → ls.get? controllerType = none →
      ';' ∉ (ls.value metaPodControllerKind).toList →
      ';' ∉ (ls.value metaPodControllerName).toList → ';' ∉ (ls.value templateHash).toList →
        ∃ l out, (∀ l', Infers (ls.value metaPodControllerKind) (ls.value metaPodControllerName)
            (ls.value templateHash) l' ↔ l' = l) ∧
          run ls (rules withName withType) = .ok (some out) ∧
          out.get? controllerName = (if withName then l.name else none) ∧
          out.get? controllerType = (if withType then l.type else none) ∧
          ∀ label, label ≠ controllerName → label ≠ controllerType →
            out.get? label = ls.get? label := by
  refine ⟨fun kind name podLabels hkind hname hhash => ?_,
    fun withName withType ls hnoName hnoType hkind hname hhash =>
      exists_run_rules hkind hname hhash hnoName hnoType withName withType⟩
  have hkind' : (discovered kind name podLabels).value metaPodControllerKind = kind := by
    rw [value, get?_discovered, if_neg (by decide), if_pos rfl]
    rfl
  have hname' : (discovered kind name podLabels).value metaPodControllerName = name := by
    rw [value, get?_discovered, if_pos rfl]
    rfl
  have hhash' := value_discovered_templateHash kind name podLabels
  obtain ⟨l, out, hinfers, hrun, hcontroller, htype, -⟩ := exists_run_rules
    (hkind'.symm ▸ hkind) (hname'.symm ▸ hname) (hhash'.symm ▸ hhash)
    (get?_discovered_eq_none (by decide) (by decide) (by decide) kind name podLabels)
    (get?_discovered_eq_none (by decide) (by decide) (by decide) kind name podLabels) true true
  rw [hkind', hname', hhash'] at hinfers
  refine ⟨l, ?_, hinfers⟩
  rw [resolve, hrun]
  simp only [bind, Except.bind, Option.getD_some, hcontroller, htype, if_true]
  rfl

/-- A replica set whose pod has two keys for the template hash, and a job, of which only the name
is asked for. -/
theorem resolve_and_rules_infer_sample :
    resolve "ReplicaSet" "api-server-7d4b9c8f6"
        (.ofList [("pod-template-hash", ""), ("pod_template_hash", "7d4b9c8f6")]) =
      .ok ⟨some "api-server", some "Deployment"⟩ ∧
    ∃ out, run (.ofList [(metaPodControllerKind, "Job"),
        (metaPodControllerName, "nightly-backup-28345920")]) (rules true false) = .ok (some out) ∧
      out.get? controllerName = some "nightly-backup" ∧ out.get? controllerType = none := by
  obtain ⟨hresolve, hrules⟩ := resolve_and_rules_infer
  constructor
  · obtain ⟨l, hl, hinfers⟩ := hresolve "ReplicaSet" "api-server-7d4b9c8f6"
      (.ofList [("pod-template-hash", ""), ("pod_template_hash", "7d4b9c8f6")])
      (by decide) (by decide) (by decide)
    have hset : Infers "ReplicaSet" "api-server-7d4b9c8f6" (templateHashOf (.ofList
        [("pod-template-hash", ""), ("pod_template_hash", "7d4b9c8f6")]))
        ⟨some "api-server", some "Deployment"⟩ :=
      .deployment rfl (by decide) ⟨by decide, "7d4b9c8f6".toList, by decide, by decide⟩
    rw [hl, (hinfers _).mp hset]
  · obtain ⟨l, out, hinfers, hrun, hname, htype, -⟩ := hrules true false (.ofList
      [(metaPodControllerKind, "Job"), (metaPodControllerName, "nightly-backup-28345920")])
      (by decide) (by decide) (by decide) (by decide) (by decide)
    have hjob : Infers "Job" "nightly-backup-28345920" ""
        ⟨some "nightly-backup", some "CronJob"⟩ :=
      .cronJob rfl ⟨by decide, "28345920".toList, by decide, by decide⟩
    refine ⟨out, hrun, ?_, htype⟩
    rw [hname, ← (hinfers _).mp hjob]
    rfl

end ScrapeJobs.Lineage
