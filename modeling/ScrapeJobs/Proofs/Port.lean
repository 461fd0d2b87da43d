import ScrapeJobs.Proofs.NumericPort
import ScrapeJobs.Proofs.Relabel.Generated
import ScrapeJobs.Proofs.Relabel.Texts

/-!
# What the rules of a port write

The rules for an instance first name it (`Port.baseName`): after its pod, or after what stands
behind the kind of a daemon set, which is the node. The rules of a named port then drop the
candidates with another port name and write the instance of the others; those of a number drop
none, remove the container and write the instance and the address (`run_portRules`).
-/

namespace ScrapeJobs

open Label Labels Outcome Relabel

variable {ls : Labels} {r : Rule} {rules rest : List Rule} {port : Port}

/-! ## Containers -/

namespace Relabel

theorem step_labelDrop_container (ls : Labels) :
    (Rule.labelDrop container).step ls = some (ls.erase container) := by
  obtain ⟨regex, hregex, hiff⟩ := Phase.exists_regex_container
  have hstep : (Rule.labelDrop container).step ls =
      some (ls.filterKeys fun l => !regex.isMatch l) := by
    rw [step_eq_apply (r := .labelDrop container) hregex]
    rfl
  have hmatch : (fun l => !regex.isMatch l) = fun l => l != container := by
    funext l
    rw [bne, Bool.not_inj_iff, Bool.eq_iff_iff, hiff, beq_iff_eq]
  rw [hstep, hmatch]
  rfl

end Relabel

namespace Port

/-! ## Names of instances -/

/-- The kind of a pod's controller and the name of its node, as one text. -/
def controllerText (ls : Labels) : String :=
  ls.value metaPodControllerKind ++ ";" ++ ls.value metaPodNodeName

theorem toList_controllerText (ls : Labels) : (controllerText ls).toList =
    (ls.value metaPodControllerKind).toList ++ ';' :: (ls.value metaPodNodeName).toList :=
  toList_joined _ _

/-- A daemon set runs the pod, as far as the joined text tells. -/
def IsOfDaemonSet (ls : Labels) : Prop := "DaemonSet;".toList <+: (controllerText ls).toList

instance : DecidablePred IsOfDaemonSet := fun _ => inferInstanceAs (Decidable (_ <+: _))

/-- The name of an instance without its port: what stands behind the kind of a daemon set, or
else the name of the pod. -/
def baseName (ls : Labels) : String :=
  if IsOfDaemonSet ls then
    String.ofList ((controllerText ls).toList.drop "DaemonSet;".toList.length)
  else ls.value metaPodName

/-- A kind without a semicolon is the one of daemon sets or another one. -/
theorem isOfDaemonSet_iff (h : ';' ∉ (ls.value metaPodControllerKind).toList) :
    IsOfDaemonSet ls ↔ ls.value metaPodControllerKind = "DaemonSet" := by
  have hword : "DaemonSet;".toList = "DaemonSet".toList ++ [';'] := by decide
  rw [IsOfDaemonSet, toList_controllerText, hword, prefix_append_cons_iff h (by decide),
    String.toList_inj]

theorem baseName_of_not_mem (h : ';' ∉ (ls.value metaPodControllerKind).toList) :
    baseName ls = if ls.value metaPodControllerKind = "DaemonSet" then ls.value metaPodNodeName
      else ls.value metaPodName := by
  have hiff := isOfDaemonSet_iff h
  by_cases hkind : ls.value metaPodControllerKind = "DaemonSet"
  · rw [baseName, if_pos (hiff.mpr hkind), if_pos hkind, toList_controllerText, hkind,
      ← String.toList_inj, String.toList_ofList]
    rfl
  · rw [baseName, if_neg (mt hiff.mp hkind), if_neg hkind]

/-- The rule that names an instance after its node. -/
def nodeRule : Rule :=
  { Rule.copy [metaPodControllerKind, metaPodNodeName] tmpInstance with regex := "DaemonSet;(.*)" }

theorem step_nodeRule (ls : Labels) : nodeRule.step ls =
    some (if IsOfDaemonSet ls then
      ls.set tmpInstance
        (String.ofList ((controllerText ls).toList.drop "DaemonSet;".toList.length))
    else ls) := by
  have hsource : nodeRule.source ls = controllerText ls := source_of_pair rfl ls
  have hread : Regex.anchored? nodeRule.regex = some (Regex.behind "DaemonSet;".toList) :=
    Regex.anchored?_daemonSet
  split
  · rename_i hpre
    obtain ⟨rest, hrest⟩ := hpre
    obtain ⟨c, hc, hgroup⟩ := Regex.exists_captures_behind hrest.symm
    have hexpand : c.expand ("$1" ++ "") = _ := Regex.expand_first c List.not_mem_nil rfl
    rw [String.append_empty, String.append_empty, hgroup] at hexpand
    rw [step_of_captures?_eq_some rfl hread (by decide) (hsource ▸ hc), ← hrest, List.drop_left]
    exact congrArg (fun v => some (ls.set tmpInstance v)) hexpand
  · rename_i hpre
    exact step_of_captures?_eq_none rfl hread (hsource ▸ Regex.captures?_behind_eq_none hpre)

/-- The name of the instance is put into the temporary label. -/
theorem pass_instanceRules (ls : Labels) :
    pass ls instanceRules = some (ls.set tmpInstance (baseName ls)) := by
  have hpod : (Rule.copy [metaPodName] tmpInstance).step ls =
      some (ls.set tmpInstance (ls.value metaPodName)) := step_copy (by decide) ls
  have htext : controllerText (ls.set tmpInstance (ls.value metaPodName)) = controllerText ls := by
    rw [controllerText, value_set, value_set, if_neg (by decide), if_neg (by decide)]
    rfl
  have hof : IsOfDaemonSet (ls.set tmpInstance (ls.value metaPodName)) ↔ IsOfDaemonSet ls := by
    rw [IsOfDaemonSet, htext, IsOfDaemonSet]
  have hnode := step_nodeRule (ls.set tmpInstance (ls.value metaPodName))
  simp only [htext, hof, set_set] at hnode
  have hrules : instanceRules = [.copy [metaPodName] tmpInstance, nodeRule] := rfl
  rw [hrules, pass_cons, hpod, Option.bind_some, pass_cons, hnode, Option.bind_some, pass_nil,
    baseName]
  split <;> rfl

/-! ## Numeric ports -/

theorem not_mem_toString {c : Char} (hc : c.isDigit = false) (n : Nat) :
    c ∉ (toString n).toList := by
  intro h
  have hdigits : (toString n).toList = Nat.toDigits 10 n := Nat.toList_repr
  rw [hdigits] at h
  rw [Nat.isDigit_of_mem_toDigits (by decide) (by decide) h] at hc
  cases hc

/-- The address and the instance get the number behind what they are made of. -/
theorem step_number (source : String) {target : String} (ht : isName target = true) (n : UInt16)
    (ls : Labels) :
    ({ Rule.copy [source] target with replacement := "$1:" ++ toString n.toNat } : Rule).step ls =
      some (ls.set target (ls.value source ++ ":" ++ toString n.toNat)) := by
  have hcolon : (":" ++ toString n.toNat).toList = ':' :: (toString n.toNat).toList :=
    String.toList_append
  have hdollar : '$' ∉ (":" ++ toString n.toNat).toList := by
    rw [hcolon]
    exact not_or.mpr ⟨by decide, not_mem_toString (by decide) n.toNat⟩ ∘ List.mem_cons.mp
  have htemplate : "$1:" ++ toString n.toNat = "$1" ++ (":" ++ toString n.toNat) := by
    rw [← String.append_assoc]
    rfl
  have hstep := step_of_suffix
    (r := { Rule.copy [source] target with replacement := "$1:" ++ toString n.toNat })
    rfl rfl ht htemplate hdollar (by rw [hcolon]; rfl) ls
  rwa [source_of_single (l := source) rfl, ← String.append_assoc] at hstep

theorem pass_numeric (n : UInt16) (ls : Labels) : pass ls (numeric n).rules =
    some ((Labels.set (ls.erase container) instanceName
      (ls.value tmpInstance ++ ":" ++ toString n.toNat)).set address
        (ls.value metaPodIp ++ ":" ++ toString n.toNat)) := by
  have hname : isName instanceName = true := by decide
  have haddress : isName address = true := by decide
  have hinstance := step_number tmpInstance hname n (ls.erase container)
  rw [value_erase ls (by decide)] at hinstance
  have hip : (Labels.set (ls.erase container) instanceName
      (ls.value tmpInstance ++ ":" ++ toString n.toNat)).value metaPodIp = ls.value metaPodIp := by
    rw [value_set, if_neg (by decide), value_erase ls (by decide)]
  simp only [rules, pass_cons, step_labelDrop_container, Option.bind_some, hinstance,
    step_number metaPodIp haddress, hip, pass_nil]

/-! ## Named ports -/

/-- The rule that puts a port name behind the name of an instance. -/
def pairRule : Rule :=
  { Rule.copy [tmpInstance, metaPodContainerPortName] instanceName with
    regex := "(.+);(.+)", replacement := "$1:$2" }

theorem toList_source_pairRule (ls : Labels) : (pairRule.source ls).toList =
    (ls.value tmpInstance).toList ++ ';' :: (ls.value metaPodContainerPortName).toList := by
  have hsource : pairRule.source ls =
      ls.value tmpInstance ++ ";" ++ ls.value metaPodContainerPortName := source_of_pair rfl ls
  rw [hsource, String.toList_append, String.toList_append, List.append_assoc]
  rfl

/-- A text behind a semicolon can be cut at the last semicolon that has something behind it. -/
theorem exists_last_cut {l : List Char} (hl : l ≠ []) :
    ∃ x y, ';' :: l = x ++ ';' :: y ∧ y ≠ [] ∧ ';' ∉ y.dropLast ∧ (';' ∉ l → x = [] ∧ y = l) := by
  by_cases hmem : ';' ∈ l.dropLast
  · obtain ⟨v, u, hsplit, hv⟩ := List.eq_append_cons_of_mem (List.mem_reverse.mpr hmem)
    have hl' : l = u.reverse ++ ';' :: (v.reverse ++ [l.getLast hl]) := by
      have hfront : l.dropLast = u.reverse ++ ';' :: v.reverse := by
        rw [← List.reverse_reverse l.dropLast, hsplit]
        simp
      rw [← List.cons_append, ← List.append_assoc, ← hfront, List.dropLast_append_getLast]
    refine ⟨';' :: u.reverse, v.reverse ++ [l.getLast hl], ?_, by simp, ?_, fun h => ?_⟩
    · rw [List.cons_append, ← hl']
    · rw [List.dropLast_concat]
      exact fun h => hv (List.mem_reverse.mp h)
    · exact (h ((List.dropLast_sublist l).subset hmem)).elim
  · exact ⟨[], l, rfl, hl, hmem, fun _ => ⟨rfl, rfl⟩⟩

/-- What is put behind the name of an instance depends on the port only. -/
theorem exists_step_pairRule {s : String} (hs : s ≠ "") :
    ∃ x y : String, (';' ∉ s.toList → x = "" ∧ y = s) ∧
      ∀ ls : Labels, ls.value tmpInstance ≠ "" → ls.value metaPodContainerPortName = s →
        pairRule.step ls =
          some (ls.set instanceName (ls.value tmpInstance ++ (x ++ ":" ++ y))) := by
  have hread : Regex.anchored? pairRule.regex = some Regex.pair := Regex.anchored?_pair
  have hs' : s.toList ≠ [] := mt String.toList_eq_nil_iff.mp hs
  obtain ⟨x, y, hcut, hy, hlast, hfree⟩ := exists_last_cut hs'
  refine ⟨.ofList x, .ofList y, fun hsemicolon => ?_, fun ls htmp hport => ?_⟩
  · obtain ⟨rfl, rfl⟩ := hfree hsemicolon
    exact ⟨rfl, String.ofList_toList⟩
  · have hsource : (pairRule.source ls).toList =
        ((ls.value tmpInstance).toList ++ x) ++ ';' :: y := by
      rw [toList_source_pairRule, hport, hcut, List.append_assoc]
    have hne : (ls.value tmpInstance).toList ++ x ≠ [] :=
      fun h => htmp (String.toList_eq_nil_iff.mp (List.append_eq_nil_iff.mp h).1)
    obtain ⟨c, hc, hfirst, hsecond⟩ := Regex.exists_captures_pair hsource hne hy hlast
    have hexpand : c.expand pairRule.replacement =
        ls.value tmpInstance ++ (.ofList x ++ ":" ++ .ofList y) := by
      rw [pairRule, Regex.expand_pair, hfirst, hsecond, String.ofList_append,
        String.ofList_toList, String.append_assoc, String.append_assoc, String.append_assoc]
    rw [step_of_captures?_eq_some rfl hread (by decide) hc, hexpand]
    rfl

/-- Without a name for the instance there is nothing to put a port behind. -/
theorem step_pairRule_of_empty (htmp : ls.value tmpInstance = "")
    (hport : ';' ∉ (ls.value metaPodContainerPortName).toList) : pairRule.step ls = some ls := by
  refine step_of_captures?_eq_none rfl Regex.anchored?_pair
    (Regex.captures?_pair_eq_none fun a b h => ?_)
  rw [toList_source_pairRule, htmp] at h
  cases a with
  | nil => exact .inl rfl
  | cons c a =>
    have htail := (List.cons.inj h).2
    rw [htail] at hport
    exact (hport (List.mem_append_right _ List.mem_cons_self)).elim

theorem pass_named {s : String} (hsize : Selector.IsPatternable s) (ls : Labels) :
    pass ls (named s).rules =
      if ls.value metaPodContainerPortName = s then pairRule.step ls else none := by
  obtain ⟨regex, hregex⟩ := Option.isSome_iff_exists.mp (Selector.isSome_anchored?_literal hsize)
  have hrules : (named s).rules = [.keep [metaPodContainerPortName] (literal s), pairRule] := rfl
  rw [hrules, pass_cons, step_keep hregex]
  simp only [Regex.isMatch_literal_iff hregex]
  split
  · rw [Option.bind_some, pass_cons]
    cases pairRule.step ls <;> rfl
  · rfl

/-! ## Runs -/

theorem ne_empty_of_resolve {ref : Option PortRef} {s : String}
    (h : resolve ref = .ok (.named s)) : s ≠ "" := by
  cases ref with
  | none => cases h
  | some ref =>
    cases ref with
    | name t =>
      obtain ⟨heq, hne⟩ := eq_named_of_resolve h
      rwa [named.inj heq]
    | number n =>
      obtain ⟨m, hm⟩ := exists_numeric_of_resolve h
      cases hm

theorem run_instanceRules_append (ls : Labels) (rest : List Rule) :
    run ls (instanceRules ++ rest) = run (ls.set tmpInstance (baseName ls)) rest := by
  rw [run_append fun r hr => isReadable_of_check (check_of_mem_instanceRules hr),
    pass_instanceRules]

theorem run_rules (hsize : ∀ s, port = .named s → Selector.IsPatternable s) (ls : Labels) :
    run ls port.rules = .ok (pass ls port.rules) :=
  run_eq_pass (fun _ hr => isReadable_of_check (check_of_mem_rules hsize hr)) ls

end Port

/-- What becomes of a candidate whose instance has a name without the port. A name drops the
candidates with another port name and writes the instance, unless there is nothing to put the
port behind; a number drops nothing, removes the container and writes the instance and the
address. A name that is too large for a pattern is an error. -/
def Port.outcome (ls : Labels) (base : String) : Port → Except Fault (Option Labels)
  | named s =>
    if ¬ Selector.IsPatternable s then .error (.regex (literal s))
    else if ls.value metaPodContainerPortName ≠ s then .ok none
    else if base = "" then .ok (some (ls.erase tmpInstance))
    else .ok (some ((ls.set tmpInstance base).set instanceName (base ++ ":" ++ s)))
  | numeric n =>
    .ok (some ((Labels.set (Dict.erase (ls.set tmpInstance base) container) instanceName
      (base ++ ":" ++ toString n.toNat)).set address
        (ls.value metaPodIp ++ ":" ++ toString n.toNat)))

/-- The rules that name an instance and those of the port do exactly this: the instance goes by
its node if a daemon set runs the pod, and by the pod otherwise. -/
theorem run_portRules {ref : Option PortRef} (h : Port.resolve ref = .ok port)
    (hkind : ';' ∉ (ls.value metaPodControllerKind).toList)
    (hport : ';' ∉ (ls.value metaPodContainerPortName).toList) :
    run ls (Port.instanceRules ++ port.rules) =
      port.outcome ls (if ls.value metaPodControllerKind = "DaemonSet"
        then ls.value metaPodNodeName else ls.value metaPodName) := by
  rw [← Port.baseName_of_not_mem hkind, Port.run_instanceRules_append]
  generalize Port.baseName ls = base
  have htmp : (ls.set tmpInstance base).value tmpInstance = base := by
    rw [value_set, if_pos rfl]
  have hvalue : ∀ l ≠ tmpInstance, (ls.set tmpInstance base).value l = ls.value l := by
    intro l hl
    rw [value_set, if_neg hl]
  have hportName := hvalue metaPodContainerPortName (by decide)
  cases port with
  | numeric n =>
    rw [Port.run_rules (fun _ h => by cases h), Port.pass_numeric, htmp,
      hvalue metaPodIp (by decide)]
    rfl
  | named s =>
    by_cases hsize : Selector.IsPatternable s
    · rw [Port.run_rules (fun _ h => Port.named.inj h ▸ hsize), Port.pass_named hsize, hportName,
        Port.outcome, if_neg (not_not_intro hsize)]
      by_cases hname : ls.value metaPodContainerPortName = s
      · rw [if_pos hname, if_neg (not_not_intro hname)]
        by_cases hb : base = ""
        · rw [Port.step_pairRule_of_empty (htmp.trans hb) (hportName ▸ hport), if_pos hb, hb]
          rfl
        · obtain ⟨x, y, hfree, hjoin⟩ := Port.exists_step_pairRule (Port.ne_empty_of_resolve h)
          obtain ⟨rfl, rfl⟩ := hfree (hname ▸ hport)
          rw [hjoin _ (htmp.symm ▸ hb) (hportName.trans hname), htmp, if_neg hb,
            String.empty_append, String.append_assoc]
      · rw [if_neg hname, if_pos hname]
    · have hread : Regex.anchored? (literal s) = none := by
        rw [Regex.anchored?_literal, if_pos (Nat.not_le.mp hsize)]
      rw [Port.outcome, if_pos hsize, Port.rules, run]
      simp only [Rule.keep, hread]

/-- A pod of a daemon set goes by its node. -/
theorem run_portRules_sample :
    Port.resolve (some (.name "http-metrics")) = .ok (.named "http-metrics") ∧
    (run ((Sample.candidate.insert metaPodControllerKind "DaemonSet").insert metaPodNodeName "n1")
      (Port.instanceRules ++ (Port.named "http-metrics").rules)).toOption.join.map
        (·.get? instanceName) = some (some "n1:http-metrics") := by
  have hresolve : Port.resolve (some (.name "http-metrics")) = .ok (.named "http-metrics") := rfl
  refine ⟨hresolve, ?_⟩
  obtain ⟨pod, hpod⟩ : ∃ pod : Labels, (Sample.candidate.insert metaPodControllerKind
      "DaemonSet").insert metaPodNodeName "n1" = pod := ⟨_, rfl⟩
  rw [hpod]
  have hvalues : pod.value metaPodControllerKind = "DaemonSet" ∧ pod.value metaPodNodeName = "n1" ∧
      pod.value metaPodContainerPortName = "http-metrics" := by
    simp only [← hpod, Labels.value, Dict.get?_insert]
    exact ⟨rfl, rfl, rfl⟩
  obtain ⟨hkind, hnode, hname⟩ := hvalues
  rw [run_portRules hresolve (hkind ▸ by decide) (hname ▸ by decide), hkind, if_pos rfl, hnode,
    Port.outcome, if_neg (by decide), hname, if_neg (not_not_intro rfl), if_neg (by decide)]
  exact congrArg some (get?_set_self _ _ _)

end ScrapeJobs
