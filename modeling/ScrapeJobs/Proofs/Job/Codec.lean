import ScrapeJobs.ConfigFile
import ScrapeJobs.Proofs.Duration
import ScrapeJobs.Proofs.Http.Codec
import ScrapeJobs.Proofs.Outcome

/-!
# Jobs that survive writing

A collector reads a written job, and every reading of it, as it was (`Job.reads`); it then fills
in what it takes for granted and checks the result (`Job.load_of_readsAs`,
`Job.ofYaml_toYaml`). So each rule of a job that a collector accepts passes the check of a rule
(`Job.check_of_load`).
-/

namespace ScrapeJobs

open Doc Outcome

/-- A written text is read by its characters. -/
theorem Doc.ofYaml?_toYaml (d : Doc) : ofYaml? d.toYaml = ofYamlChars? d.yamlChars := by
  rw [Doc.toYaml, ofYaml?, String.toList_ofList]

/-! ## Durations and rules -/

@[simp] theorem Duration.settled_encode (d : Duration) : d.encode.Settled := settled_str d.render

theorem Duration.reads : Reads Duration.encode Duration.decode? := by
  intro d e h
  rw [Duration.decode?, text?_of_readsAs h, Option.bind_eq_bind, Option.bind_some, parse_render]

namespace Relabel

@[simp] theorem Action.settled_encode (a : Action) : a.encode.Settled := settled_str a.name

theorem Action.ofName?_name (a : Action) : Action.ofName? a.name = some a := by
  cases a <;> rfl

theorem Action.reads : Reads Action.encode Action.decode? := by
  intro a e h
  rw [Action.decode?, choice?_of_readsAs h, Option.bind_some, ofName?_name]

namespace Rule

/-- The fields of a rule with their values. -/
def table (r : Rule) : List (String × Option Doc) := [
  ("source_labels", someList str r.sourceLabels),
  ("separator", str r.separator),
  ("regex", str r.regex),
  ("modulus", someWord r.modulus),
  ("target_label", someText r.targetLabel),
  ("replacement", str r.replacement),
  ("action", r.action.encode)]

@[simp] theorem settled_encode (r : Rule) : r.encode.Settled := by
  simp [encode]

theorem reads : Reads Rule.encode Rule.decode? := by
  intro r e h
  have hnodup : (r.table.map (·.1)).Nodup := show Rule.fields.Nodup by decide
  obtain ⟨fs, hfs, has⟩ := record?_of_readsAs fields hnodup h
  rw [decode?, bind_read hfs,
    bind_read (has.get "source_labels" (reads_text.gives_someList r.sourceLabels)),
    bind_read (has.get "separator" (reads_text.gives r.separator defaultSeparator)),
    bind_read (has.get "regex" (reads_text.gives r.regex defaultRegex)),
    bind_read (has.get "modulus" (gives_someWord r.modulus)),
    bind_read (has.get "target_label" (gives_someText r.targetLabel)),
    bind_read (has.get "replacement" (reads_text.gives r.replacement defaultReplacement)),
    bind_read (has.get "action" (Action.reads.gives r.action .replace))]
  rfl

end Rule

end Relabel

/-! ## Discovery -/

@[simp] theorem Role.settled_encode (r : Role) : r.encode.Settled := settled_str r.name

theorem Role.ofName?_name (r : Role) : Role.ofName? r.name = some r := by
  cases r <;> rfl

theorem Role.reads : Reads Role.encode Role.decode? := by
  intro r e h
  rw [Role.decode?, choice?_of_readsAs h, Option.bind_some, ofName?_name]

namespace ServerFilter

def table (f : ServerFilter) : List (String × Option Doc) :=
  [("role", f.role.encode), ("label", someText f.label), ("field", someText f.field)]

@[simp] theorem settled_encode (f : ServerFilter) : f.encode.Settled := by
  simp [encode]

theorem reads : Reads ServerFilter.encode ServerFilter.decode? := by
  intro f e h
  have hnodup : (f.table.map (·.1)).Nodup := show ServerFilter.fields.Nodup by decide
  obtain ⟨fs, hfs, has⟩ := record?_of_readsAs fields hnodup h
  rw [decode?, bind_read hfs,
    bind_read (has.need "role" (Role.reads f.role)),
    bind_read (has.get "label" (gives_someText f.label)),
    bind_read (has.get "field" (gives_someText f.field))]
  rfl

end ServerFilter

namespace Discovery

def table (d : Discovery) : List (String × Option Doc) :=
  [("role", d.role.encode), ("selectors", someList ServerFilter.encode d.filters)]

@[simp] theorem settled_encode (d : Discovery) : d.encode.Settled := by
  simp [encode]

theorem reads : Reads Discovery.encode Discovery.decode? := by
  intro d e h
  have hnodup : (d.table.map (·.1)).Nodup := show Discovery.fields.Nodup by decide
  obtain ⟨fs, hfs, has⟩ := record?_of_readsAs fields hnodup h
  rw [decode?, bind_read hfs,
    bind_read (has.need "role" (Role.reads d.role)),
    bind_read (has.get "selectors" (ServerFilter.reads.gives_someList d.filters))]
  rfl

end Discovery

namespace StaticTargets

def table (t : StaticTargets) : List (String × Option Doc) :=
  [("targets", list str t.targets), ("labels", someDict str t.labels)]

@[simp] theorem settled_encode (t : StaticTargets) : t.encode.Settled := by
  simp [encode]

theorem reads : Reads StaticTargets.encode StaticTargets.decode? := by
  intro t e h
  have hnodup : (t.table.map (·.1)).Nodup := show StaticTargets.fields.Nodup by decide
  obtain ⟨fs, hfs, has⟩ := record?_of_readsAs fields hnodup h
  rw [decode?, bind_read hfs,
    bind_read (has.get "targets" (reads_text.list.gives t.targets [])),
    bind_read (has.get "labels" (reads_text.gives_someDict t.labels))]
  rfl

end StaticTargets

/-! ## Jobs -/

namespace Job

open Relabel

/-- The fields before those of the client. -/
def head (j : Job) : List (String × Option Doc) := [
  ("job_name", some (str j.name)),
  ("scrape_interval", some j.interval.encode),
  ("scrape_timeout", some j.timeout.encode),
  ("metrics_path", some (str j.path)),
  ("scheme", some (str j.scheme)),
  ("params", someDict (list str) j.params),
  ("kubernetes_sd_configs", someList Discovery.encode j.discovery),
  ("static_configs", someList StaticTargets.encode j.staticTargets)]

/-- The fields behind those of the client. -/
def tail (j : Job) : List (String × Option Doc) := [
  ("relabel_configs", someList Relabel.Rule.encode j.relabeling),
  ("metric_relabel_configs", someList Relabel.Rule.encode j.metricRelabeling),
  ("sample_limit", someWord j.sampleLimit),
  ("label_limit", someWord j.labelLimit),
  ("label_name_length_limit", someWord j.labelNameLengthLimit),
  ("label_value_length_limit", someWord j.labelValueLengthLimit)]

/-- The fields of a job with their values. -/
def table (j : Job) : List (String × Option Doc) := j.head ++ j.client.written ++ j.tail

theorem nodup_table (j : Job) : (j.table.map (·.1)).Nodup := by
  have hkeys : j.table.map (·.1) = ["job_name", "scrape_interval", "scrape_timeout",
      "metrics_path", "scheme", "params", "kubernetes_sd_configs", "static_configs",
      "basic_auth", "authorization", "oauth2", "tls_config", "proxy_url", "no_proxy",
      "proxy_from_environment", "proxy_connect_header", "follow_redirects", "enable_http2",
      "relabel_configs", "metric_relabel_configs", "sample_limit", "label_limit",
      "label_name_length_limit", "label_value_length_limit"] := rfl
  rw [hkeys]
  decide

@[simp] theorem settled_encode (j : Job) : j.encode.Settled := by
  simp [encode]

/-- A job leaves the fields of its client. -/
theorem without_written_table (j : Job) :
    without fields (written j.table) = written j.client.written := by
  have hhead : j.head.map (·.1) ⊆ fields := show ["job_name", "scrape_interval",
      "scrape_timeout", "metrics_path", "scheme", "params", "kubernetes_sd_configs",
      "static_configs"] ⊆ fields by decide
  have hclient : ∀ name ∈ j.client.written.map (·.1), name ∉ fields := show ∀ name ∈
      ["basic_auth", "authorization", "oauth2", "tls_config", "proxy_url", "no_proxy",
      "proxy_from_environment", "proxy_connect_header", "follow_redirects", "enable_http2"],
      name ∉ fields by decide
  have htail : j.tail.map (·.1) ⊆ fields := show ["relabel_configs", "metric_relabel_configs",
      "sample_limit", "label_limit", "label_name_length_limit",
      "label_value_length_limit"] ⊆ fields by decide
  rw [table, written_append, written_append, without_append, without_append,
    without_written_of_subset hhead, without_written_of_disjoint hclient,
    without_written_of_subset htail, List.nil_append, List.append_nil]

/-- A written job is read back as it was. -/
theorem reads : Reads Job.encode Job.decode? := by
  intro j e h
  obtain ⟨fs, hfs, has⟩ := openRecord?_of_readsAs fields j.nodup_table h
  have hclient : Http.Client.decode? (map (entries (written j.client.written))) = some j.client :=
    Http.Client.reads j.client _ (settled_record.mpr j.client.settledTable_written)
  rw [decode?, bind_read hfs, without_written_table]
  dsimp only
  rw [bind_read (has.get "job_name" (reads_text.gives j.name "")),
    bind_read (has.get "scrape_interval" (Duration.reads.gives j.interval (.ofSeconds 60))),
    bind_read (has.get "scrape_timeout" (Duration.reads.gives j.timeout (.ofSeconds 10))),
    bind_read (has.get "metrics_path" (reads_text.gives j.path "/metrics")),
    bind_read (has.get "scheme" (reads_text.gives j.scheme "http")),
    bind_read (has.get "params" (reads_text.list.gives_someDict j.params)),
    bind_read (has.get "kubernetes_sd_configs" (Discovery.reads.gives_someList j.discovery)),
    bind_read (has.get "static_configs" (StaticTargets.reads.gives_someList j.staticTargets)),
    bind_read hclient,
    bind_read (has.get "relabel_configs" (Rule.reads.gives_someList j.relabeling)),
    bind_read (has.get "metric_relabel_configs" (Rule.reads.gives_someList j.metricRelabeling)),
    bind_read (has.get "sample_limit" (gives_someWord j.sampleLimit)),
    bind_read (has.get "label_limit" (gives_someWord j.labelLimit)),
    bind_read (has.get "label_name_length_limit" (gives_someWord j.labelNameLengthLimit)),
    bind_read (has.get "label_value_length_limit" (gives_someWord j.labelValueLengthLimit))]
  rfl

/-- A collector fills in a written job and checks the result. -/
theorem load_of_readsAs {j : Job} {d : Doc} (h : j.encode.readsAs d = true) :
    load d = j.normalize.check.map fun _ => j.normalize := by
  rw [load, reads j d h]
  change (j.normalize.check >>= fun _ => pure j.normalize) = _
  cases j.normalize.check <;> rfl

/-- The text of a job is read as the job with what is taken for granted filled in, if that
passes the check; otherwise the error is the one of the check. -/
theorem ofYaml_toYaml (j : Job) (h : j.encode.ReadsBack (ofYaml? j.toYaml)) :
    ofYaml j.toYaml = j.normalize.check.map fun _ => j.normalize := by
  obtain ⟨d, hd, hread⟩ := h
  rw [ofYaml, hd, Option.elim_some, load_of_readsAs hread]

/-- A job that leaves its path and the scheme of its authorization to the collector, with texts
that would be read as something else without quotes. -/
def sample : Job where
  name := "web"
  path := ""
  client := { authorization := some { credentials := { ref := "1.5" } } }
  relabeling := [{ sourceLabels := ["app"], regex := "~", action := .keep }]

theorem ofYaml_toYaml_sample :
    sample.encode.ReadsBack (ofYaml? sample.toYaml) ∧ sample.normalize.check = .ok () ∧
      ofYaml sample.toYaml = .ok sample.normalize ∧ sample.normalize ≠ sample := by
  have hread : sample.encode.ReadsBack (ofYaml? sample.toYaml) := by
    rw [toYaml, ofYaml?_toYaml]
    decide +kernel
  have hcheck : sample.normalize.check = .ok () := by decide +kernel
  have hload := ofYaml_toYaml sample hread
  rw [hcheck] at hload
  exact ⟨hread, hcheck, hload, by decide⟩

/-! ## Checked rules -/

theorem check_of_checkRules {rules : List Rule} (h : checkRules rules = .ok ()) {r : Rule}
    (hr : r ∈ rules) : r.check = .ok () := by
  induction rules with
  | nil => cases hr
  | cons s rest ih =>
    obtain ⟨u, hs, hrest⟩ := bind_eq_ok h
    rcases List.mem_cons.mp hr with rfl | hr
    · exact hs
    · exact ih hrest hr

theorem checkRules_of_check {j : Job} (h : j.check = .ok ()) :
    checkRules (j.relabeling ++ j.metricRelabeling) = .ok () := by
  unfold check at h
  split at h
  · cases h
  · obtain ⟨u, -, h⟩ := bind_eq_ok h
    exact mapError_eq_ok h

theorem check_normalize_of_load {j j' : Job} (h : load j.encode = .ok j') :
    j.normalize.check = .ok () := by
  rw [load_of_readsAs j.settled_encode] at h
  obtain ⟨u, hcheck, -⟩ := map_eq_ok h
  exact hcheck

/-- Each rule of a job that a collector accepts passes the check of a rule. -/
theorem check_of_load {j j' : Job} (h : load j.encode = .ok j') {r : Rule}
    (hr : r ∈ j.relabeling ++ j.metricRelabeling) : r.check = .ok () :=
  check_of_checkRules (checkRules_of_check (check_normalize_of_load h)) hr

end Job

end ScrapeJobs
