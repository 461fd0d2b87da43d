import ScrapeJobs.Proofs.Doc.Written
import ScrapeJobs.Proofs.Job.Codec
import ScrapeJobs.Resource.Codec

/-!
# Resources that survive writing

Each part of a resource is read from its document as it was (`decode?_encode`), and each of these
documents can be written as JSON (`isJson_encode`). So a resource is read from its JSON text as it
was (`Resource.json_roundTrip`), provided that the times of its conditions come back from their
texts. The settings of an endpoint are read from what the endpoint leaves, and those of the client
from what these leave.
-/

namespace ScrapeJobs

open Doc

variable {n : Nat}

/-! ## Secrets and rules -/

namespace SecretRef

@[simp] theorem isJson_encode (r : SecretRef) : IsJson (n + 1) r.encode :=
  isJson_record (show fields.Nodup by decide) (by simp)

theorem decode?_encode (r : SecretRef) : decode? r.encode = some r := by
  obtain ⟨fs, hfs, keeps⟩ := record?_of_eq fields (rfl : r.encode = _) rfl (by decide)
  rw [decode?, bind_read hfs, bind_read (keeps.need "name" rfl (text?_str r.name)),
    bind_read (keeps.need "key" rfl (text?_str r.key)),
    bind_read (keeps.find_text "namespace" rfl)]
  rfl

end SecretRef

theorem Relabel.Action.decode?_encode (a : Action) : Action.decode? a.encode = some a :=
  a.ofName?_name

namespace Relabel.Draft

@[simp] theorem isJson_encode (r : Draft) : IsJson (n + 2) r.encode :=
  isJson_record (show fields.Nodup by decide) (by simp [Action.encode])

theorem decode?_encode (r : Draft) : decode? r.encode = some r := by
  obtain ⟨fs, hfs, keeps⟩ := record?_of_eq fields (rfl : r.encode = _) rfl (by decide)
  rw [decode?, bind_read hfs,
    bind_read (keeps.get "sourceLabels" rfl (elim_someList fun s _ => text?_str s)),
    bind_read (keeps.find_text "separator" rfl),
    bind_read (keeps.find_text "targetLabel" rfl),
    bind_read (keeps.find_text "regex" rfl),
    bind_read (keeps.find "modulus" rfl (fun k _ => word?_word k) fun _ => rfl),
    bind_read (keeps.find_text "replacement" rfl),
    bind_read (keeps.find "action" rfl (fun a _ => a.decode?_encode) fun _ => rfl)]
  rfl

end Relabel.Draft

/-! ## HTTP settings -/

namespace Http.Draft

namespace Authorization

@[simp] theorem isJson_encode (a : Authorization) : IsJson (n + 2) a.encode :=
  isJson_record (show fields.Nodup by decide) (by simp)

theorem decode?_encode (a : Authorization) : decode? a.encode = some a := by
  obtain ⟨fs, hfs, keeps⟩ := record?_of_eq fields (rfl : a.encode = _) rfl (by decide)
  rw [decode?, bind_read hfs, bind_read (keeps.find_text "type" rfl),
    bind_read (keeps.find "credentials" rfl (fun r _ => r.decode?_encode) fun _ => rfl)]
  rfl

end Authorization

namespace BasicAuth

@[simp] theorem isJson_encode (b : BasicAuth) : IsJson (n + 2) b.encode :=
  isJson_record (show fields.Nodup by decide) (by simp)

theorem decode?_encode (b : BasicAuth) : decode? b.encode = some b := by
  obtain ⟨fs, hfs, keeps⟩ := record?_of_eq fields (rfl : b.encode = _) rfl (by decide)
  rw [decode?, bind_read hfs, bind_read (keeps.get_some "username" rfl (text?_str b.username)),
    bind_read (keeps.find "password" rfl (fun r _ => r.decode?_encode) fun _ => rfl)]
  rfl

end BasicAuth

namespace Tls

@[simp] theorem isJson_encode (t : Tls) : IsJson (n + 2) t.encode :=
  isJson_record (show fields.Nodup by decide) (by simp)

theorem decode?_encode (t : Tls) : decode? t.encode = some t := by
  obtain ⟨fs, hfs, keeps⟩ := record?_of_eq fields (rfl : t.encode = _) rfl (by decide)
  rw [decode?, bind_read hfs,
    bind_read (keeps.find_text "serverName" rfl),
    bind_read (keeps.get_some "insecureSkipVerify" rfl (bool?_bool t.insecureSkipVerify)),
    bind_read (keeps.find_text "minVersion" rfl),
    bind_read (keeps.find_text "maxVersion" rfl),
    bind_read (keeps.find "ca" rfl (fun r _ => r.decode?_encode) fun _ => rfl),
    bind_read (keeps.find "cert" rfl (fun r _ => r.decode?_encode) fun _ => rfl),
    bind_read (keeps.find "key" rfl (fun r _ => r.decode?_encode) fun _ => rfl)]
  rfl

end Tls

namespace OAuth2

@[simp] theorem isJson_encode (o : OAuth2) : IsJson (n + 3) o.encode :=
  isJson_record (show fields.Nodup by decide) (by simp)

theorem decode?_encode (o : OAuth2) : decode? o.encode = some o := by
  obtain ⟨fs, hfs, keeps⟩ := record?_of_eq fields (rfl : o.encode = _) rfl (by decide)
  rw [decode?, bind_read hfs, bind_read (keeps.get_some "clientId" rfl (text?_str o.clientId)),
    bind_read (keeps.find "clientSecret" rfl (fun r _ => r.decode?_encode) fun _ => rfl),
    bind_read (keeps.get "scopes" rfl (elim_someList fun s _ => text?_str s)),
    bind_read (keeps.get_some "tokenUrl" rfl (text?_str o.tokenUrl)),
    bind_read (keeps.get "endpointParams" rfl (elim_someDict text?_str o.endpointParams)),
    bind_read (keeps.find "tls" rfl (fun t _ => t.decode?_encode) fun _ => rfl),
    bind_read (keeps.find_text "proxyUrl" rfl)]
  rfl

end OAuth2

namespace Client

@[simp] theorem isJsonTable_written (c : Client) : IsJsonTable (n + 3) c.written := by
  simp [written]

theorem ofFields?_of_keeps {c : Client} {fs : Fields} (keeps : Keeps c.written fs) :
    ofFields? fs = some c := by
  rw [ofFields?,
    bind_read (keeps.find "authorization" rfl (fun a _ => a.decode?_encode) fun _ => rfl),
    bind_read (keeps.find "basicAuth" rfl (fun b _ => b.decode?_encode) fun _ => rfl),
    bind_read (keeps.find "oauth2" rfl (fun o _ => o.decode?_encode) fun _ => rfl),
    bind_read (keeps.find "tls" rfl (fun t _ => t.decode?_encode) fun _ => rfl),
    bind_read (keeps.find_text "proxyUrl" rfl)]
  rfl

end Client

end Http.Draft

/-! ## Endpoints -/

namespace Settings

/-- The names of all settings, those of the client included. -/
def names : List String := fields ++ Http.Draft.Client.fields

theorem nodup_written (s : Settings) : (s.written.map (·.1)).Nodup :=
  show names.Nodup by decide

@[simp] theorem isJsonTable_written (s : Settings) : IsJsonTable (n + 3) s.written := by
  simp [written]

@[simp] theorem isJson_encode (s : Settings) : IsJson (n + 4) s.encode :=
  isJson_record s.nodup_written s.isJsonTable_written

theorem decode?_encode (s : Settings) : decode? s.encode = some s := by
  obtain ⟨fs, hfs, keeps⟩ :=
    openRecord?_of_eq fields (rfl : s.encode = _) rfl (s.isJson_encode (n := 0)) s.nodup_written
  obtain ⟨inner, hinner, hclient⟩ := innerFields?_of_eq Http.Draft.Client.fields
    (rfl : s.http.written.map (·.1) = _) (by decide)
  rw [decode?, bind_read hfs]
  simp only
  rw [bind_read (keeps.find_text "scheme" rfl),
    bind_read (keeps.find_text "path" rfl),
    bind_read (keeps.get "params" rfl
      (elim_someDict (fun _ => list?_list fun t _ => text?_str t) s.params)),
    bind_read (keeps.find_text "interval" rfl),
    bind_read (keeps.find_text "timeout" rfl),
    bind_read (keeps.get "metricRelabeling" rfl (elim_someList fun r _ => r.decode?_encode)),
    hinner, Option.bind_some, bind_read (Http.Draft.Client.ofFields?_of_keeps hclient)]
  rfl

/-- Settings are read from what the record around them leaves. -/
theorem decode?_entries (s : Settings) : decode? (map (entries (Doc.written s.written))) = some s :=
  s.decode?_encode

end Settings

namespace PortRef

@[simp] theorem isJson_encode (p : PortRef) : IsJson n p.encode := by
  cases p <;> simp [encode]

theorem decode?_encode (p : PortRef) : decode? p.encode = some p := by
  cases p with
  | name s => rfl
  | number k => exact congrArg (Option.map number) (int32?_int k)

theorem optional?_encode (p : PortRef) :
    optional? decode? p.encode = (decode? p.encode).map some := by
  cases p <;> rfl

end PortRef

namespace PodEndpoint

theorem nodup_written (e : PodEndpoint) :
    ((("port", e.port.map (·.encode)) :: e.settings.written).map (·.1)).Nodup :=
  show ("port" :: Settings.names).Nodup by decide

@[simp] theorem isJson_encode (e : PodEndpoint) : IsJson (n + 4) e.encode :=
  isJson_record e.nodup_written (by simp)

theorem decode?_encode (e : PodEndpoint) : decode? e.encode = some e := by
  have hd : e.encode = record ([("port", e.port.map (·.encode))] ++ e.settings.written) := rfl
  obtain ⟨fs, hfs, keeps⟩ :=
    openRecord?_of_eq fields hd rfl (e.isJson_encode (n := 0)) e.nodup_written
  rw [decode?, bind_read hfs]
  simp only
  rw [bind_read (keeps.find "port" rfl (fun p _ => p.decode?_encode) PortRef.optional?_encode),
    bind_read e.settings.decode?_entries]
  rfl

end PodEndpoint

namespace ProbeModule

theorem nodup_written (m : ProbeModule) :
    ((("module", some (str m.name)) :: m.settings.written).map (·.1)).Nodup :=
  show ("module" :: Settings.names).Nodup by decide

@[simp] theorem isJson_encode (m : ProbeModule) : IsJson (n + 4) m.encode :=
  isJson_record m.nodup_written (by simp)

theorem decode?_encode (m : ProbeModule) : decode? m.encode = some m := by
  have hd : m.encode = record ([("module", some (str m.name))] ++ m.settings.written) := rfl
  obtain ⟨fs, hfs, keeps⟩ :=
    openRecord?_of_eq fields hd rfl (m.isJson_encode (n := 0)) m.nodup_written
  rw [decode?, bind_read hfs]
  simp only
  rw [bind_read (keeps.need "module" rfl (text?_str m.name)), bind_read m.settings.decode?_entries]
  rfl

end ProbeModule

/-! ## Selectors -/

namespace Selector

theorem Operator.decode?_encode (op : Operator) : decode? op.encode = some op := by
  cases op <;> rfl

namespace Requirement

@[simp] theorem isJson_encode (r : Requirement) : IsJson (n + 2) r.encode :=
  isJson_record (show fields.Nodup by decide) (by simp [Operator.encode])

theorem decode?_encode (r : Requirement) : decode? r.encode = some r := by
  obtain ⟨fs, hfs, keeps⟩ := record?_of_eq fields (rfl : r.encode = _) rfl (by decide)
  rw [decode?, bind_read hfs, bind_read (keeps.need "key" rfl (text?_str r.key)),
    bind_read (keeps.need "operator" rfl r.operator.decode?_encode),
    bind_read (keeps.get_some "values" rfl (list?_list fun s _ => text?_str s))]
  rfl

end Requirement

@[simp] theorem isJson_encode (s : Selector) : IsJson (n + 4) s.encode :=
  isJson_record (show fields.Nodup by decide) (by simp)

theorem decode?_encode (s : Selector) : decode? s.encode = some s := by
  obtain ⟨fs, hfs, keeps⟩ := record?_of_eq fields (rfl : s.encode = _) rfl (by decide)
  rw [decode?, bind_read hfs,
    bind_read (keeps.get "matchLabels" rfl (elim_someDict text?_str s.matchLabels)),
    bind_read (keeps.get "matchExpressions" rfl (elim_someList fun r _ => r.decode?_encode))]
  rfl

end Selector

/-! ## Specifications -/

namespace LabelMapping

@[simp] theorem isJson_encode (m : LabelMapping) : IsJson (n + 1) m.encode :=
  isJson_record (show fields.Nodup by decide) (by simp)

theorem decode?_encode (m : LabelMapping) : decode? m.encode = some m := by
  obtain ⟨fs, hfs, keeps⟩ := record?_of_eq fields (rfl : m.encode = _) rfl (by decide)
  rw [decode?, bind_read hfs, bind_read (keeps.need "from" rfl (text?_str m.source)),
    bind_read (keeps.find_text "to" rfl)]
  rfl

end LabelMapping

namespace TargetLabels

@[simp] theorem isJson_encode (t : TargetLabels) : IsJson (n + 3) t.encode :=
  isJson_record (show fields.Nodup by decide) (by simp)

theorem decode?_encode (t : TargetLabels) : decode? t.encode = some t := by
  obtain ⟨fs, hfs, keeps⟩ := record?_of_eq fields (rfl : t.encode = _) rfl (by decide)
  rw [decode?, bind_read hfs,
    bind_read (keeps.find "metadata" rfl (fun _ _ => list?_list fun s _ => text?_str s)
      fun _ => rfl),
    bind_read (keeps.get "fromPod" rfl (elim_someList fun m _ => m.decode?_encode))]
  rfl

end TargetLabels

namespace Limits

@[simp] theorem isJson_encode (l : Limits) : IsJson (n + 1) l.encode :=
  isJson_record (show fields.Nodup by decide) (by simp)

theorem decode?_encode (l : Limits) : decode? l.encode = some l := by
  obtain ⟨fs, hfs, keeps⟩ := record?_of_eq fields (rfl : l.encode = _) rfl (by decide)
  rw [decode?, bind_read hfs, bind_read (keeps.get_some "samples" rfl (word?_word l.samples)),
    bind_read (keeps.get_some "labels" rfl (word?_word l.labels)),
    bind_read (keeps.get_some "labelNameLength" rfl (word?_word l.labelNameLength)),
    bind_read (keeps.get_some "labelValueLength" rfl (word?_word l.labelValueLength))]
  rfl

end Limits

namespace PodSpec

@[simp] theorem isJson_encode (s : PodSpec) : IsJson (n + 6) s.encode :=
  isJson_record (show fields.Nodup by decide) (by simp)

theorem decode?_encode (s : PodSpec) : decode? s.encode = some s := by
  obtain ⟨fs, hfs, keeps⟩ := record?_of_eq fields (rfl : s.encode = _) rfl (by decide)
  rw [decode?, bind_read hfs, bind_read (keeps.get_some "selector" rfl s.selector.decode?_encode),
    bind_read (keeps.need "endpoints" rfl (list?_list fun e _ => e.decode?_encode)),
    bind_read (keeps.get_some "targetLabels" rfl s.targetLabels.decode?_encode),
    bind_read (keeps.find "limits" rfl (fun l _ => l.decode?_encode) fun _ => rfl),
    bind_read (keeps.find "filterRunning" rfl (fun b _ => bool?_bool b) fun _ => rfl)]
  rfl

end PodSpec

namespace NodeSpec

@[simp] theorem isJson_encode (s : NodeSpec) : IsJson (n + 6) s.encode :=
  isJson_record (show fields.Nodup by decide) (by simp)

theorem decode?_encode (s : NodeSpec) : decode? s.encode = some s := by
  obtain ⟨fs, hfs, keeps⟩ := record?_of_eq fields (rfl : s.encode = _) rfl (by decide)
  rw [decode?, bind_read hfs,
    bind_read (keeps.find "selector" rfl (fun t _ => t.decode?_encode) fun _ => rfl),
    bind_read (keeps.need "endpoints" rfl (list?_list fun e _ => e.decode?_encode)),
    bind_read (keeps.find "limits" rfl (fun l _ => l.decode?_encode) fun _ => rfl)]
  rfl

end NodeSpec

namespace ProbeSpec

@[simp] theorem isJson_encodeProber (address : String) : IsJson (n + 1) (encodeProber address) :=
  isJson_record (show ["address"].Nodup by decide) (by simp)

theorem decodeProber?_encodeProber (address : String) :
    decodeProber? (encodeProber address) = some address := by
  obtain ⟨fs, hfs, keeps⟩ :=
    record?_of_eq ["address"] (rfl : encodeProber address = _) rfl (by decide)
  rw [decodeProber?, bind_read hfs, keeps.need "address" rfl (text?_str address)]

@[simp] theorem isJson_encode (s : ProbeSpec) : IsJson (n + 6) s.encode :=
  isJson_record (show fields.Nodup by decide) (by simp)

theorem decode?_encode (s : ProbeSpec) : decode? s.encode = some s := by
  obtain ⟨fs, hfs, keeps⟩ := record?_of_eq fields (rfl : s.encode = _) rfl (by decide)
  rw [decode?, bind_read hfs,
    bind_read (keeps.need "prober" rfl (decodeProber?_encodeProber s.prober)),
    bind_read (keeps.need "targets" rfl (list?_list fun t _ => text?_str t)),
    bind_read (keeps.need "modules" rfl (list?_list fun m _ => m.decode?_encode)),
    bind_read (keeps.find "limits" rfl (fun l _ => l.decode?_encode) fun _ => rfl)]
  rfl

end ProbeSpec

/-! ## Status -/

theorem Time.decode?_encode {t : Time} (h : parse? t.render = some t) :
    decode? t.encode = some t := by
  rw [decode?, encode, text?_str, Option.bind_some, h]

namespace Condition

theorem State.decode?_encode (s : State) : decode? s.encode = some s := by
  cases s <;> rfl

@[simp] theorem isJson_encode (c : Condition) : IsJson (n + 1) c.encode :=
  isJson_record (show fields.Nodup by decide) (by simp [State.encode, Time.encode])

theorem decode?_encode {c : Condition} (h : Time.parse? c.since.render = some c.since) :
    decode? c.encode = some c := by
  obtain ⟨fs, hfs, keeps⟩ := record?_of_eq fields (rfl : c.encode = _) rfl (by decide)
  rw [decode?, bind_read hfs, bind_read (keeps.need "type" rfl (text?_str c.type)),
    bind_read (keeps.need "status" rfl c.state.decode?_encode),
    bind_read (keeps.need "reason" rfl (text?_str c.reason)),
    bind_read (keeps.need "message" rfl (text?_str c.message)),
    bind_read (keeps.need "lastTransitionTime" rfl (Time.decode?_encode h))]
  rfl

end Condition

namespace Status

@[simp] theorem isJson_encode (s : Status) : IsJson (n + 3) s.encode :=
  isJson_record (show fields.Nodup by decide) (by simp)

/-- The times of all conditions come back from their texts. -/
def KeepsTimes (s : Status) : Prop :=
  ∀ c ∈ s.conditions, Time.parse? c.since.render = some c.since

theorem decode?_encode {s : Status} (h : s.KeepsTimes) : decode? s.encode = some s := by
  obtain ⟨fs, hfs, keeps⟩ := record?_of_eq fields (rfl : s.encode = _) rfl (by decide)
  rw [decode?, bind_read hfs,
    bind_read (keeps.find "observedGeneration" rfl (fun k _ => int64?_int k) fun _ => rfl),
    bind_read (keeps.get "conditions" rfl
      (elim_someList fun c hc => Condition.decode?_encode (h c hc)))]
  rfl

end Status

/-! ## Resources -/

namespace Metadata

@[simp] theorem isJson_encode (m : Metadata) : IsJson (n + 2) m.encode :=
  isJson_record (show fields.Nodup by decide) (by simp)

theorem decode?_encode (m : Metadata) : decode? m.encode = some m := by
  obtain ⟨fs, hfs, keeps⟩ := record?_of_eq fields (rfl : m.encode = _) rfl (by decide)
  change (m.encode.record? fields >>= _) = some m
  rw [bind_read hfs,
    bind_read (keeps.find "generation" rfl (fun k _ => int64?_int k) fun _ => rfl),
    bind_read (keeps.find "labels" rfl (fun d _ => dict?_dict text?_str d) fun _ => rfl),
    bind_read (keeps.find_text "name" rfl),
    bind_read (keeps.find_text "namespace" rfl)]
  rfl

end Metadata

namespace Target

@[simp] theorem isJson_encode (t : Target) : IsJson (n + 6) t.encode := by
  cases t <;> simp [encode]

theorem decode?_encode (t : Target) : decode? t.kind t.encode = some t := by
  cases t with
  | pod s => exact congrArg (Option.map pod) s.decode?_encode
  | clusterPod s => exact congrArg (Option.map clusterPod) s.decode?_encode
  | clusterNode s => exact congrArg (Option.map clusterNode) s.decode?_encode
  | probe s => exact congrArg (Option.map probe) s.decode?_encode

end Target

namespace Resource

theorem nodup_written (r : Resource) : ([
    ("apiVersion", some (str Kind.apiVersion)), ("kind", some (str r.kind.name)),
    ("metadata", some r.metadata.encode), ("spec", some r.target.encode),
    ("status", r.status.map (·.encode))].map (·.1)).Nodup :=
  show ["apiVersion", "kind", "metadata", "spec", "status"].Nodup by decide

theorem isJson_encode (r : Resource) : IsJson (n + 7) r.encode :=
  isJson_record r.nodup_written (by simp)

theorem ofName?_name (k : Kind) : Kind.ofName? k.name = some k := by
  cases k <;> rfl

theorem kind?_encode (r : Resource) : kind? r.encode = some r.kind :=
  ofName?_name r.kind

/-- The times of the status come back from their texts. -/
def KeepsTimes (r : Resource) : Prop := ∀ s ∈ r.status, s.KeepsTimes

theorem decode?_encode {r : Resource} (h : r.KeepsTimes) : decode? r.encode = some r := by
  have hd : r.encode = record ([("apiVersion", some (str Kind.apiVersion)),
      ("kind", some (str r.kind.name))] ++ [("metadata", some r.metadata.encode),
      ("spec", some r.target.encode), ("status", r.status.map (·.encode))]) := rfl
  obtain ⟨fs, hfs, keeps⟩ := record?_of_append fields hd rfl r.nodup_written
  rw [decode?, bind_read r.kind?_encode, decodeAs?, bind_read hfs,
    bind_read (keeps.need "metadata" rfl r.metadata.decode?_encode),
    bind_read (keeps.need "spec" rfl
      (show Target.decode? r.kind r.target.encode = some r.target from r.target.decode?_encode)),
    bind_read (keeps.find "status" rfl (fun s hs => Status.decode?_encode (h s hs)) fun _ => rfl)]
  rfl

/-! ## Texts -/

/-- The JSON text of a resource. -/
def toJson (r : Resource) : String := r.encode.toJson

/-- Reads a resource from a JSON text. -/
def ofJson? (text : String) : Option Resource := (Doc.ofJson? text).bind decode?

/-- What is written again of the resource that a JSON text holds. -/
def rewrite? (text : String) : Option String := (ofJson? text).map toJson

theorem ofJson?_toJson {r : Resource} (h : r.KeepsTimes) : ofJson? r.toJson = some r := by
  have hread : Doc.ofJson? r.encode.toJson = some r.encode := Doc.ofJson?_toJson r.isJson_encode
  rw [ofJson?, toJson, hread, Option.bind_some, decode?_encode h]

/-- A resource is read from its JSON text as it was. So what is written of a text that holds it
is written once more from itself, and no other resource has the same text. -/
theorem json_roundTrip {r : Resource} (h : r.KeepsTimes) :
    ofJson? r.toJson = some r ∧
      (∀ text, ofJson? text = some r → (rewrite? text).bind rewrite? = rewrite? text) ∧
      ∀ r' : Resource, r'.KeepsTimes → r'.toJson = r.toJson → r' = r := by
  have hread := ofJson?_toJson h
  refine ⟨hread, fun text htext => ?_, fun r' h' heq => ?_⟩
  · have hrewrite : rewrite? text = some r.toJson := by rw [rewrite?, htext, Option.map_some]
    rw [hrewrite, Option.bind_some, rewrite?, hread, Option.map_some]
  · have hread' := ofJson?_toJson h'
    rw [heq, hread] at hread'
    exact (Option.some.inj hread').symm

end Resource

namespace Sample

/-- A resource that was compiled; it copies no metadata and has a limit for samples only. -/
def compiled : Resource where
  metadata := { name := some "web", inNamespace := some "shop.a", generation := some 3 }
  target := .pod {
    endpoints := [{ port := some (.name "http") }, { port := some (.number (-1)) }]
    targetLabels := { metadata := some [] }
    limits := some { samples := 500 } }
  status := some {
    observedGeneration := some 3
    conditions := [{
      type := Condition.compiledType, state := .yes, reason := "Compiled", message := ""
      since := { seconds := 1704067200, nanos := 250000000 } }] }

theorem keepsTimes_compiled : compiled.KeepsTimes := by
  intro s hs
  cases hs
  intro c hc
  rw [List.mem_singleton.mp hc]
  decide

theorem json_roundTrip_compiled : compiled.KeepsTimes ∧
    Resource.ofJson? compiled.toJson = some compiled :=
  ⟨keepsTimes_compiled, (Resource.json_roundTrip keepsTimes_compiled).1⟩

end Sample

end ScrapeJobs
