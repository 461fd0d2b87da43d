import ScrapeJobs.Proofs.Compiler.Emits
import ScrapeJobs.Proofs.Job.Registry

/-!
# Configurations that load as they were written

The jobs of a batch have distinct names, since the registry holds them all
(`Compiler.holds_addResource`). Every job passes the check of a collector and leaves nothing to it.
So the configuration of a batch is loaded as it was written (`Compiler.ofYaml_config`).
-/

namespace ScrapeJobs

open Outcome

namespace Compiler

variable {c : Compiler} {rs : List Resource}

/-! ## Names of jobs -/

/-- A registry of a batch goes on to hold the names of its jobs. -/
theorem holds_addResource {acc : Batch × Registry} (h : acc.2.Holds (acc.1.jobs.map (·.name)))
    (r : Resource) :
    (c.addResource acc r).2.Holds ((c.addResource acc r).1.jobs.map (·.name)) := by
  unfold Compiler.addResource
  simp only
  split
  · rename_i compiled names henroll
    obtain ⟨-, hnames⟩ := enroll_eq_ok henroll
    rw [List.map_append]
    exact h.register hnames
  · exact h

theorem holds_foldl {acc : Batch × Registry} (h : acc.2.Holds (acc.1.jobs.map (·.name))) :
    (rs.foldl c.addResource acc).2.Holds ((rs.foldl c.addResource acc).1.jobs.map (·.name)) := by
  induction rs generalizing acc with
  | nil => exact h
  | cons r rest ih => exact ih (holds_addResource h r)

/-- No two jobs of a batch have one name. -/
theorem nodup_names (c : Compiler) (rs : List Resource) :
    ((c.compile rs).jobs.map (·.name)).Nodup := by
  have hempty : (({}, {}) : Batch × Registry).2.Holds
      ((({}, {}) : Batch × Registry).1.jobs.map (·.name)) := Registry.holds_empty
  exact (holds_foldl hempty).nodup

/-- A collector takes each job of a batch as it is. -/
theorem check_of_mem_jobs {j : Job} (h : j ∈ (c.compile rs).jobs) :
    j.normalize = j ∧ j.check = .ok () := by
  obtain ⟨r, -, i, e, hemits⟩ := exists_emits_of_mem_jobs h
  obtain ⟨ctx, -, hjob⟩ := hemits.exists_context
  exact ⟨hjob.normalized, hjob.check_eq_ok⟩

end Compiler

/-! ## Configurations -/

namespace Config

open Doc

theorem reads : Reads Config.encode Config.decode? := by
  intro c e h
  have hnodup : ([("scrape_configs", some (list Job.encode c.jobs))].map (·.1)).Nodup :=
    show Config.fields.Nodup by decide
  obtain ⟨fs, hfs, has⟩ := record?_of_readsAs fields hnodup h
  rw [decode?, bind_read hfs,
    bind_read (has.get "scrape_configs" (Job.reads.list.gives c.jobs []))]
  rfl

/-- Jobs that leave nothing to a collector and have distinct names come out as they are. -/
theorem checkJobs_eq_ok {names : List String} {jobs : List Job}
    (hjobs : ∀ j ∈ jobs, j.normalize = j ∧ j.check = .ok ())
    (hnodup : (jobs.map (·.name)).Nodup) (hnew : ∀ j ∈ jobs, j.name ∉ names) :
    checkJobs names jobs = .ok jobs := by
  induction jobs generalizing names with
  | nil => rfl
  | cons j rest ih =>
    obtain ⟨hnormal, hcheck⟩ := hjobs j List.mem_cons_self
    obtain ⟨hname, hrest⟩ := List.nodup_cons.mp hnodup
    have hchecked : checkJobs (j.name :: names) rest = .ok rest := by
      refine ih (fun k hk => hjobs k (List.mem_cons_of_mem _ hk)) hrest fun k hk hmem => ?_
      rcases List.mem_cons.mp hmem with heq | hmem
      · exact hname (List.mem_map.mpr ⟨k, hk, heq⟩)
      · exact hnew k (List.mem_cons_of_mem _ hk) hmem
    rw [checkJobs]
    simp only [hnormal, hcheck, if_neg (hnew j List.mem_cons_self), hchecked]
    rfl

end Config

namespace Compiler

/-- The configuration of a batch is what a collector makes of it. -/
theorem check_config (c : Compiler) (rs : List Resource) :
    (c.compile rs).config.check = .ok (c.compile rs).config := by
  have hjobs : Config.checkJobs [] (c.compile rs).config.jobs = .ok (c.compile rs).config.jobs :=
    Config.checkJobs_eq_ok (fun _ hj => check_of_mem_jobs hj) (nodup_names c rs)
      fun _ _ => List.not_mem_nil
  rw [Config.check, hjobs]
  rfl

/-- Each job of a batch is as a collector takes it, and the text of the batch is read as its
configuration, with the same jobs in the same order. -/
theorem ofYaml_config (c : Compiler) (rs : List Resource) :
    (∀ j ∈ (c.compile rs).jobs, j.normalize = j ∧ j.check = .ok ()) ∧
      ((c.compile rs).config.encode.ReadsBack (Doc.ofYaml? (c.compile rs).config.toYaml) →
        Config.ofYaml (c.compile rs).config.toYaml = .ok ⟨(c.compile rs).jobs⟩) := by
  refine ⟨fun j hj => check_of_mem_jobs hj, fun h => ?_⟩
  obtain ⟨d, hd, hread⟩ := h
  rw [Config.ofYaml, hd, Option.elim_some, Config.load, Config.reads _ d hread]
  exact check_config c rs

end Compiler

namespace Sample

/-- A resource for all nodes, which are talked to with the service account. -/
def nodes : Resource where
  metadata := { name := some "n" }
  target := .clusterNode { endpoints := [.every "30s"] }

theorem ofYaml_config_nodes :
    (compiler.compile [nodes]).jobs ≠ [] ∧
      Config.ofYaml (compiler.compile [nodes]).config.toYaml =
        .ok ⟨(compiler.compile [nodes]).jobs⟩ := by
  refine ⟨by decide +kernel, (Compiler.ofYaml_config compiler [nodes]).2 ?_⟩
  rw [Config.toYaml, Doc.ofYaml?_toYaml]
  decide +kernel

end Sample

end ScrapeJobs
