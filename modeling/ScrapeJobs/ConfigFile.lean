import ScrapeJobs.Job.Codec
import ScrapeJobs.Platform
import ScrapeJobs.Yaml.Layout
import ScrapeJobs.Yaml.Reading

/-!
# Configuration files

The YAML texts of jobs, of the configuration of a collector and of the platform. A text
that is no document, or no document of the kind, is an error of its own; what is read is
then filled in and checked.
-/

namespace ScrapeJobs

namespace Job

def toYaml (j : Job) : String := j.encode.toYaml

def ofYaml (text : String) : Except ConfigError Job :=
  (Doc.ofYaml? text).elim (.error .yaml) load

end Job

namespace Config

def toYaml (c : Config) : String := c.encode.toYaml

def ofYaml (text : String) : Except ConfigError Config :=
  (Doc.ofYaml? text).elim (.error .yaml) load

end Config

def Platform.ofYaml (text : String) : Except Platform.Fault Platform :=
  (Doc.ofYaml? text).elim (.error .document) load

end ScrapeJobs
