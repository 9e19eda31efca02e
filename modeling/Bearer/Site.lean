import Bearer.Password.Verify
import Bearer.Service
import Bearer.Store.Memory

/-!
# A site

Everything that programs act on: the clock, the store, the directory of users and the counters. A
program is run against a site at the time of its clock.
-/

namespace Bearer

/-- The clock, the store, the directory of users and the counters. -/
structure Site where
  /-- The time on the clock. -/
  now : Time
  store : Store.Memory
  /-- The directory of users. -/
  directory : Directory
  metrics : Metrics

namespace Site

/-- Performs an effect. There is no reply when the effect aborts the program. -/
def respond : (effect : Effect) → Site → Option effect.Reply × Site
  | .store call, site =>
    let (reply, store) := site.store.perform site.now call
    (reply, { site with store })
  | .findUser email, site => (some (site.directory.find email), site)
  | .checkPassword password stored, site => (some (Password.verifyStored password stored), site)
  | .note event, site => (some (), { site with metrics := site.metrics.add event })
  | .readMetrics, site => (some site.metrics, site)

/-- Runs a program. -/
def run {α : Type} (site : Site) (program : Program α) : Program.Run Site α :=
  program.run respond site

def advance (site : Site) (span : Duration) : Site := { site with now := site.now.add span }

end Site
end Bearer
