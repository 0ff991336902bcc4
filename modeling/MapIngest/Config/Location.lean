import MapIngest.Config.Path
import MapIngest.Config.Shipped
import MapIngest.Fault.Basic

/-!
# Where the shipped configuration is

The share directory of an installation is asked for first.  If it is unknown,
or if nobody can be asked, the configuration beside the sources is taken.
Any other failure of the question is passed on.
-/

namespace MapIngest.Config

/-- The name under which the program is installed. -/
def packageName : String := "octomap_world"

/-- Whether a failed question for the share directory means that it is unknown. -/
def isUnknownShare (fault : Fault) : Bool :=
  fault.kind.isLookup || fault.kind.isImport

/-- The path of the shipped configuration, given the answer to the question for the share. -/
def defaultPath (share : Except Fault String) (sources : Path) : Except Fault Path :=
  match share with
  | .ok directory => .ok ((Path.ofText directory).append shippedSteps)
  | .error fault =>
    if isUnknownShare fault then .ok (sources.append shippedSteps) else .error fault

end MapIngest.Config
