import MapIngest.Engine.Basic
import MapIngest.Engine.Plugin

/-!
# Launching an engine

An engine is launched by loading it and handing it its parameters, once.  The
engine is kept from the moment it is loaded, so that it is there also when it
refuses the parameters.
-/

namespace MapIngest.PluginHost

variable {μ κ ε : Type}

/-- Load the engine with a name and hand it its parameters. -/
def launch (host : PluginHost μ κ ε) (engine : MapEngine ε) (text : String)
    (params : Config.EngineParams) : Act (Option ε) ε := do
  let loaded ← Act.ofExcept (host.load text)
  let (outcome, configured) := engine.setParameters params loaded
  Act.modify fun _ => some configured
  Act.ofExcept (outcome.map fun _ => configured)

end MapIngest.PluginHost
