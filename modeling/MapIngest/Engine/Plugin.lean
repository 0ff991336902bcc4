import MapIngest.Fault.Basic

/-!
# Loading an engine

An engine is named by a module and a member of it, with a colon between them.
The host of plugins is asked, in this order, for the module, for the member,
whether the member is an engine, and for an instance.  A module that is not
there, a member that is not there, and an instance that cannot be made for want
of arguments are reported as failures to load; everything else that the host
raises is passed on.
-/

namespace MapIngest

/-- What the host of plugins answers. -/
structure PluginHost (μ κ ε : Type) where
  /-- The module with a name. -/
  moduleNamed : String → Except Fault μ
  /-- The member of a module with a name. -/
  member : μ → String → Except Fault κ
  /-- Whether a member is a class of engines. -/
  isEngine : κ → Bool
  /-- Make an instance without arguments. -/
  construct : κ → Except Fault ε

/-- The name of an engine. -/
structure EngineSpec where
  moduleName : String
  memberName : String
deriving DecidableEq, Repr

/-- Read the name of an engine: it is cut at the first colon, and both parts are there. -/
def EngineSpec.ofText (text : String) : Except Fault EngineSpec :=
  let name := text.toList.takeWhile (· != ':')
  match text.toList.dropWhile (· != ':') with
  | _ :: member =>
    if name.isEmpty || member.isEmpty then
      .error (.engineSpec text)
    else
      .ok ⟨String.ofList name, String.ofList member⟩
  | [] => .error (.engineSpec text)

/-- Report failures of certain kinds in other words. -/
def reword {α : Type} (outcome : Except Fault α) (caught : Kind → Bool) (words : Fault → Fault) :
    Except Fault α :=
  match outcome with
  | .ok value => .ok value
  | .error fault => if caught fault.kind then .error (words fault) else .error fault

namespace PluginHost

variable {μ κ ε : Type}

/-- Find the member that an engine's name stands for. -/
def resolve (host : PluginHost μ κ ε) (spec : EngineSpec) : Except Fault κ := do
  let found ← reword (host.moduleNamed spec.moduleName) Kind.isImport fun fault =>
    .engineModule spec.moduleName fault.text
  reword (host.member found spec.memberName) (· = .attribute) fun _ =>
    .engineMember spec.moduleName spec.memberName

/-- Load the engine with a name. -/
def load (host : PluginHost μ κ ε) (text : String) : Except Fault ε := do
  let spec ← EngineSpec.ofText text
  let found ← host.resolve spec
  if host.isEngine found then
    reword (host.construct found) (· = .type) fun fault => .engineConstruction text fault.text
  else
    throw (.engineClass text)

end PluginHost

end MapIngest
