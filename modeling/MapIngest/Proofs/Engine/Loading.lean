import Mathlib.Data.List.TakeWhile
import MapIngest.Engine.Launch
import MapIngest.Proofs.Act
import MapIngest.Proofs.Fallible
import MapIngest.Proofs.Transcript
import MapIngest.Rehearsal.Catalogue

/-!
# What loading an engine comes to

An engine is loaded if its name can be read and each of the steps of loading goes well:
the module is there, it has the member, the member is a class of engines, and an instance
of it can be made.  Launching then hands the parameters to that instance, once.

Everything that goes wrong before that is meant to be reported as one kind of failure.
Each step catches failures of one sort only, and each step a different one: a module that
is not there, a member that is not there, an instance that cannot be made for want of
arguments.  Any other failure of a step is passed on.  This file proves that nothing else
is passed on, and that no engine is given parameters unless it was loaded.
-/

namespace MapIngest

/-! ## Names of engines -/

/-- A text spells a name: two parts, neither of them empty, and between them the first colon. -/
structure EngineSpec.Spells (text : String) (spec : EngineSpec) : Prop where
  cut : text.toList = spec.moduleName.toList ++ ':' :: spec.memberName.toList
  first : ':' ∉ spec.moduleName.toList
  moduleName : spec.moduleName ≠ ""
  memberName : spec.memberName ≠ ""

namespace EngineSpec

/-- A name is read exactly if the text spells it. -/
theorem ofText_eq_ok_iff {text : String} {spec : EngineSpec} :
    ofText text = .ok spec ↔ Spells text spec := by
  constructor
  · intro read
    rw [ofText] at read
    have whole := List.takeWhile_append_dropWhile (p := (· != ':')) (l := text.toList)
    cases rest : text.toList.dropWhile (· != ':') with
    | nil =>
        rw [rest] at read
        cases read
    | cons mark member =>
        have colon := List.head_dropWhile_not (· != ':') (l := text.toList) (by simp [rest])
        simp only [rest, List.head_cons, bne_eq_false_iff_eq] at colon
        subst colon
        rw [rest] at read whole
        dsimp only at read
        split at read
        · cases read
        next filled =>
          cases read
          simp only [Bool.or_eq_true, List.isEmpty_iff, not_or] at filled
          refine ⟨?_, ?_, ?_, ?_⟩
          · rw [String.toList_ofList, String.toList_ofList, whole]
          · intro inside
            rw [String.toList_ofList] at inside
            simpa using List.mem_takeWhile_imp inside
          · rw [Ne, ← String.toList_eq_nil_iff, String.toList_ofList]
            exact filled.1
          · rw [Ne, ← String.toList_eq_nil_iff, String.toList_ofList]
            exact filled.2
  · rintro ⟨cut, first, module, member⟩
    have letters : ∀ c ∈ spec.moduleName.toList, (c != ':') = true := by
      rintro c inside
      exact bne_iff_ne.mpr fun colon => first (colon ▸ inside)
    rw [Ne, ← String.toList_eq_nil_iff] at module member
    simp [ofText, cut, List.takeWhile_append_of_pos letters,
      List.dropWhile_append_of_pos letters, module, member]

/-- A text that spells no name is reported. -/
theorem kind_of_ofText {text : String} {fault : Fault} (refused : ofText text = .error fault) :
    fault.kind = .plugin := by
  rw [ofText] at refused
  split at refused
  · split at refused
    · cases refused
      rfl
    · cases refused
  · cases refused
    rfl

end EngineSpec

/-! ## Failures in other words -/

section Reword

variable {α : Type} {outcome : Except Fault α} {caught : Kind → Bool} {words : Fault → Fault}

theorem reword_eq_ok_iff {value : α} :
    reword outcome caught words = .ok value ↔ outcome = .ok value := by
  cases outcome with
  | ok found => exact Iff.rfl
  | error fault =>
      rw [reword]
      split <;> exact iff_of_false (by rintro ⟨⟩) (by rintro ⟨⟩)

/-- A failure that is not caught is passed on. -/
theorem reword_of_missed {fault : Fault} (failed : outcome = .error fault)
    (missed : caught fault.kind = false) : reword outcome caught words = .error fault := by
  rw [failed, reword, if_neg (by simp [missed])]

/-- If all is reported as failures to load that is caught, the rest is passed on. -/
theorem kind_of_reword {fault : Fault} (reported : ∀ cause, (words cause).kind = .plugin)
    (failed : reword outcome caught words = .error fault) :
    fault.kind = .plugin ∨ outcome = .error fault ∧ caught fault.kind = false := by
  cases outcome with
  | ok value => cases failed
  | error cause =>
      rw [reword] at failed
      split at failed
      · cases failed
        exact Or.inl (reported cause)
      next missed =>
        cases failed
        exact Or.inr ⟨rfl, by simpa using missed⟩

end Reword

/-! ## The steps of loading -/

/-- The steps of loading in which the host of plugins may fail. -/
inductive LoadingStep where
  | importing
  | lookup
  | construction

/-- The kinds of failures of a step that are reported as failures to load. -/
def LoadingStep.reports : LoadingStep → Kind → Bool
  | .importing, kind => kind.isImport
  | .lookup, kind => kind = .attribute
  | .construction, kind => kind = .type

namespace PluginHost

variable {μ κ ε : Type} (host : PluginHost μ κ ε)

/-- The member that a name stands for is there. -/
def Finds (spec : EngineSpec) (member : κ) : Prop :=
  ∃ found, host.moduleNamed spec.moduleName = .ok found ∧
    host.member found spec.memberName = .ok member

/-- A text names a class of engines, and this is an instance of it. -/
def Makes (text : String) (made : ε) : Prop :=
  ∃ spec member, EngineSpec.Spells text spec ∧ host.Finds spec member ∧
    host.isEngine member = true ∧ host.construct member = .ok made

/-- A step of loading fails, and the steps before it have gone well. -/
inductive Fails (spec : EngineSpec) : LoadingStep → Fault → Prop where
  | importing {fault : Fault} (failed : host.moduleNamed spec.moduleName = .error fault) :
      Fails spec .importing fault
  | lookup {found : μ} {fault : Fault} (imported : host.moduleNamed spec.moduleName = .ok found)
      (failed : host.member found spec.memberName = .error fault) : Fails spec .lookup fault
  | construction {member : κ} {fault : Fault} (found : host.Finds spec member)
      (engine : host.isEngine member = true) (failed : host.construct member = .error fault) :
      Fails spec .construction fault

/-- A failure escapes: the step that it happens in does not report failures of its kind. -/
def Escapes (text : String) (fault : Fault) : Prop :=
  ∃ spec step, EngineSpec.Spells text spec ∧ host.Fails spec step fault ∧
    step.reports fault.kind = false

theorem resolve_eq_ok_iff {spec : EngineSpec} {member : κ} :
    host.resolve spec = .ok member ↔ host.Finds spec member := by
  simp only [resolve, bind_eq_ok, reword_eq_ok_iff, Finds]

theorem resolve_of_escapes {spec : EngineSpec} {step : LoadingStep} {fault : Fault}
    (failed : host.Fails spec step fault) (missed : step.reports fault.kind = false)
    (early : step ≠ .construction) : host.resolve spec = .error fault := by
  rw [resolve, bind_eq_error]
  cases failed with
  | importing failed => exact Or.inl (reword_of_missed failed missed)
  | lookup imported failed =>
      exact Or.inr ⟨_, reword_eq_ok_iff.mpr imported, reword_of_missed failed missed⟩
  | construction => exact (early rfl).elim

theorem kind_of_resolve {spec : EngineSpec} {fault : Fault}
    (failed : host.resolve spec = .error fault) :
    fault.kind = .plugin ∨
      ∃ step, host.Fails spec step fault ∧ step.reports fault.kind = false := by
  rw [resolve, bind_eq_error] at failed
  rcases failed with failed | ⟨found, imported, failed⟩
  · rcases kind_of_reword (fun _ => rfl) failed with kind | ⟨failed, missed⟩
    · exact Or.inl kind
    · exact Or.inr ⟨.importing, .importing failed, missed⟩
  · rcases kind_of_reword (fun _ => rfl) failed with kind | ⟨failed, missed⟩
    · exact Or.inl kind
    · exact Or.inr ⟨.lookup, .lookup (reword_eq_ok_iff.mp imported) failed, missed⟩

/-- An engine is loaded exactly if it is an instance of the class that is named. -/
theorem load_eq_ok_iff {text : String} {made : ε} :
    host.load text = .ok made ↔ host.Makes text made := by
  simp only [load, bind_eq_ok, EngineSpec.ofText_eq_ok_iff, resolve_eq_ok_iff]
  constructor
  · rintro ⟨spec, spelt, member, found, returned⟩
    split at returned
    next engine => exact ⟨spec, member, spelt, found, engine, reword_eq_ok_iff.mp returned⟩
    next => cases returned
  · rintro ⟨spec, member, spelt, found, engine, constructed⟩
    refine ⟨spec, spelt, member, found, ?_⟩
    rw [if_pos engine]
    exact reword_eq_ok_iff.mpr constructed

theorem load_of_escapes {text : String} {fault : Fault} (escapes : host.Escapes text fault) :
    host.load text = .error fault := by
  rcases escapes with ⟨spec, step, spelt, failed, missed⟩
  rw [load, EngineSpec.ofText_eq_ok_iff.mpr spelt, ok_bind, bind_eq_error]
  cases failed with
  | importing failed =>
      exact Or.inl (host.resolve_of_escapes (.importing failed) missed (by rintro ⟨⟩))
  | lookup imported failed =>
      exact Or.inl (host.resolve_of_escapes (.lookup imported failed) missed (by rintro ⟨⟩))
  | construction found engine failed =>
      refine Or.inr ⟨_, host.resolve_eq_ok_iff.mpr found, ?_⟩
      rw [if_pos engine]
      exact reword_of_missed failed missed

/-- A failure of loading is reported as one, unless it escapes. -/
theorem kind_of_load {text : String} {fault : Fault} (failed : host.load text = .error fault) :
    fault.kind = .plugin ∨ host.Escapes text fault := by
  rw [load, bind_eq_error] at failed
  rcases failed with unread | ⟨spec, read, failed⟩
  · exact Or.inl (EngineSpec.kind_of_ofText unread)
  · have spelt := EngineSpec.ofText_eq_ok_iff.mp read
    rcases bind_eq_error.mp failed with failed | ⟨member, resolved, failed⟩
    · rcases host.kind_of_resolve failed with kind | ⟨step, failed, missed⟩
      · exact Or.inl kind
      · exact Or.inr ⟨spec, step, spelt, failed, missed⟩
    · have found := host.resolve_eq_ok_iff.mp resolved
      split at failed
      next engine =>
        rcases kind_of_reword (fun _ => rfl) failed with kind | ⟨failed, missed⟩
        · exact Or.inl kind
        · exact Or.inr ⟨spec, .construction, spelt, .construction found engine failed, missed⟩
      next =>
        cases failed
        exact Or.inl rfl

/-! ## Launching -/

section Launching

variable (engine : MapEngine ε) {text : String} (params : Config.EngineParams)
  (held : Option ε)

/-- Without an engine nothing happens. -/
theorem run_launch_unloaded {fault : Fault} (failed : host.load text = .error fault) :
    (host.launch engine text params).run held = ⟨.error fault, held, []⟩ := by
  simp [launch, failed]

/-- An engine that is loaded is given the parameters. -/
theorem run_launch_loaded {made : ε} (loaded : host.load text = .ok made) :
    (host.launch engine text params).run held =
      ⟨(engine.setParameters params made).1.map fun _ => (engine.setParameters params made).2,
        some (engine.setParameters params made).2, []⟩ := by
  cases answer : (engine.setParameters params made).1 with
  | error fault => simp [launch, loaded, answer, Except.map]
  | ok done => simp [launch, loaded, answer, Except.map]

theorem launch_eq_ok_iff {launched : ε} :
    ((host.launch engine text params).run held).result = .ok launched ↔
      ∃ made, host.Makes text made ∧ engine.setParameters params made = (.ok (), launched) := by
  simp only [← load_eq_ok_iff]
  cases loaded : host.load text with
  | error fault => simp [host.run_launch_unloaded engine params held loaded]
  | ok made =>
      rw [host.run_launch_loaded engine params held loaded]
      rcases given : engine.setParameters params made with ⟨answer, after⟩
      cases answer <;> simp [given, Except.map]

/-- A launch that fails had no engine, or one that refused the parameters. -/
theorem launch_eq_error {fault : Fault}
    (failed : ((host.launch engine text params).run held).result = .error fault) :
    (∀ made, ¬ host.Makes text made) ∧
        ((host.launch engine text params).run held).state = held ∧
        (fault.kind = .plugin ∨ host.Escapes text fault) ∨
      ∃ made, host.Makes text made ∧ (engine.setParameters params made).1 = .error fault := by
  simp only [← load_eq_ok_iff]
  cases loaded : host.load text with
  | error cause =>
      rw [host.run_launch_unloaded engine params held loaded] at failed ⊢
      cases failed
      exact Or.inl ⟨by rintro made ⟨⟩, rfl, host.kind_of_load loaded⟩
  | ok made =>
      rw [host.run_launch_loaded engine params held loaded] at failed
      refine Or.inr ⟨made, rfl, ?_⟩
      cases answer : (engine.setParameters params made).1 with
      | error refusal =>
          rw [answer] at failed
          exact congrArg Except.error (Except.error.inj failed)
      | ok done =>
          rw [answer] at failed
          cases failed

end Launching

/-- The same host; the engines that it makes keep a transcript. -/
def recorded : PluginHost μ κ (Recorded ε EngineExchange) where
  moduleNamed := host.moduleNamed
  member := host.member
  isEngine := host.isEngine
  construct member := (host.construct member).map fun made => ⟨made, []⟩

/-- An engine that has just been made was asked for nothing. -/
theorem transcript_of_makes {text : String} {made : Recorded ε EngineExchange}
    (makes : host.recorded.Makes text made) : made.transcript = [] := by
  rcases makes with ⟨spec, member, -, -, -, constructed⟩
  simp only [recorded] at constructed
  cases bare : host.construct member with
  | error fault =>
      rw [bare] at constructed
      cases constructed
  | ok inner =>
      rw [bare] at constructed
      cases constructed
      rfl

/--
A launch returns exactly if the text names a class of engines, an instance of it can be
made, and that instance takes the parameters; it returns the instance as it is after that,
and has asked it for nothing else.  A launch that fails has made no instance and leaves
things as they were, unless the instance refused the parameters; and it fails with a
failure to load, or with one that escapes.  A failure that escapes is always what the
launch fails with.
-/
theorem launched_or_reported (engine : MapEngine ε) (text : String)
    (params : Config.EngineParams) (held : Option ε) :
    let outcome := (host.launch engine text params).run held
    (∀ launched, outcome.result = .ok launched ↔
      ∃ made, host.Makes text made ∧ engine.setParameters params made = (.ok (), launched)) ∧
    (∀ fault, outcome.result = .error fault →
      (∀ made, ¬ host.Makes text made) ∧ outcome.state = held ∧
          (fault.kind = .plugin ∨ host.Escapes text fault) ∨
        ∃ made, host.Makes text made ∧ (engine.setParameters params made).1 = .error fault) ∧
    (∀ fault, host.Escapes text fault → outcome.result = .error fault) ∧
    ∀ launched,
      ((host.recorded.launch engine.recorded text params).run none).result = .ok launched →
        launched.transcript = [.setParameters params (.ok ())] := by
  intro outcome
  refine ⟨fun launched => host.launch_eq_ok_iff engine params held,
    fun fault => host.launch_eq_error engine params held, ?_, ?_⟩
  · intro fault escapes
    exact congrArg Outcome.result
      (host.run_launch_unloaded engine params held (host.load_of_escapes escapes))
  · intro launched returned
    rcases (host.recorded.launch_eq_ok_iff engine.recorded params none).mp returned
      with ⟨made, makes, given⟩
    have asked : launched.transcript =
        made.transcript ++ [.setParameters params (engine.setParameters params made.inner).1] :=
      congrArg (fun answered => answered.2.transcript) given.symm
    have accepted : (engine.setParameters params made.inner).1 = .ok () :=
      congrArg Prod.fst given
    rw [asked, host.transcript_of_makes makes, accepted]
    rfl

end PluginHost

/-! ## Failures that escape -/

namespace Rehearsal

/-- A class of engines that cannot be made, for another reason than its arguments. -/
def fragileClass : Member :=
  .engineClass "Fragile" (some (.raised .value "constructor failed"))

/-- The classes of a module. -/
def sampleMembers : Members :=
  [("Plain", .engineClass "Plain" none), ("Fragile", fragileClass)]

/-- The host of plugins that has one module. -/
def sampleHost : PluginHost Members Member ScriptedEngine :=
  Catalogue.host [("engines", sampleMembers)] {}

theorem sampleHost_engines : sampleHost.moduleNamed "engines" = .ok sampleMembers := rfl

/-- A class that can be made. -/
theorem plain_makes : sampleHost.Makes "engines:Plain" { title := "Plain" } := by
  have spelt : EngineSpec.Spells "engines:Plain" ⟨"engines", "Plain"⟩ :=
    ⟨by decide, by decide, by decide, by decide⟩
  have found : sampleHost.member sampleMembers "Plain" = .ok (.engineClass "Plain" none) := rfl
  exact ⟨_, _, spelt, ⟨_, sampleHost_engines, found⟩, rfl, rfl⟩

/-- A name that begins with a dot has no module to start from, and this is not reported. -/
theorem relative_escapes : sampleHost.Escapes ".engines:Plain" (.conversion .relativeName) := by
  have spelt : EngineSpec.Spells ".engines:Plain" ⟨".engines", "Plain"⟩ :=
    ⟨by decide, by decide, by decide, by decide⟩
  have failed : sampleHost.moduleNamed ".engines" = .error (.conversion .relativeName) := rfl
  exact ⟨_, .importing, spelt, .importing failed, rfl⟩

/-- A class that fails is not reported either. -/
theorem fragile_escapes :
    sampleHost.Escapes "engines:Fragile" (.raised .value "constructor failed") := by
  have spelt : EngineSpec.Spells "engines:Fragile" ⟨"engines", "Fragile"⟩ :=
    ⟨by decide, by decide, by decide, by decide⟩
  have found : sampleHost.member sampleMembers "Fragile" = .ok fragileClass := rfl
  exact ⟨_, .construction, spelt, .construction ⟨_, sampleHost_engines, found⟩ rfl rfl, rfl⟩

/-- Both failures are what a launch fails with, and neither is a failure to load. -/
theorem two_failures_unreported :
    let outcome := fun text => (sampleHost.launch ScriptedEngine.mapEngine text {}).run none
    (outcome ".engines:Plain").result = .error (.conversion .relativeName) ∧
      (outcome "engines:Fragile").result = .error (.raised .value "constructor failed") ∧
      ¬ ∀ text fault, (outcome text).result = .error fault → fault.kind = .plugin := by
  intro outcome
  have passedOn : ∀ text fault, sampleHost.Escapes text fault →
      (outcome text).result = .error fault := fun text fault escapes =>
    congrArg Outcome.result
      (sampleHost.run_launch_unloaded _ _ _ (sampleHost.load_of_escapes escapes))
  refine ⟨passedOn _ _ relative_escapes, passedOn _ _ fragile_escapes, fun reported => ?_⟩
  cases reported _ _ (passedOn _ _ relative_escapes)

end Rehearsal

end MapIngest
