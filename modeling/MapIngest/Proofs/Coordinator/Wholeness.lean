import MapIngest.Proofs.Coordinator.Publication

/-!
# Whole and broken publications

The markers are published as soon as the engine has given them, and only then the engine
is asked for the two maps.  An engine that breaks off in between, by failing to give one
of the maps, leaves the markers published and the maps not.  In all other cases a
publication sends everything or nothing, provided that the board takes what it is sent.

Each channel of the board shows the last thing that was sent on it.  In a run without
broken publications, all channels show parts of one publication.  In any run, the markers
are ahead of the maps by the number of broken publications.
-/

namespace MapIngest

open Ingest

/-! ## Channels -/

/-- The channels on which a board shows publications. -/
inductive Channel where
  | occupiedMarkers
  | freeMarkers
  | binaryMap
  | fullMap
deriving DecidableEq

def Channel.isMarkers : Channel → Bool
  | .occupiedMarkers | .freeMarkers => true
  | .binaryMap | .fullMap => false

def Publication.channel : Publication → Channel
  | .occupiedMarkers _ => .occupiedMarkers
  | .freeMarkers _ => .freeMarkers
  | .binaryMap _ => .binaryMap
  | .fullMap _ => .fullMap

/-- What a channel shows after publications: the last one on it. -/
def latched (publications : List Publication) (channel : Channel) : Option Publication :=
  publications.reverse.find? fun publication => publication.channel = channel

theorem latched_append (earlier later : List Publication) (channel : Channel) :
    latched (earlier ++ later) channel = (latched later channel).or (latched earlier channel) := by
  rw [latched, List.reverse_append, List.find?_append]
  rfl

/-- A bulletin is shown on all channels, whatever they showed before. -/
theorem latched_bulletin {frame : String} (earlier : List Publication)
    (bulletin : Bulletin frame) :
    latched (earlier ++ bulletin.publications) = latched bulletin.publications := by
  funext channel
  rw [latched_append]
  cases channel <;> rfl

/-- How many publications were sent on a channel. -/
def sentOn (publications : List Publication) (channel : Channel) : Int :=
  publications.countP fun publication => publication.channel = channel

theorem sentOn_append (earlier later : List Publication) (channel : Channel) :
    sentOn (earlier ++ later) channel = sentOn earlier channel + sentOn later channel := by
  rw [sentOn, List.countP_append, Int.natCast_add]
  rfl

theorem sentOn_bulletin {frame : String} (bulletin : Bulletin frame) (channel : Channel) :
    sentOn bulletin.publications channel = 1 := by
  cases channel <;> rfl

theorem sentOn_markers (occupied free : Value) (channel : Channel) :
    sentOn [.occupiedMarkers occupied, .freeMarkers free] channel =
      if channel.isMarkers then 1 else 0 := by
  cases channel <;> rfl

/-! ## Boards and engines -/

/-- The publication of an exchange, if the board took it. -/
def BoardExchange.taken? (exchange : BoardExchange) : Option Publication :=
  match exchange.answer with
  | .ok _ => some exchange.publication
  | .error _ => none

/-- The board takes everything that it is sent. -/
def PublicationBoard.Accepts {π : Type} (board : PublicationBoard π) : Prop :=
  ∀ publication state, (board.publish publication state).1 = .ok ()

/-- The engine gives its markers, and then fails to give one of the two maps. -/
def MapEngine.breaksOff {ε : Type} (engine : MapEngine ε) (frame : String) (state : ε) : Bool :=
  match engine.markers frame state with
  | (.error _, _) => false
  | (.ok _, marked) =>
    match engine.binaryMap marked with
    | (.error _, _) => true
    | (.ok _, read) => !(engine.fullMap read).1.isOk

/-! ## One publication -/

variable {ε τ π : Type}

/-- What the board has taken, in order. -/
def Coordinator.published (coordinator : WatchedCoordinator ε τ π) : List Publication :=
  coordinator.board.transcript.filterMap BoardExchange.taken?

namespace Visit

variable (visit : Visit (WatchedCoordinator ε τ π) Entry Reply)

/-- The visit failed before anything was published. -/
structure SendsNothing : Prop where
  fails : ∃ fault, visit.outcome.result = .error fault
  published : visit.outcome.state.published = visit.before.published

/-- The visit failed when the markers had been published, and nothing else. -/
structure SendsMarkersOnly : Prop where
  fails : ∃ fault, visit.outcome.result = .error fault
  published : ∃ occupied free, visit.outcome.state.published =
    visit.before.published ++ [.occupiedMarkers occupied, .freeMarkers free]

/-- The visit returned and published a whole bulletin, or it failed and published nothing. -/
def AllOrNothing : Prop :=
  (∃ bulletin : Bulletin visit.before.worldFrame, visit.Publishes bulletin) ∨
    visit.SendsNothing

variable {visit} {frame : String} {bulletin : Bulletin frame}

theorem Publishes.published_eq (publishes : visit.Publishes bulletin) :
    visit.outcome.state.published = visit.before.published ++ bulletin.publications := by
  rw [Coordinator.published, publishes.published, List.filterMap_append]
  rfl

theorem SendsMarkersOnly.not_allOrNothing (broken : visit.SendsMarkersOnly) :
    ¬ visit.AllOrNothing := by
  rcases broken.published with ⟨occupied, free, sent⟩
  rintro (⟨bulletin, whole⟩ | silent)
  · rw [whole.published_eq] at sent
    have same := congrArg List.length (List.append_cancel_left sent)
    simp [Bulletin.publications] at same
  · rw [silent.published] at sent
    simp at sent

end Visit

namespace Coordinator

variable {components : Components ε τ π} {coordinator : WatchedCoordinator ε τ π}

section Steps

variable {α β : Type} {exchange : Except Fault α → EngineExchange} {call : Call ε α}

/-- The coordinator when its engine has answered one more question. -/
def asked (coordinator : WatchedCoordinator ε τ π) (engine : ε) (exchange : EngineExchange) :
    WatchedCoordinator ε τ π :=
  { coordinator with engine := ⟨engine, coordinator.engine.transcript ++ [exchange]⟩ }

/-- The coordinator when the board has taken one more publication. -/
def posted (components : Components ε τ π) (publication : Publication)
    (coordinator : WatchedCoordinator ε τ π) : WatchedCoordinator ε τ π :=
  { coordinator with
    board := ⟨(components.board.publish publication coordinator.board.inner).2,
      coordinator.board.transcript ++ [⟨publication, .ok ()⟩]⟩ }

theorem published_posted (publication : Publication) :
    (posted components publication coordinator).published =
      coordinator.published ++ [publication] := by
  rw [published, posted, List.filterMap_append]
  rfl

theorem run_askEngine {answer : Except Fault α} {engine : ε}
    (answered : call coordinator.engine.inner = (answer, engine)) :
    (askEngine (Recorded.call exchange call)).run coordinator =
      ⟨answer, asked coordinator engine (exchange answer), []⟩ := by
  rw [askEngine, Act.run_ask, Recorded.call_fst, Recorded.call_snd, answered]
  rfl

theorem askEngine_bind_answered {value : α} {engine : ε}
    (answered : call coordinator.engine.inner = (.ok value, engine))
    (next : α → Act (WatchedCoordinator ε τ π) β) :
    (askEngine (Recorded.call exchange call) >>= next).run coordinator =
      (next value).run (asked coordinator engine (exchange (.ok value))) := by
  rw [Act.run_bind, run_askEngine answered]
  rfl

theorem askEngine_bind_failed {fault : Fault} {engine : ε}
    (failed : call coordinator.engine.inner = (.error fault, engine))
    (next : α → Act (WatchedCoordinator ε τ π) β) :
    (askEngine (Recorded.call exchange call) >>= next).run coordinator =
      ⟨.error fault, asked coordinator engine (exchange (.error fault)), []⟩ := by
  rw [Act.run_bind, run_askEngine failed]
  rfl

theorem publish_bind_posted (accepts : components.board.Accepts) (publication : Publication)
    (next : Unit → Act (WatchedCoordinator ε τ π) β) :
    (publish components.watched publication >>= next).run coordinator =
      (next ()).run (posted components publication coordinator) := by
  have taken := accepts publication coordinator.board.inner
  have run : (publish components.watched publication).run coordinator =
      ⟨.ok (), posted components publication coordinator, []⟩ := by
    rw [publish, Act.run_ask]
    simp only [Components.watched, PublicationBoard.recorded, Recorded.call_fst,
      Recorded.call_snd, taken]
    rfl
  rw [Act.run_bind, run]
  rfl

end Steps

/-- The second half of a publication, once the markers have been published. -/
def publishMaps (components : Components ε τ π) (frame : String) :
    Act (Coordinator ε τ π) Bool := do
  let binary? ← askEngine components.engine.binaryMap
  let full? ← askEngine components.engine.fullMap
  publish components (.binaryMap (snapshotToSend binary? true frame))
  publish components (.fullMap (snapshotToSend full? false frame))
  return true

theorem publishAll_eq (components : Components ε τ π) :
    publishAll components = (do
      let frame := (← Act.get).worldFrame
      let (occupied, free) ← askEngine (components.engine.markers frame)
      publish components (.occupiedMarkers occupied)
      publish components (.freeMarkers free)
      publishMaps components frame) := rfl

/-- Without markers, nothing is published. -/
theorem publishAll_unmarked {fault : Fault} {marked : ε}
    (failed : components.engine.markers coordinator.worldFrame coordinator.engine.inner =
      (.error fault, marked)) :
    ∃ engine, (publishAll components.watched).run coordinator =
      ⟨.error fault, { coordinator with engine := engine }, []⟩ := by
  rw [publishAll, Act.run_get_bind]
  exact ⟨_, askEngine_bind_failed failed _⟩

/-- The markers are published as soon as they are there. -/
theorem publishAll_marked (accepts : components.board.Accepts) {occupied free : Value}
    {marked : ε}
    (given : components.engine.markers coordinator.worldFrame coordinator.engine.inner =
      (.ok (occupied, free), marked)) :
    ∃ middle : WatchedCoordinator ε τ π, middle.engine.inner = marked ∧
      middle.published =
        coordinator.published ++ [.occupiedMarkers occupied, .freeMarkers free] ∧
      (publishAll components.watched).run coordinator =
        (publishMaps components.watched coordinator.worldFrame).run middle := by
  refine ⟨posted components (.freeMarkers free)
    (posted components (.occupiedMarkers occupied)
      (asked coordinator marked (.markers coordinator.worldFrame (.ok (occupied, free))))),
    rfl, ?_, ?_⟩
  · rw [published_posted, published_posted, List.append_assoc]
    rfl
  · rw [publishAll_eq, Act.run_get_bind]
    refine (askEngine_bind_answered given _).trans ?_
    rw [publish_bind_posted accepts, publish_bind_posted accepts]

/-- A map that the engine fails to give leaves the board as it is. -/
theorem publishMaps_without_binary (frame : String) {fault : Fault} {read : ε}
    (failed : components.engine.binaryMap coordinator.engine.inner = (.error fault, read)) :
    ∃ engine, (publishMaps components.watched frame).run coordinator =
      ⟨.error fault, { coordinator with engine := engine }, []⟩ :=
  ⟨_, askEngine_bind_failed failed _⟩

theorem publishMaps_without_full (frame : String) {binary? : Option Snapshot} {fault : Fault}
    {read after : ε}
    (binary : components.engine.binaryMap coordinator.engine.inner = (.ok binary?, read))
    (failed : components.engine.fullMap read = (.error fault, after)) :
    ∃ engine, (publishMaps components.watched frame).run coordinator =
      ⟨.error fault, { coordinator with engine := engine }, []⟩ :=
  ⟨_, (askEngine_bind_answered binary _).trans (askEngine_bind_failed failed _)⟩

theorem publishMaps_returns (accepts : components.board.Accepts) (frame : String)
    {binary? full? : Option Snapshot} {read after : ε}
    (binary : components.engine.binaryMap coordinator.engine.inner = (.ok binary?, read))
    (full : components.engine.fullMap read = (.ok full?, after)) :
    ((publishMaps components.watched frame).run coordinator).result = .ok true := by
  have answered : (publishMaps components.watched frame).run coordinator = _ :=
    (askEngine_bind_answered binary _).trans (askEngine_bind_answered full _)
  rw [answered, publish_bind_posted accepts, publish_bind_posted accepts]
  rfl

/-- A publication that the engine does not break off is all or nothing; any other is neither. -/
theorem publishAll_cases (accepts : components.board.Accepts)
    (before : WatchedCoordinator ε τ π) :
    let visit : Visit (WatchedCoordinator ε τ π) Entry Reply :=
      ⟨before, .publishAll, (Entry.publishAll.act components.watched).run before⟩
    components.engine.breaksOff before.worldFrame before.engine.inner = false ∧
        visit.AllOrNothing ∨
      components.engine.breaksOff before.worldFrame before.engine.inner = true ∧
        visit.SendsMarkersOnly := by
  intro visit
  have replied : visit.outcome =
      ⟨((publishAll components.watched).run before).result.map .said,
        ((publishAll components.watched).run before).state,
        ((publishAll components.watched).run before).logs⟩ := Act.run_map _ _ _
  rw [MapEngine.breaksOff]
  rcases given : components.engine.markers before.worldFrame before.engine.inner with
    ⟨fault | ⟨occupied, free⟩, marked⟩
  · obtain ⟨engine, run⟩ := publishAll_unmarked given
    rw [run] at replied
    exact Or.inl ⟨rfl, Or.inr ⟨⟨fault, by rw [replied]; rfl⟩, by rw [replied]; rfl⟩⟩
  · obtain ⟨middle, rfl, sent, run⟩ := publishAll_marked accepts given
    -- A break leaves the board as the markers have left it.
    have partly : ∀ {fault engine}, (publishMaps components.watched before.worldFrame).run middle =
        ⟨.error fault, { middle with engine := engine }, []⟩ → visit.SendsMarkersOnly := by
      intro fault engine broken
      rw [run, broken] at replied
      exact ⟨⟨fault, by rw [replied]; rfl⟩, occupied, free, by rw [replied]; exact sent⟩
    dsimp only
    rcases binary : components.engine.binaryMap middle.engine.inner with
      ⟨fault | binary?, read⟩
    · obtain ⟨engine, broken⟩ := publishMaps_without_binary before.worldFrame binary
      exact Or.inr ⟨rfl, partly broken⟩
    · dsimp only
      rcases full : components.engine.fullMap read with ⟨fault | full?, after⟩
      · obtain ⟨engine, broken⟩ := publishMaps_without_full before.worldFrame binary full
        exact Or.inr ⟨rfl, partly broken⟩
      · have returned : visit.outcome.result = .ok (.said true) := by
          rw [replied, run, publishMaps_returns accepts _ binary full]
          rfl
        exact Or.inl ⟨rfl, Or.inl (publishes_publishAll components before returned)⟩

theorem overlooks_board : Overlooks (board (ε := ε) (τ := τ) (π := π)) where
  calibration _ _ := rfl
  stats _ _ := rfl
  desk _ _ := rfl
  engine _ _ := rfl

end Coordinator

/-! ## Runs -/

/-- The visit is a publication that the engine breaks off. -/
def Components.breaksOff (components : Components ε τ π)
    (visit : Visit (WatchedCoordinator ε τ π) Entry Reply) : Bool :=
  match visit.input with
  | .publishAll =>
    components.engine.breaksOff visit.before.worldFrame visit.before.engine.inner
  | _ => false

namespace Coordinator

variable {components : Components ε τ π} (accepts : components.board.Accepts)

include accepts

/-- What an entry adds to what has been published. -/
theorem published_visit (entry : Entry) (before : WatchedCoordinator ε τ π) :
    let visit : Visit (WatchedCoordinator ε τ π) Entry Reply :=
      ⟨before, entry, (entry.act components.watched).run before⟩
    components.breaksOff visit = false ∧
        (visit.outcome.state.published = before.published ∨
          ∃ bulletin : Bulletin before.worldFrame, visit.Publishes bulletin) ∨
      components.breaksOff visit = true ∧ visit.SendsMarkersOnly := by
  intro visit
  by_cases publishing : entry = .publishAll
  · subst publishing
    rcases publishAll_cases accepts before with ⟨unbroken, bulletin | silent⟩ | broken
    · exact Or.inl ⟨unbroken, Or.inr bulletin⟩
    · exact Or.inl ⟨unbroken, Or.inl silent.published⟩
    · exact Or.inr broken
  · have keeps : Act.Keeps board (entry.act components.watched) :=
      overlooks_board.keeps_entry entry fun same => (publishing same).elim
    refine Or.inl ⟨?_, Or.inl (congrArg (fun board : Recorded π BoardExchange =>
      board.transcript.filterMap BoardExchange.taken?) (keeps before))⟩
    cases entry with
    | publishAll => exact (publishing rfl).elim
    | _ => rfl

/-- How far a channel of markers is ahead of a channel of maps. -/
theorem lead_after {markers map : Channel} (shows : markers.isMarkers = true)
    (serializes : map.isMarkers = false) (start : WatchedCoordinator ε τ π)
    (entries : List Entry) :
    let reached := Run.after (Entry.act components.watched) start entries
    sentOn reached.published markers - sentOn reached.published map =
      sentOn start.published markers - sentOn start.published map +
        (Run.visits (Entry.act components.watched) start entries).countP
          components.breaksOff := by
  have always : ∀ (_ : WatchedCoordinator ε τ π) (_ : Entry), True → True → True :=
    fun _ _ _ _ => trivial
  refine Run.counted
    (fun state => sentOn state.published markers - sentOn state.published map)
    components.breaksOff always ?_ trivial fun _ _ => trivial
  rintro before entry - -
  rcases published_visit accepts entry before with
    ⟨unbroken, silent | ⟨bulletin, whole⟩⟩ | ⟨broken, partly⟩
  · rw [unbroken, silent]
    simp
  · have sent := whole.published_eq
    rw [unbroken, sent, sentOn_append, sentOn_append, sentOn_bulletin, sentOn_bulletin,
      if_neg Bool.false_ne_true]
    dsimp only
    omega
  · rcases partly.published with ⟨occupied, free, sent⟩
    rw [broken, sent, sentOn_append, sentOn_append, sentOn_markers, sentOn_markers, shows,
      serializes, if_pos rfl, if_neg Bool.false_ne_true]
    dsimp only
    omega

/-- Without a broken publication, the channels show what they did, or one whole publication. -/
theorem latched_after {frame : String} {start : WatchedCoordinator ε τ π}
    (framed : start.worldFrame = frame) {entries : List Entry}
    (whole : ∀ visit ∈ Run.visits (Entry.act components.watched) start entries,
      components.breaksOff visit = false) :
    let reached := Run.after (Entry.act components.watched) start entries
    latched reached.published = latched start.published ∨
      ∃ visit ∈ Run.visits (Entry.act components.watched) start entries,
        ∃ bulletin : Bulletin frame, visit.Publishes bulletin ∧
          latched reached.published = latched bulletin.publications := by
  induction entries generalizing start with
  | nil => exact Or.inl rfl
  | cons entry rest ih =>
      rw [Run.visits, List.forall_mem_cons] at whole
      have stays := (framed_entry components.watched entry start).trans framed
      rcases ih stays whole.2 with same | ⟨visit, member, bulletin, publishes, shown⟩
      · -- Nothing was shown later, so this entry decides.
        rcases published_visit accepts entry start with
          ⟨-, silent | ⟨bulletin, publishes⟩⟩ | ⟨broken, -⟩
        · rw [silent] at same
          exact Or.inl same
        · subst framed
          refine Or.inr ⟨_, List.mem_cons_self, bulletin, publishes, same.trans ?_⟩
          rw [publishes.published_eq, latched_bulletin]
        · rw [whole.1] at broken
          cases broken
      · exact Or.inr ⟨visit, List.mem_cons_of_mem _ member, bulletin, publishes, shown⟩

/--
Let the board take everything.  A publication is all or nothing exactly if the engine does
not break off; if it does, the markers are published and the call fails.  In a run, the
channels of markers are ahead of the channels of maps by the number of publications that
were broken off.  If there is none, the channels show what they showed at first, or all of
them show parts of one publication.
-/
theorem publications_whole_iff (start : WatchedCoordinator ε τ π) (entries : List Entry) :
    let visits := Run.visits (Entry.act components.watched) start entries
    let reached := Run.after (Entry.act components.watched) start entries
    (∀ visit ∈ visits, visit.input = .publishAll →
      (visit.AllOrNothing ↔ components.breaksOff visit = false) ∧
        (components.breaksOff visit = true → visit.SendsMarkersOnly)) ∧
    (∀ markers map : Channel, markers.isMarkers = true → map.isMarkers = false →
      sentOn reached.published markers - sentOn reached.published map =
        sentOn start.published markers - sentOn start.published map +
          visits.countP components.breaksOff) ∧
    ((∀ visit ∈ visits, components.breaksOff visit = false) →
      latched reached.published = latched start.published ∨
        ∃ visit ∈ visits, ∃ bulletin : Bulletin start.worldFrame,
          visit.Publishes bulletin ∧
            latched reached.published = latched bulletin.publications) := by
  refine ⟨?_, fun markers map shows serializes => lead_after accepts shows serializes _ _,
    fun whole => latched_after accepts rfl whole⟩
  refine Run.forall_visits_of_forall ?_ _ _
  rintro before entry rfl
  rw [Components.breaksOff]
  rcases publishAll_cases accepts before with ⟨unbroken, whole⟩ | ⟨broken, partly⟩
  · rw [unbroken]
    exact ⟨iff_of_true whole rfl, fun broken => by cases broken⟩
  · rw [broken]
    exact ⟨iff_of_false partly.not_allOrNothing Bool.noConfusion, fun _ => partly⟩

end Coordinator

/-! ## An engine without a binary encoding -/

/-- An engine that gives its markers and fails to give the map in the binary encoding. -/
def binarylessEngine : MapEngine Unit :=
  { MapEngine.blank with
    binaryMap := fun _ => (.error (.raised .runtime "octree is locked"), ()) }

def binarylessComponents : Components Unit Unit Unit :=
  { Components.obliging with engine := binarylessEngine }

def binarylessStart : WatchedCoordinator Unit Unit Unit where
  worldFrame := "world"
  engine := ⟨(), []⟩
  source := ⟨(), []⟩
  board := ⟨(), []⟩

/-- Two publications, and the markers are ahead by two. -/
theorem binarylessComponents_lead :
    binarylessComponents.board.Accepts ∧
      sentOn (Run.after (Entry.act binarylessComponents.watched) binarylessStart
        [.publishAll, .publishAll]).published .occupiedMarkers -
      sentOn (Run.after (Entry.act binarylessComponents.watched) binarylessStart
        [.publishAll, .publishAll]).published .fullMap = 2 := by
  have accepts : binarylessComponents.board.Accepts := fun _ _ => rfl
  have lead := (Coordinator.publications_whole_iff accepts binarylessStart
    [.publishAll, .publishAll]).2.1 .occupiedMarkers .fullMap rfl rfl
  exact ⟨accepts, lead.trans rfl⟩

/-- A publication need not be all or nothing. -/
theorem binarylessComponents_broken :
    ¬ ∀ (components : Components Unit Unit Unit) (before : WatchedCoordinator Unit Unit Unit),
      components.board.Accepts →
        Visit.AllOrNothing
          ⟨before, .publishAll, (Entry.publishAll.act components.watched).run before⟩ := by
  intro always
  rcases always binarylessComponents binarylessStart fun _ _ => rfl with
    ⟨bulletin, whole⟩ | silent
  · have result := whole.result
    cases result
  · have published := silent.published
    cases published

end MapIngest
