import MapIngest.Node.Answers
import MapIngest.Node.Reception
import MapIngest.Proofs.Fallible
import MapIngest.Proofs.Run
import MapIngest.Proofs.Sensor.Image
import MapIngest.Proofs.Transcript

/-!
# Messages that make no sense

A message of a sensor has the fields of its type, whatever they hold.  It is read as an
observation, which is handed to the coordinator once, or it is refused as a wrong value.
No other failure comes of it.

A refused message is reported by one record, and the state of the node is what it was.
In a run of a node all refused messages can therefore be left out: what happens on every
other occasion, and the state that each finds and leaves, do not change.
-/

namespace MapIngest

open Ingest Node Sensor

/-! ## Messages of sensors -/

namespace Sensor

/-- A message has a header with a frame and a stamp. -/
def Headed (message : Value) : Prop :=
  ∃ header frame stamp, message.field "header" = .ok header ∧
    header.field "frame_id" = .ok (.text frame) ∧ header.field "stamp" = .ok stamp

/-- The constants of a disparity message. -/
def disparityConstants : List String :=
  ["f", "t", "min_disparity", "max_disparity"]

/-- The sizes of an image have 32 bits. -/
structure Image.Worded (image : Image) : Prop where
  height : image.height < 2 ^ 32
  width : image.width < 2 ^ 32
  step : image.step < 2 ^ 32

/-- A message of a disparity image: a header, an image and four numbers. -/
structure Image.DisparityAs (image : Image) (message : Value) : Prop where
  worded : image.Worded
  headed : Headed message
  inner : ∃ inner, message.field "image" = .ok inner ∧ image.SentAs inner
  constants : ∀ name ∈ disparityConstants, ∃ number, message.field name = .ok (.float number)

/-- The offset of a field has 32 bits, and its code has 8. -/
structure CloudField.Worded (field : CloudField) : Prop where
  offset : field.offset < 2 ^ 32
  code : ∃ code : Nat, code < 2 ^ 8 ∧ field.code = .int code

/-- The sizes of a cloud have 32 bits. -/
structure Cloud.Worded (cloud : Cloud) : Prop where
  width : cloud.width < 2 ^ 32
  height : cloud.height < 2 ^ 32
  pointStep : cloud.pointStep < 2 ^ 32
  rowStep : cloud.rowStep < 2 ^ 32
  fields : ∀ field ∈ cloud.fields, field.Worded

/-- A message of a point cloud: a header and a cloud. -/
structure Cloud.PointsAs (cloud : Cloud) (message : Value) : Prop where
  worded : cloud.Worded
  headed : Headed message
  inner : cloud.SentAs message

/-- The axes of a cloud are known, and it holds them. -/
def Cloud.Whole (cloud : Cloud) : Prop :=
  ∃ axes, cloud.axes? = some axes ∧ cloud.Holds axes

variable {message : Value}

theorem Headed.read (headed : Headed message) :
    ∃ frame stamp, readFrame message = .ok frame ∧ readStamp message = .ok stamp := by
  rcases headed with ⟨header, frame, stamp, given, named, stamped⟩
  refine ⟨frame, stamp, ?_, ?_⟩
  · rw [readFrame, given, ok_bind, named]
    rfl
  · rw [readStamp, given, ok_bind, stamped]

theorem readNumber_of_field {name : String} {number : Float}
    (given : message.field name = .ok (.float number)) : readNumber message name = .ok number := by
  rw [readNumber, given]
  rfl

/-- Sizes of 32 bits never make a table too large. -/
theorem Image.DisparityAs.needs_readPixels {image : Image} (typed : image.DisparityAs message)
    {inner : Value} (sent : image.SentAs inner) :
    Needs image.Holds Fault.IsWrongValue (readPixels inner) := by
  by_cases holds : image.Holds
  · have fits : image.Addressable := by
      apply Image.addressable_of_holds holds
      intro _
      exact ⟨Nat.lt_trans typed.worded.height (by decide),
        Nat.lt_trans typed.worded.step (by decide)⟩
    rw [Image.readPixels_of_holds sent holds fits]
    exact .returned holds image.table
  · rcases Image.readPixels_refused sent fun both => holds both.1 with ⟨fault, failed, kind⟩
    rw [failed]
    exact .failed holds kind

theorem Image.DisparityAs.needs_ofMessage {image : Image} (typed : image.DisparityAs message) :
    Needs image.Holds Fault.IsWrongValue (DisparityObservation.ofMessage message) := by
  rcases typed.headed.read with ⟨frame, stamp, framed, stamped⟩
  rcases typed.inner with ⟨inner, given, sent⟩
  have constants := typed.constants
  simp only [disparityConstants, List.forall_mem_cons] at constants
  rcases constants with ⟨⟨focalLength, f⟩, ⟨baseline, t⟩, ⟨least, lowest⟩, ⟨greatest, highest⟩, -⟩
  -- With the header and the constants given, only the image can be refused.
  have read : DisparityObservation.ofMessage message = (readPixels inner).map fun table =>
      ⟨frame, stamp, table.toTensor, .float focalLength, .float baseline, .float least,
        .float greatest⟩ := by
    rw [DisparityObservation.ofMessage, DisparityImage.ofMessage, given, ok_bind, readImage,
      readNumber_of_field f, readNumber_of_field t, readNumber_of_field lowest,
      readNumber_of_field highest, framed, stamped]
    cases readPixels inner <;> rfl
  rw [read]
  exact (typed.needs_readPixels sent).map _

theorem Cloud.PointsAs.needs_readCloud {cloud : Cloud} (typed : cloud.PointsAs message) :
    Needs cloud.Whole Fault.IsWrongValue (readCloud message) := by
  cases taken : readCloud message with
  | ok points => exact .returned (holds_of_readCloud typed.inner taken) points
  | error fault =>
      refine .failed ?_ (kind_of_readCloud typed.inner ?_ taken)
      · rintro ⟨axes, known, holds⟩
        rw [readCloud_of_holds typed.inner known holds] at taken
        cases taken
      · intro field member
        exact Nat.lt_trans (typed.worded.fields field member).offset (by decide)

theorem Cloud.PointsAs.needs_ofMessage {cloud : Cloud} (typed : cloud.PointsAs message) :
    Needs cloud.Whole Fault.IsWrongValue (CloudObservation.ofMessage message) := by
  rcases typed.headed.read with ⟨frame, stamp, framed, stamped⟩
  have read : CloudObservation.ofMessage message =
      (readCloud message).map fun points => ⟨frame, stamp, pointsValue points⟩ := by
    rw [CloudObservation.ofMessage, framed, stamped]
    cases readCloud message <;> rfl
  rw [read]
  exact typed.needs_readCloud.map _

end Sensor

/-! ## Taking what was read -/

variable {ε β ω α : Type}

namespace MapNode

theorem takeRead_ok (title : String) (value : α) (take : α → Act (MapNode ε β ω) Bool) :
    takeRead title (.ok value) take = (fun _ => ()) <$> take value := by
  rw [takeRead, map_eq_pure_bind]

/-- A value that is refused is reported, and nothing else happens. -/
theorem run_takeRead_error (title : String) {fault : Fault} (wrong : fault.kind.isValue = true)
    (take : α → Act (MapNode ε β ω) Bool) (node : MapNode ε β ω) :
    (takeRead title (.error fault) take).run node = ⟨.ok (), node, [malformed title fault]⟩ := by
  rw [takeRead, if_pos wrong, Act.run_log]

end MapNode

/-! ## Occasions -/

/-- An occasion on which a node acts, or on which its surroundings change. -/
inductive Occasion (ε β ω : Type) where
  | message (input : Input) (content : Value)
  | request (service : Service) (content : Value)
  | timer (due : Timer)
  /-- Time passes, transforms arrive, or an engine goes on. -/
  | surroundings (change : MapNode ε β ω → MapNode ε β ω)

namespace Occasion

/-- What a node does on an occasion; only a request has a response. -/
def act (components : NodeComponents ε β ω) :
    Occasion ε β ω → Act (MapNode ε β ω) (Option Response)
  | .message input content => (fun _ => none) <$> MapNode.receive components input content
  | .request service content => some <$> MapNode.serve components service content
  | .timer due => (fun _ => none) <$> MapNode.fire components due
  | .surroundings change => (fun _ => none) <$> Act.modify change

/-- The record of what was read and refused as a wrong value. -/
def refusal? (title : String) : Except Fault α → Option LogRecord
  | .ok _ => none
  | .error fault => if fault.kind.isValue then some (MapNode.malformed title fault) else none

/-- The record of a message of a sensor that is refused, if the occasion is one. -/
def dropped? : Occasion ε β ω → Option LogRecord
  | .message .disparity content =>
      refusal? (Coordinator.streamTitle .disparity) (DisparityObservation.ofMessage content)
  | .message .pointcloud content =>
      refusal? (Coordinator.streamTitle .pointcloud) (CloudObservation.ofMessage content)
  | _ => none

theorem refusal?_eq_some {title : String} {read : Except Fault α} {record : LogRecord}
    (refused : refusal? title read = some record) :
    ∃ fault, read = .error fault ∧ fault.kind.isValue = true ∧
      record = MapNode.malformed title fault := by
  cases read with
  | ok value => cases refused
  | error fault =>
      rw [refusal?] at refused
      split at refused
      next wrong => exact ⟨fault, rfl, wrong, (Option.some.inj refused).symm⟩
      next => cases refused

/-- A refused message is reported, and the node is as it was. -/
theorem run_act_of_dropped (components : NodeComponents ε β ω) {occasion : Occasion ε β ω}
    {record : LogRecord} (dropped : occasion.dropped? = some record) (node : MapNode ε β ω) :
    (occasion.act components).run node = ⟨.ok none, node, [record]⟩ := by
  cases occasion with
  | message input content =>
      cases input with
      | leftCamera => cases dropped
      | rightCamera => cases dropped
      | disparity =>
          rcases refusal?_eq_some dropped with ⟨fault, read, wrong, rfl⟩
          rw [act, Act.run_map, MapNode.receive, MapNode.takeDisparity, read,
            MapNode.run_takeRead_error _ wrong]
          rfl
      | pointcloud =>
          rcases refusal?_eq_some dropped with ⟨fault, read, wrong, rfl⟩
          rw [act, Act.run_map, MapNode.receive, MapNode.takeCloud, read,
            MapNode.run_takeRead_error _ wrong]
          rfl
  | request service content => cases dropped
  | timer due => cases dropped
  | surroundings change => cases dropped

theorem unmoved_of_dropped (components : NodeComponents ε β ω) (occasion : Occasion ε β ω)
    (dropped : occasion.dropped?.isSome = true) (node : MapNode ε β ω) :
    ((occasion.act components).run node).state = node := by
  rcases Option.isSome_iff_exists.mp dropped with ⟨record, found⟩
  rw [run_act_of_dropped components found]

end Occasion

/-! ## What becomes of messages -/

/-- A message that is read is handed over once; one that is not is reported and dropped. -/
inductive Treated (components : NodeComponents ε β ω) (input : Input) (content : Value)
    (title : String) (take : α → Act (MapNode ε β ω) Bool) : Except Fault α → Prop
  | handed (observation : α)
      (once : MapNode.receive components input content = (fun _ => ()) <$> take observation)
      (kept : (Occasion.message input content : Occasion ε β ω).dropped? = none) :
      Treated components input content title take (.ok observation)
  | refused (fault : Fault) (wrong : fault.kind = .value)
      (reported : ∀ node, (MapNode.receive components input content).run node =
        ⟨.ok (), node, [MapNode.malformed title fault]⟩)
      (dropped : (Occasion.message input content : Occasion ε β ω).dropped? =
        some (MapNode.malformed title fault)) :
      Treated components input content title take (.error fault)

namespace Treated

variable {components : NodeComponents ε β ω} {input : Input} {content : Value} {title : String}
  {take : α → Act (MapNode ε β ω) Bool} {read : Except Fault α}

/-- A message on a topic is treated so if it is read as an observation or refused. -/
theorem of_needs
    (received : MapNode.receive components input content = MapNode.takeRead title read take)
    (noted : (Occasion.message input content : Occasion ε β ω).dropped? =
      Occasion.refusal? title read)
    {condition : Prop} (needs : Needs condition Fault.IsWrongValue read) :
    Treated components input content title take read := by
  cases needs with
  | returned holds observation =>
      exact .handed observation (received.trans (MapNode.takeRead_ok title observation take)) noted
  | @failed lacks fault wrong =>
      have caught : fault.kind.isValue = true := congrArg Kind.isValue wrong
      refine .refused fault wrong (fun node => ?_) ?_
      · rw [received, MapNode.run_takeRead_error title caught]
      · rw [noted, Occasion.refusal?, if_pos caught]

end Treated

/--
A message of a disparity image is read exactly if the image holds its rows, and one of a
point cloud exactly if the axes are known and the cloud holds them.  What is read is handed
to the coordinator once.  Any other message is refused as a wrong value: one warning is
written, to appear at most every five seconds, and the node is as it was, whatever its
state.

In a run of a node on any occasions, the refused messages can all be left out.  The node
ends in the same state, and on every other occasion it finds, does, writes and leaves the
same.
-/
theorem malformed_messages_dropped (components : NodeComponents ε β ω) :
    (∀ (image : Image) (message : Value), image.DisparityAs message →
      ((∃ observation, DisparityObservation.ofMessage message = .ok observation) ↔ image.Holds) ∧
        Treated components .disparity message "Disparity"
          (fun observation => MapNode.coordinate components fun parts =>
            Coordinator.insertDisparity parts observation)
          (DisparityObservation.ofMessage message)) ∧
      (∀ (cloud : Cloud) (message : Value), cloud.PointsAs message →
        ((∃ observation, CloudObservation.ofMessage message = .ok observation) ↔ cloud.Whole) ∧
          Treated components .pointcloud message "Pointcloud"
            (fun observation => MapNode.coordinate components fun parts =>
              Coordinator.insertCloud parts observation)
            (CloudObservation.ofMessage message)) ∧
      (∀ title fault, (MapNode.malformed title fault).level = .warn ∧
        (MapNode.malformed title fault).spacing = some 5.0) ∧
      ∀ (start : MapNode ε β ω) (occasions : List (Occasion ε β ω)),
        let kept := occasions.filter fun occasion => !occasion.dropped?.isSome
        let visits := Run.visits (Occasion.act components) start occasions
        Run.after (Occasion.act components) start kept =
            Run.after (Occasion.act components) start occasions ∧
          Run.visits (Occasion.act components) start kept =
            (visits.filter fun visit => !visit.input.dropped?.isSome) ∧
          ∀ visit ∈ visits, ∀ record, visit.input.dropped? = some record →
            visit.outcome = ⟨.ok none, visit.before, [record]⟩ := by
  refine ⟨?_, ?_, fun _ _ => ⟨rfl, rfl⟩, ?_⟩
  · intro image message typed
    exact ⟨typed.needs_ofMessage.isOk_iff, .of_needs rfl rfl typed.needs_ofMessage⟩
  · intro cloud message typed
    exact ⟨typed.needs_ofMessage.isOk_iff, .of_needs rfl rfl typed.needs_ofMessage⟩
  · intro start occasions
    have unmoved := Occasion.unmoved_of_dropped components
    refine ⟨Run.after_filter unmoved start occasions, Run.visits_filter unmoved start occasions, ?_⟩
    refine Run.forall_visits_of_forall (fun node occasion record dropped => ?_) _ _
    exact Occasion.run_act_of_dropped components dropped node

/-! ## A short buffer -/

/-- An image whose buffer holds one of its two rows. -/
def shortImage : Image where
  encoding := "32FC1"
  height := 2
  width := 2
  step := 8
  order := .little
  data := List.replicate 8 0
  held := by decide

/-- A cloud without a third axis. -/
def flatCloud : Cloud where
  fields := [⟨"x", 0, .int 7⟩, ⟨"y", 4, .int 7⟩]
  order := .little
  width := 1
  height := 1
  pointStep := 8
  rowStep := 8
  data := List.replicate 8 0
  held := by decide

def sensorHeader : Value :=
  .mapping [(.text "frame_id", .text "camera"), (.text "stamp", .int 7)]

def shortMessage : Value :=
  .mapping
    [ (.text "header", sensorHeader), (.text "image", shortImage.message),
      (.text "f", .float 450.0), (.text "t", .float 0.11),
      (.text "min_disparity", .float 1.0), (.text "max_disparity", .float 64.0) ]

theorem shortMessage_typed : shortImage.DisparityAs shortMessage where
  worded := by constructor <;> decide
  headed := ⟨sensorHeader, "camera", .int 7, rfl, rfl, rfl⟩
  inner := ⟨shortImage.message, rfl, shortImage.sentAs_message⟩
  constants := by
    simp only [disparityConstants, List.forall_mem_cons]
    exact ⟨⟨_, rfl⟩, ⟨_, rfl⟩, ⟨_, rfl⟩, ⟨_, rfl⟩, nofun⟩

def flatMessage : Value :=
  .mapping
    [ (.text "header", sensorHeader), (.text "fields", .list (flatCloud.fields.map (·.item))),
      (.text "is_bigendian", .bool false), (.text "width", .int 1), (.text "height", .int 1),
      (.text "point_step", .int 8), (.text "row_step", .int 8),
      (.text "data", .bytes flatCloud.data) ]

theorem flatMessage_typed : flatCloud.PointsAs flatMessage where
  worded := by
    constructor
    case fields =>
      simp only [flatCloud, List.forall_mem_cons]
      exact ⟨⟨by decide, 7, by decide, rfl⟩, ⟨by decide, 7, by decide, rfl⟩, nofun⟩
    all_goals decide
  headed := ⟨sensorHeader, "camera", .int 7, rfl, rfl, rfl⟩
  inner :=
    { fields := ⟨_, _, rfl, rfl,
        .cons (CloudField.sentAs_item _) (.cons (CloudField.sentAs_item _) .nil)⟩
      order := ⟨.bool false, rfl, rfl⟩
      width := rfl
      height := rfl
      pointStep := rfl
      rowStep := rfl
      data := ⟨_, rfl, rfl⟩ }

def quietParts : NodeComponents Unit Unit Unit where
  engine := .blank
  buffer := ⟨fun _ _ _ _ => (.ok true, ()), fun _ _ _ _ _ => (.ok .null, ())⟩
  bus := ⟨fun _ _ _ => (.ok (), ())⟩

def quietNode : MapNode Unit Unit Unit where
  params := {}
  coordinator := { worldFrame := "map", engine := (), source := (), board := ⟨{}, ()⟩ }
  timers := []
  startTime := .whole 0

/-- Both messages are reported, and a request between them is served as without them. -/
theorem shortMessage_left_out :
    shortImage.DisparityAs shortMessage ∧ flatCloud.PointsAs flatMessage ∧
      (MapNode.receive quietParts .disparity shortMessage).run quietNode =
        ⟨.ok (), quietNode,
          [⟨.warn, "Disparity conversion failed: Image buffer has 8 bytes, expected 16",
            some 5.0⟩]⟩ ∧
      (MapNode.receive quietParts .pointcloud flatMessage).run quietNode =
        ⟨.ok (), quietNode,
          [⟨.warn, "Pointcloud conversion failed: PointCloud2 has no x/y/z fields", some 5.0⟩]⟩ ∧
      Run.after (Occasion.act quietParts) quietNode [.request .publishAll .null] =
        Run.after (Occasion.act quietParts) quietNode
          [.message .disparity shortMessage, .request .publishAll .null,
            .message .pointcloud flatMessage] := by
  obtain ⟨images, clouds, -, runs⟩ := malformed_messages_dropped quietParts
  have image := (images shortImage shortMessage shortMessage_typed).2
  have cloud := (clouds flatCloud flatMessage flatMessage_typed).2
  have imageRead : DisparityObservation.ofMessage shortMessage = .error (.imageBuffer 8 16) := rfl
  have cloudRead : CloudObservation.ofMessage flatMessage = .error .cloudAxes := rfl
  rw [imageRead] at image
  rw [cloudRead] at cloud
  cases image with
  | refused _ _ imageReported imageDropped =>
      cases cloud with
      | refused _ _ cloudReported cloudDropped =>
          refine ⟨shortMessage_typed, flatMessage_typed, imageReported quietNode,
            cloudReported quietNode, ?_⟩
          have same := (runs quietNode [.message .disparity shortMessage,
            .request .publishAll .null, .message .pointcloud flatMessage]).1
          rwa [List.filter_cons_of_neg (by simp [imageDropped]), List.filter_cons_of_pos (by rfl),
            List.filter_cons_of_neg (by simp [cloudDropped]), List.filter_nil] at same

end MapIngest
