/-!
# Endpoints

A node takes part in a message graph through endpoints: topics that it
subscribes to, topics that it publishes on, services that it offers, timers
that call it, and the two topics from which transforms are gathered.

Each endpoint has a name, and a queue of a certain depth.  Maps and markers are
kept for late subscribers, and so are static transforms.
-/

namespace MapIngest.Node

/-- Whether a late subscriber still gets the last messages. -/
inductive Durability where
  | volatile
  | kept
deriving DecidableEq, Repr

/-- A reliable queue that keeps the last messages. -/
structure QueueProfile where
  depth : Nat
  durability : Durability
deriving DecidableEq, Repr

/-- The queue of a topic: a depth alone, or a profile. -/
inductive Queue where
  | depth (size : Nat)
  | profile (profile : QueueProfile)
deriving DecidableEq, Repr

/-- A topic that the node subscribes to. -/
inductive Input where
  | leftCamera
  | rightCamera
  | disparity
  | pointcloud
deriving DecidableEq, Repr

namespace Input

/-- The subscriptions in the order in which they are made. -/
def all : List Input :=
  [.leftCamera, .rightCamera, .disparity, .pointcloud]

/-- The name of the topic. -/
def topic : Input → String
  | .leftCamera => "cam0/camera_info"
  | .rightCamera => "cam1/camera_info"
  | .disparity => "disparity"
  | .pointcloud => "pointcloud"

/-- The type of its messages. -/
def messageType : Input → String
  | .leftCamera => "CameraInfo"
  | .rightCamera => "CameraInfo"
  | .disparity => "DisparityImage"
  | .pointcloud => "PointCloud2"

/-- Camera records replace one another; observations are queued. -/
def depth : Input → Nat
  | .leftCamera => 1
  | .rightCamera => 1
  | .disparity => 40
  | .pointcloud => 40

/-- The subscription to a topic. -/
def named? (topic : String) : Option Input :=
  all.find? (·.topic == topic)

@[simp]
theorem named?_topic (input : Input) : named? input.topic = some input := by
  cases input <;> rfl

end Input

/-- A topic that the node publishes on. -/
inductive Output where
  | occupiedMarkers
  | freeMarkers
  | binaryMap
  | fullMap
  | status
deriving DecidableEq, Repr

namespace Output

/-- The topics in the order in which they are advertised. -/
def all : List Output :=
  [.occupiedMarkers, .freeMarkers, .binaryMap, .fullMap, .status]

/-- The name of the topic. -/
def topic : Output → String
  | .occupiedMarkers => "~/octomap_occupied"
  | .freeMarkers => "~/octomap_free"
  | .binaryMap => "~/octomap_binary"
  | .fullMap => "~/octomap_full"
  | .status => "~/ingestion_status"

/-- The type of its messages. -/
def messageType : Output → String
  | .occupiedMarkers => "MarkerArray"
  | .freeMarkers => "MarkerArray"
  | .binaryMap => "Octomap"
  | .fullMap => "Octomap"
  | .status => "String"

/-- The last map is kept for late subscribers, reports are not. -/
def queue : Output → Queue
  | .status => .depth 10
  | _ => .profile ⟨1, .kept⟩

end Output

/-- A service that the node offers. -/
inductive Service where
  | reset
  | publishAll
  | getMap
  | saveMap
  | loadMap
  | setBox
deriving DecidableEq, Repr

namespace Service

/-- The services in the order in which they are advertised. -/
def all : List Service :=
  [.reset, .publishAll, .getMap, .saveMap, .loadMap, .setBox]

/-- The name of the service. -/
def label : Service → String
  | .reset => "~/reset_map"
  | .publishAll => "~/publish_all"
  | .getMap => "~/get_map"
  | .saveMap => "~/save_map"
  | .loadMap => "~/load_map"
  | .setBox => "~/set_box_occupancy"

/-- The type of its requests and responses. -/
def serviceType : Service → String
  | .reset => "Empty"
  | .publishAll => "Empty"
  | .getMap => "GetOctomap"
  | .saveMap => "SaveMap"
  | .loadMap => "LoadMap"
  | .setBox => "SetBoxOccupancy"

/-- The service with a name. -/
def named? (label : String) : Option Service :=
  all.find? (·.label == label)

@[simp]
theorem named?_label (service : Service) : named? service.label = some service := by
  cases service <;> rfl

end Service

/-- What a timer calls. -/
inductive Task where
  | publishing
  | status
deriving DecidableEq, Repr

/-- The name of a task. -/
def Task.label : Task → String
  | .publishing => "publish_all_event"
  | .status => "_publish_status"

/-- A timer: what it calls, and how often. -/
structure Timer where
  task : Task
  /-- The time between two calls, in seconds. -/
  period : Float
deriving DecidableEq

/-- The topics from which transforms are gathered. -/
inductive TransformTopic where
  | changing
  | fixed
deriving DecidableEq, Repr

namespace TransformTopic

/-- Both topics, in the order in which they are subscribed to. -/
def all : List TransformTopic :=
  [.changing, .fixed]

/-- The name of the topic. -/
def topic : TransformTopic → String
  | .changing => "tf"
  | .fixed => "tf_static"

/-- How the listener calls the queue of the topic. -/
def role : TransformTopic → String
  | .changing => "qos"
  | .fixed => "static_qos"

/-- Fixed transforms are published once, so they are kept for late subscribers. -/
def profile : TransformTopic → QueueProfile
  | .changing => ⟨100, .volatile⟩
  | .fixed => ⟨100, .kept⟩

end TransformTopic

/-- An endpoint of the node. -/
inductive Endpoint where
  | transforms (source : TransformTopic)
  | publisher (output : Output)
  | subscription (input : Input)
  | service (service : Service)
  | timer (timer : Timer)
deriving DecidableEq

end MapIngest.Node
