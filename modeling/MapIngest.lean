import MapIngest.Act
import MapIngest.Calibration.Camera
import MapIngest.Calibration.Message
import MapIngest.Calibration.Reprojection
import MapIngest.Calibration.State
import MapIngest.Config.Assignment
import MapIngest.Config.EngineParams
import MapIngest.Config.Files
import MapIngest.Config.Issue
import MapIngest.Config.Layers
import MapIngest.Config.Location
import MapIngest.Config.ManagerParams
import MapIngest.Config.Merge
import MapIngest.Config.Namespace
import MapIngest.Config.Parameters
import MapIngest.Config.Path
import MapIngest.Config.Reading
import MapIngest.Config.Schema
import MapIngest.Config.Shipped
import MapIngest.Coordinator.Basic
import MapIngest.Coordinator.Insertion
import MapIngest.Coordinator.Operations
import MapIngest.Decimal.Binary64
import MapIngest.Decimal.Integer
import MapIngest.Decimal.Layout
import MapIngest.Decimal.Numeral
import MapIngest.Decimal.Places
import MapIngest.Decimal.Rounding
import MapIngest.Decimal.Shortest
import MapIngest.Engine.Basic
import MapIngest.Engine.Launch
import MapIngest.Engine.Plugin
import MapIngest.Engine.Snapshot
import MapIngest.Exports
import MapIngest.Fault.Basic
import MapIngest.Fault.Conversion
import MapIngest.Geometry.Pose.Basic
import MapIngest.Geometry.Pose.Message
import MapIngest.Geometry.Pose.Reading
import MapIngest.Geometry.Quaternion
import MapIngest.Geometry.Vector
import MapIngest.Ingest.Poses
import MapIngest.Ingest.Stats
import MapIngest.Ingest.Status
import MapIngest.Log
import MapIngest.Node.Answers
import MapIngest.Node.Basic
import MapIngest.Node.Bus
import MapIngest.Node.Endpoint
import MapIngest.Node.Lifecycle
import MapIngest.Node.Reception
import MapIngest.Node.Startup
import MapIngest.Proofs.Act
import MapIngest.Proofs.Calibration.Event
import MapIngest.Proofs.Calibration.Settlement
import MapIngest.Proofs.Calibration.Triangulation
import MapIngest.Proofs.Calibration.Usability
import MapIngest.Proofs.Config.Agreement
import MapIngest.Proofs.Config.Assignment
import MapIngest.Proofs.Config.Declaration
import MapIngest.Proofs.Config.Division
import MapIngest.Proofs.Config.Fields
import MapIngest.Proofs.Config.Grouping
import MapIngest.Proofs.Config.Intrusion
import MapIngest.Proofs.Config.Layering
import MapIngest.Proofs.Config.Limits
import MapIngest.Proofs.Config.Merge
import MapIngest.Proofs.Config.Nesting
import MapIngest.Proofs.Config.Ordering
import MapIngest.Proofs.Config.Precedence
import MapIngest.Proofs.Config.RoundTrip
import MapIngest.Proofs.Config.Routes
import MapIngest.Proofs.Config.Schema
import MapIngest.Proofs.Config.Shape
import MapIngest.Proofs.Config.Spelling
import MapIngest.Proofs.Config.Validation
import MapIngest.Proofs.Coordinator.Box
import MapIngest.Proofs.Coordinator.Conservation
import MapIngest.Proofs.Coordinator.Entry
import MapIngest.Proofs.Coordinator.Forwarding
import MapIngest.Proofs.Coordinator.Isolation
import MapIngest.Proofs.Coordinator.Mirroring
import MapIngest.Proofs.Coordinator.Notices
import MapIngest.Proofs.Coordinator.Passage
import MapIngest.Proofs.Coordinator.Publication
import MapIngest.Proofs.Coordinator.Recording
import MapIngest.Proofs.Coordinator.Telling
import MapIngest.Proofs.Coordinator.Wholeness
import MapIngest.Proofs.Decimal.Bits
import MapIngest.Proofs.Decimal.Inverse
import MapIngest.Proofs.Decimal.Order
import MapIngest.Proofs.Decimal.Quotient
import MapIngest.Proofs.Decimal.Range
import MapIngest.Proofs.Decimal.Residue
import MapIngest.Proofs.Decimal.Unpacked
import MapIngest.Proofs.Engine.Loading
import MapIngest.Proofs.Engine.Message
import MapIngest.Proofs.Fallible
import MapIngest.Proofs.Geometry.Motion
import MapIngest.Proofs.Geometry.Reading
import MapIngest.Proofs.Ingest.Consultation
import MapIngest.Proofs.Ingest.Counting
import MapIngest.Proofs.Ingest.Report
import MapIngest.Proofs.Ingest.Sighting
import MapIngest.Proofs.Mirror
import MapIngest.Proofs.Node.Publication
import MapIngest.Proofs.Node.Reception
import MapIngest.Proofs.Node.Recording
import MapIngest.Proofs.Node.Timers
import MapIngest.Proofs.Run
import MapIngest.Proofs.Sensor.Cloud
import MapIngest.Proofs.Sensor.Decoding
import MapIngest.Proofs.Sensor.Encoding
import MapIngest.Proofs.Sensor.Image
import MapIngest.Proofs.Sensor.Single
import MapIngest.Proofs.Sensor.Window
import MapIngest.Proofs.Tensor
import MapIngest.Proofs.Tensor.Reading
import MapIngest.Proofs.Transcript
import MapIngest.Proofs.Transform.Escape
import MapIngest.Proofs.Value.Mapping
import MapIngest.Proofs.Value.Nested
import MapIngest.Proofs.Yaml.Entry
import MapIngest.Rehearsal.Board
import MapIngest.Rehearsal.Catalogue
import MapIngest.Rehearsal.Clockwork
import MapIngest.Rehearsal.Engine
import MapIngest.Rehearsal.Observation
import MapIngest.Rehearsal.PoseTable
import MapIngest.Rehearsal.Record
import MapIngest.Rehearsal.Script
import MapIngest.Rehearsal.TransformTable
import MapIngest.Sensor.Bytes
import MapIngest.Sensor.Extent
import MapIngest.Sensor.Image
import MapIngest.Sensor.Message
import MapIngest.Sensor.Observation
import MapIngest.Sensor.PointCloud
import MapIngest.Sensor.Single
import MapIngest.Tensor
import MapIngest.Text.Blank
import MapIngest.Text.Digit
import MapIngest.Text.Encoding
import MapIngest.Text.Hex
import MapIngest.Text.Printable
import MapIngest.Text.Quoted
import MapIngest.Text.Sextets
import MapIngest.Transform.Buffer
import MapIngest.Transform.Stamp
import MapIngest.Value.Basic
import MapIngest.Value.Conversion
import MapIngest.Value.Display
import MapIngest.Value.Mapping
import MapIngest.Yaml.Character
import MapIngest.Yaml.Composition
import MapIngest.Yaml.Cursor
import MapIngest.Yaml.Document
import MapIngest.Yaml.Node
import MapIngest.Yaml.Plain
import MapIngest.Yaml.Timestamp
import MapIngest.Yaml.Token.Basic
import MapIngest.Yaml.Token.Block
import MapIngest.Yaml.Token.Plain
import MapIngest.Yaml.Token.Quoted
import MapIngest.Yaml.Token.Stream
import MapIngest.Yaml.Token.Tag
