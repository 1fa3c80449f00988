import Gaze.Scalar
import Gaze.Geometry.Vector
import Gaze.Geometry.Approach
import Gaze.Geometry.Rotation
import Gaze.Vergence
import Gaze.Sensor.Frame
import Gaze.Sensor.Event
import Gaze.Sensor.Sample
import Gaze.Tracker
import Gaze.HeadPose
import Gaze.Accuracy
import Gaze.Decimal.Binary
import Gaze.Decimal.Shortest
import Gaze.Decimal.Positional
import Gaze.Decimal.Nearest
import Gaze.Text.NumberLiteral
import Gaze.Text.Blank
import Gaze.Text.Split
import Gaze.Text.Alphanumeric
import Gaze.Text.GraphemeExtend
import Gaze.Text.Printable
import Gaze.Text.Quoted
import Gaze.Error
import Gaze.SensorVector
import Gaze.Message.Fields
import Gaze.Message.Format
import Gaze.Message.Parse
import Gaze.Config
import Gaze.Toml.Value
import Gaze.Toml.Lexical
import Gaze.Toml.Document
import Gaze.Toml.Decode
import Gaze.Config.Load
import Gaze.Sensor.Load
import Gaze.Random.ChaCha
import Gaze.Random.Normal
import Gaze.Simulation
import Gaze.Proofs.Split
import Gaze.Proofs.ValueText
import Gaze.Proofs.MessageFields
import Gaze.Proofs.MessageRoundTrip
import Gaze.Proofs.RejectedDelimiter
import Gaze.Proofs.TrackerRun
import Gaze.Proofs.RealGeometry
import Gaze.Proofs.NoiselessFixation
import Gaze.Proofs.ClosestApproach
import Gaze.Proofs.Checked
import Gaze.Proofs.VergenceEstimate
import Gaze.Proofs.Reencoding
import Gaze.Proofs.RigidMotion
import Gaze.Proofs.VergenceInvariance
import Gaze.Proofs.AccuracyCheck
import Gaze.Proofs.FloatWord
import Gaze.Proofs.ScaledNumbers
import Gaze.Proofs.NearestWord
import Gaze.Proofs.ShortestDecimal
import Gaze.Proofs.FloatText
import Gaze.Proofs.VectorText
