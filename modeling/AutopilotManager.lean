import AutopilotManager.Lib.Transition
import AutopilotManager.Lib.Double
import AutopilotManager.Lib.Words
import AutopilotManager.Lib.Text
import AutopilotManager.Lib.Numerals
import AutopilotManager.Lib.KeyLines
import AutopilotManager.Lib.Registers
import AutopilotManager.Lib.Streak
import AutopilotManager.Lib.MinElement
import AutopilotManager.Lib.Smoothing
import AutopilotManager.Lib.DoubleSmoothing
import AutopilotManager.Lib.Announcer
import AutopilotManager.Lib.LeadsTo
import AutopilotManager.Config.Basic
import AutopilotManager.Config.File
import AutopilotManager.Config.RoundTrip
import AutopilotManager.Service.Message
import AutopilotManager.Service.Schema
import AutopilotManager.Config.Persisted
import AutopilotManager.Config.Isolation
import AutopilotManager.Config.Malformed
import AutopilotManager.Config.Modules
import AutopilotManager.Service.Manager
import AutopilotManager.Service.SetConfig
import AutopilotManager.Service.GetConfig
import AutopilotManager.Service.Saved
import AutopilotManager.Mission.Basic
import AutopilotManager.Mission.Decision
import AutopilotManager.Mission.Step
import AutopilotManager.Mission.Frame
import AutopilotManager.Mission.Commands
import AutopilotManager.Mission.Unwritten
import AutopilotManager.Mission.Planner
import AutopilotManager.Mission.InProgress
import AutopilotManager.Mission.Spacing
import AutopilotManager.Mission.Smoothing
import AutopilotManager.Mission.TakeOff
import AutopilotManager.Mission.SearchEnd
import AutopilotManager.Mission.Trajectory
import AutopilotManager.Mission.Waypoint
import AutopilotManager.Mission.Departure
import AutopilotManager.Mission.Dispatch
import AutopilotManager.Mission.Stationary
import AutopilotManager.Mission.Undecided
import AutopilotManager.Mission.Answers
import AutopilotManager.Mission.Descent
import AutopilotManager.Landing.Mapper
import AutopilotManager.Landing.Health
import AutopilotManager.Landing.Parameters
import AutopilotManager.Landing.PointCloud
import AutopilotManager.Collision.Distance
import AutopilotManager.Collision.Region
import AutopilotManager.System.Basic
import AutopilotManager.System.Verdict
import AutopilotManager.System.Heartbeat
import AutopilotManager.System.Obstacle
import AutopilotManager.System.SearchHeight
import AutopilotManager.CustomAction.Queue
import AutopilotManager.CustomAction.Handler
import AutopilotManager.CustomAction.Access
import AutopilotManager.CustomAction.Join
import AutopilotManager.CustomAction.Responses
import AutopilotManager.CustomAction.StageWait
import AutopilotManager.CustomAction.Cancellation
import AutopilotManager.CustomAction.Staged
import AutopilotManager.CustomAction.Progress
import AutopilotManager.CustomAction.Refinement
import AutopilotManager.CustomAction.Accepted
import AutopilotManager.CustomAction.Liveness
import AutopilotManager.CustomAction.Served
import AutopilotManager.Sensor.TimeSync
import AutopilotManager.Sensor.Accuracy
import AutopilotManager.Sensor.TimeJump
import AutopilotManager.Sensor.ExactSync
import AutopilotManager.Sensor.GainSchedule
import AutopilotManager.Sensor.DepthImage
import AutopilotManager.Sensor.Downsampler
import AutopilotManager.Sensor.Health
import AutopilotManager.System.Process
import AutopilotManager.System.Refinement
import AutopilotManager.System.Evidence
import AutopilotManager.System.AvoidanceFlag
import AutopilotManager.System.Scope
import AutopilotManager.System.Origin
import AutopilotManager.System.Intervention
