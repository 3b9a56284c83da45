import TempoBt.App.Events
import TempoBt.App.LogFormat
import TempoBt.Lib.InsertionSort
import TempoBt.Lib.Machine
import TempoBt.Lib.Median
import TempoBt.Lib.Paging
import TempoBt.Lib.Pipeline
import TempoBt.Lib.Runs
import TempoBt.Services.Logger.UnsafeStart
import TempoBt.Services.Logger.Session
import TempoBt.Services.FileWriter.Conservation
import TempoBt.Services.FileWriter.Concurrent
import TempoBt.Services.Gnss.Demux
import TempoBt.Services.Gnss.Acknowledge
import TempoBt.Services.Gnss.Fix
import TempoBt.Services.Gnss.RealTime
import TempoBt.Services.Aggregator.LogLines
import TempoBt.Services.Storage.Paths
import TempoBt.Services.Storage.ListedPaths
import TempoBt.Services.UsbRx
import TempoBt.Services.Logger.GnssRate
import TempoBt.App.Radio
import TempoBt.App.AlarmSession
import TempoBt.App.SessionList
import TempoBt.App.SessionPages
import TempoBt.App.SessionLosses
import TempoBt.App.SettingsRequests
import TempoBt.Services.MagCalibration
import TempoBt.Services.MagCorrection
import TempoBt.App.ActiveSession
import TempoBt.App.SessionDelete
import TempoBt.App.Led
import TempoBt.App.UsbTerminal
import TempoBt.Services.Logger.StateRecords
import TempoBt.Services.Logger.GroundAltitude
import TempoBt.Services.Logger.Outliers
import TempoBt.Services.Logger.ExecutiveRuns
import TempoBt.Services.Logger.Takeoff
import TempoBt.App.CalibrationRoundTrip
import TempoBt.App.EventBus
import TempoBt.Tools.PatchRmc
import TempoBt.Services.Gnss.Transmit
import TempoBt.App.TestLogging
import TempoBt.App.AlarmRuns
import TempoBt.Services.Gnss.Memory
import TempoBt.Util.NmeaGrammar
import TempoBt.Services.Aggregator.Arrival
import TempoBt.Services.UsbTty.Disconnect
import TempoBt.Services.UsbTty.Stream
import TempoBt.Services.Gnss.Resync
import TempoBt.Services.Gnss.Uart
import TempoBt.Services.Orientation
import TempoBt.Services.Logger.Header
import TempoBt.Services.Logger.Pairs
import TempoBt.Lib.PythonNumber
import TempoBt.Tools.MagCal
import TempoBt.Services.Gnss.Tokens
import TempoBt.Lib.Durable
import TempoBt.Lib.Words
import TempoBt.App.SettingsStore
import TempoBt.Lib.FileTree
import TempoBt.Services.Storage.Directories
import TempoBt.Services.LedService
import TempoBt.Services.Baro.Thread
import TempoBt.Lib.FixedPoint
import TempoBt.Services.Baro.Compensation
import TempoBt.Lib.Calendar
import TempoBt.Lib.FixedWidth
import TempoBt.Services.DateTime
import TempoBt.App.SessionDays
import TempoBt.App.Buttons
