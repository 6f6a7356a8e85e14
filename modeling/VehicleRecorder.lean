import VehicleRecorder.Lib.NorFlash
import VehicleRecorder.Lib.FlagLog
import VehicleRecorder.Lib.Bytes
import VehicleRecorder.Dataflash.DfOper
import VehicleRecorder.Dataflash.Device
import VehicleRecorder.Dataflash.RecordAdd
import VehicleRecorder.Dataflash.RecordAddPowerLoss
import VehicleRecorder.Dataflash.CycleStore
import VehicleRecorder.Dataflash.CycleQueue
import VehicleRecorder.Dataflash.CycleDelivery
import VehicleRecorder.Dataflash.CycleOverflow
import VehicleRecorder.Dataflash.FlashOper
import VehicleRecorder.Dataflash.LogRegions
import VehicleRecorder.Dataflash.LogIsolation
import VehicleRecorder.Dataflash.RecordNum
import VehicleRecorder.Lib.ByteStuffing
import VehicleRecorder.Protocol.Framing
import VehicleRecorder.Protocol.AppState
import VehicleRecorder.Protocol.Services
import VehicleRecorder.Protocol.Parameters
import VehicleRecorder.Protocol.TcpRxProcess
import VehicleRecorder.Protocol.ParameterList
import VehicleRecorder.Protocol.CopyBounds
import VehicleRecorder.Lib.Prefix
import VehicleRecorder.Protocol.ListBytes
import VehicleRecorder.Protocol.FrameLocality
import VehicleRecorder.Protocol.FrameDependence
import VehicleRecorder.Protocol.RecordFrame
import VehicleRecorder.Protocol.Geofence
import VehicleRecorder.Protocol.ItemTables
import VehicleRecorder.Protocol.RouteJudge
import VehicleRecorder.Dataflash.Directory
import VehicleRecorder.Lib.CursorWriter
import VehicleRecorder.Protocol.RecorderAck
import VehicleRecorder.Protocol.ReportLink
import VehicleRecorder.Lib.Mailbox
import VehicleRecorder.Protocol.LoopMailboxes
import VehicleRecorder.Camera.PicStore
import VehicleRecorder.Camera.Receiver485
import VehicleRecorder.Camera.Media
import VehicleRecorder.Camera.UploadCursor
import VehicleRecorder.Camera.MultiTake
import VehicleRecorder.Gsm.HexCodec
import VehicleRecorder.Dataflash.CycleChecks
import VehicleRecorder.Dataflash.CyclePeek
import VehicleRecorder.Dataflash.PositionRecord
import VehicleRecorder.Dataflash.PageRewrite
import VehicleRecorder.Lib.Footprint
import VehicleRecorder.Protocol.ItemBounds
import VehicleRecorder.Protocol.ParameterFrame
import VehicleRecorder.Camera.ResendList
import VehicleRecorder.Camera.SegmentedUpload
import VehicleRecorder.Protocol.SettingReport
import VehicleRecorder.Lib.MaximalRuns
import VehicleRecorder.Lib.TrailingRun
import VehicleRecorder.Dataflash.CycleFailure
import VehicleRecorder.Dataflash.DirectoryOrder
import VehicleRecorder.Camera.MediaIndex
import VehicleRecorder.Protocol.TextMessages
import VehicleRecorder.Driving.DriveState
import VehicleRecorder.Driving.SaveProcess
import VehicleRecorder.Driving.Overspeed
import VehicleRecorder.Driving.AvrgSpeed
import VehicleRecorder.Gps.GpsState
import VehicleRecorder.Gps.TimedReport
import VehicleRecorder.Gps.KAdjust
import VehicleRecorder.Gps.RmcFields
import VehicleRecorder.Lib.FieldScanner
import VehicleRecorder.Gps.Sentences
import VehicleRecorder.Gps.FieldBuffers
import VehicleRecorder.Lib.Gregorian
import VehicleRecorder.Gps.RmcDecode
import VehicleRecorder.Gps.DistanceReport
import VehicleRecorder.Gps.LocalTimer
import VehicleRecorder.Protocol.TrackingLock
import VehicleRecorder.Protocol.PhoneBook
import VehicleRecorder.Lib.Layout
import VehicleRecorder.Protocol.AreaLayout
import VehicleRecorder.Protocol.TimeWindow
import VehicleRecorder.Lib.EarlyExit
import VehicleRecorder.Protocol.AreaAlarms
import VehicleRecorder.Protocol.UplinkBuffers
import VehicleRecorder.Lib.Lines
import VehicleRecorder.Gsm.LineFraming
import VehicleRecorder.Gsm.VoiceStore
import VehicleRecorder.Lib.RingWindow
import VehicleRecorder.Driving.AccidentRecord
import VehicleRecorder.Protocol.IspAck
import VehicleRecorder.Protocol.TextConversion
import VehicleRecorder.Lib.RunCounts
import VehicleRecorder.Lib.PriorityServer
import VehicleRecorder.Protocol.Terminal
import VehicleRecorder.Protocol.SendReport
import VehicleRecorder.Gsm.DialProcess
import VehicleRecorder.Gsm.GsmProcess
import VehicleRecorder.Protocol.DownlinkEffects
import VehicleRecorder.Gsm.ModemEffects
import VehicleRecorder.Protocol.TerminalRuns
import VehicleRecorder.Protocol.RequestRuns
import VehicleRecorder.Protocol.LoginRuns
import VehicleRecorder.Protocol.LinkTimers
import VehicleRecorder.Protocol.CounterBounds
import VehicleRecorder.Lib.NodePool
import VehicleRecorder.Lib.QueueHistory
import VehicleRecorder.Gsm.MessagePool
import VehicleRecorder.Gsm.PoolHistory
import VehicleRecorder.Gsm.LineDelivery
import VehicleRecorder.Lib.TagLengthValue
import VehicleRecorder.Protocol.PositionMessages
import VehicleRecorder.Protocol.PositionReader
import VehicleRecorder.Protocol.PositionDelivery
import VehicleRecorder.Camera.IndexRecords
import VehicleRecorder.Protocol.IndexQuery
