import QuadControl.Lib.Getopt
import QuadControl.Android.Passthrough
import QuadControl.Android.Launch
import QuadControl.Lib.Utf8
import QuadControl.Ios.Mjpeg
import QuadControl.Ios.MjpegRendering
import QuadControl.Ios.MjpegScan
import QuadControl.Ios.Wda
import QuadControl.Ios.WdaSessions
import QuadControl.Ios.WdaText
import QuadControl.Gui.IosSession
import QuadControl.Gui.IosSlot
import QuadControl.Gui.IosDevice
import QuadControl.Gui.IosMeta
import QuadControl.Gui.IosListings
import QuadControl.Gui.Pairing
import QuadControl.Gui.SessionHandles
import QuadControl.Gui.Reclaim
import QuadControl.Android.Wireless
import QuadControl.Android.PairingRound
import QuadControl.Android.PairInFlight
import QuadControl.Android.RoundResult
import QuadControl.Android.RoundClose
import QuadControl.Android.Devices
import QuadControl.Android.PairQr
import QuadControl.Android.PairQrCancel
import QuadControl.Apple.Transcript
import QuadControl.Apple.Agreement
import QuadControl.Gui.IosPanel
import QuadControl.Gui.IosOwner
import QuadControl.Apple.AnnexB
import QuadControl.Apple.AnnexBUnits
import QuadControl.Apple.TokenUse
import QuadControl.Apple.Wire
import QuadControl.Apple.FramedConnection
import QuadControl.Apple.Admission
import QuadControl.Apple.AdmissionBounds
import QuadControl.Apple.Envelope
import QuadControl.Apple.Server
import QuadControl.Apple.ServerTurns
import QuadControl.Apple.ServerSlots
import QuadControl.Apple.ServerRuns
import QuadControl.Apple.ServerEvents
import QuadControl.Apple.ClientCallbacks
import QuadControl.Apple.ClientBeats
import QuadControl.Apple.ServerBeats
import QuadControl.Apple.Heartbeats
import QuadControl.Apple.HeartbeatRuns
import QuadControl.Apple.TranscriptOperations
import QuadControl.Apple.ScreenRecord
import QuadControl.Ios.MjpegSlot
import QuadControl.Ios.MjpegSlotRuns
import QuadControl.Ios.MjpegDownstream
import QuadControl.Ios.MjpegStop
import QuadControl.Ios.Supervisor
import QuadControl.Ios.SupervisorTurns
import QuadControl.Android.Supervise
import QuadControl.Ios.SupervisorClient
import QuadControl.Ios.SupervisorChildren
import QuadControl.Ios.SupervisorTunnel
import QuadControl.Ios.SupervisorDelete
import QuadControl.Android.MdnsServices
import QuadControl.Android.MdnsPrinting
import QuadControl.Android.Deduplicate
import QuadControl.Android.PairQrGuid
import QuadControl.Ios.WdaBase64
import QuadControl.Ios.Devices
import QuadControl.Lib.Collect
import QuadControl.Gui.ShutdownAll
import QuadControl.Ios.SupervisorDeath
import QuadControl.Android.CommandLine
import QuadControl.Lib.Replace
import QuadControl.Android.Redaction
import QuadControl.Ios.MjpegPump
import QuadControl.Ios.MjpegSegments
import QuadControl.Ios.MjpegEnd
import QuadControl.Ios.MjpegBuffers
import QuadControl.Gui.ContentPoint
import QuadControl.Apple.AndroidDisplay
import QuadControl.Apple.DevicePoint
import QuadControl.Apple.StreamSize
import QuadControl.Gui.RecentApps
import QuadControl.Apple.ConnectionModel
import QuadControl.Apple.AndroidInput
import QuadControl.Process.TerminateAll
import QuadControl.Android.ProbeReport
import QuadControl.Apple.DisplaySizes
import QuadControl.Apple.DisplayWatcher
import QuadControl.Lib.Reads
import QuadControl.Process.RingBuffer
import QuadControl.Android.Capture
import QuadControl.Apple.AnnexBBuffer
import QuadControl.Apple.H264Decoder
import QuadControl.Apple.H264Sessions
import QuadControl.Android.ScrcpyVersion
import QuadControl.Ios.GoIosVersion
import QuadControl.Lib.Reaping
import QuadControl.Process.CommandTimeouts
import QuadControl.Process.CommandJoins
import QuadControl.Gui.BeginShutdown
import QuadControl.Android.AdbDevices
import QuadControl.Android.ProbeRun
import QuadControl.Android.LaunchRun
import QuadControl.Apple.Dialogue
import QuadControl.Apple.DialogueClient
import QuadControl.Apple.DialogueServer
import QuadControl.Apple.HonestRuns
import QuadControl.Lib.SleepClock
import QuadControl.Process.Terminate
import QuadControl.Android.Interrupt
import QuadControl.Process.TerminateAllClock
import QuadControl.Ios.MjpegCut
import QuadControl.Ios.MjpegRelay
import QuadControl.Ios.WdaResults
import QuadControl.Android.PairingSecret
