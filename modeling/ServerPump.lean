import ServerPump.Library.Runs
import ServerPump.Library.ChangeLog
import ServerPump.Library.CText
import ServerPump.Library.Json
import ServerPump.Library.JsonDecode
import ServerPump.Server.Db
import ServerPump.Server.Shared
import ServerPump.Server.Update
import ServerPump.Server.JsonC
import ServerPump.Server.Mqtt
import ServerPump.Server.DbQuery
import ServerPump.Server.HttpApi
import ServerPump.Server.System
import ServerPump.Server.Threads
import ServerPump.Web.Dashboard
import ServerPump.Web.HistoryPage
import ServerPump.Proof.PostBody
import ServerPump.Proof.Update
import ServerPump.Proof.Ledger
import ServerPump.Proof.Restart
import ServerPump.Proof.FailedInsert
import ServerPump.Proof.Interleaving
import ServerPump.Proof.History
import ServerPump.Proof.GatewayStatus
import ServerPump.Proof.GatewayDot
import ServerPump.Proof.HistoryPage
import ServerPump.Proof.Linearization
import ServerPump.Proof.Observation
import ServerPump.Proof.Chronology
import ServerPump.Server.FieldReads
import ServerPump.Web.HistoryAnswer
import ServerPump.Proof.HistoryRecords
import ServerPump.Proof.Domain
import ServerPump.Proof.EntryPoints
import ServerPump.Proof.CommandLog
import ServerPump.Proof.GatewayHistory
import ServerPump.Proof.DateBounds
import ServerPump.Library.Paging
import ServerPump.Proof.Pages
import ServerPump.Proof.FailedLoad
import ServerPump.Proof.SearchTimer
import ServerPump.Proof.UnknownPump
import ServerPump.Proof.FeedbackOverlay
import ServerPump.Proof.RepeatedHeartbeat
import ServerPump.Proof.PostChunks
import ServerPump.Proof.SortOrder
import ServerPump.Proof.DateInputs
import ServerPump.Library.RingBuffer
import ServerPump.Proof.HistoryRing
import ServerPump.Proof.Cleanup
import ServerPump.Proof.HeartbeatTexts
import ServerPump.Proof.StatusTexts
import ServerPump.Library.Csv
import ServerPump.Web.HistoryExport
import ServerPump.Proof.CsvExport
import ServerPump.Library.Redelivery
import ServerPump.Proof.OwnRegisters
import ServerPump.Server.Broker
import ServerPump.Proof.ControlLoop
import ServerPump.Proof.HeartbeatLoop
import ServerPump.Proof.CommandRows
import ServerPump.Web.PumpCards
import ServerPump.Server.Daemon
import ServerPump.Proof.Requests
import ServerPump.Proof.Gets
import ServerPump.Proof.PostBuffers
import ServerPump.Proof.Settling
import ServerPump.Proof.PastStates
import ServerPump.Proof.Answers
import ServerPump.Web.StatusPage
import ServerPump.Proof.ShownState
import ServerPump.Proof.ButtonPress
import ServerPump.Web.HistorySession
import ServerPump.Proof.HistoryShown
import ServerPump.Web.PageControls
import ServerPump.Proof.HistoryDisplay
import ServerPump.Proof.Download
import ServerPump.Proof.ChosenRows
import ServerPump.Proof.PlainHistory
import ServerPump.Server.Process
import ServerPump.Proof.Shutdown
