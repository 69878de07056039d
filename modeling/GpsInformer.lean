import GpsInformer.Lib.Run
import GpsInformer.TcpClientAccounting
import GpsInformer.SslClientAccounting
import GpsInformer.UpstreamSegmentation
import GpsInformer.DeviceScan
import GpsInformer.UplinkRelay
import GpsInformer.AuthorizedIdentity
import GpsInformer.Lib.Schema
import GpsInformer.PropertyTree
import GpsInformer.TgTypeParser
import GpsInformer.UpdateSchema
import GpsInformer.HttpParser
import GpsInformer.HttpsClient
import GpsInformer.TelegramBot
import GpsInformer.ApplicationDatabase
import GpsInformer.ApplicationCommands
import GpsInformer.MessageHandling
import GpsInformer.ResponseHandling
import GpsInformer.BotEffects
import GpsInformer.UpdateBatches
import GpsInformer.HttpsQueue
import GpsInformer.PollingLoop
import GpsInformer.UpdateDelivery
import GpsInformer.SessionRegistry
import GpsInformer.SilentSessions
import GpsInformer.SessionIsolation
import GpsInformer.Lib.Triple
import GpsInformer.ApplicationEvents
import GpsInformer.DatabaseQueries
import GpsInformer.PresentedCodes
import GpsInformer.AccessLevels
import GpsInformer.GpsRecipients
import GpsInformer.Restarts
import GpsInformer.Lib.DeadlineTimer
import GpsInformer.Upstream
import GpsInformer.CancelledWaits
import GpsInformer.UpstreamAccess
import GpsInformer.Lib.Channel
import GpsInformer.TrackerLink
import GpsInformer.LinkReceiver
import GpsInformer.LinkAgreement
import GpsInformer.SettingsTable
import GpsInformer.UserModes
import GpsInformer.ReportedIdentity
import GpsInformer.TcpServer
import GpsInformer.Lib.Segments
import GpsInformer.Lib.WriteQueue
import GpsInformer.TcpClientWrites
import GpsInformer.TcpSessionWrites
import GpsInformer.ConnectionGrammar
import GpsInformer.TcpClientGrammar
import GpsInformer.SslClientGrammar
import GpsInformer.SslClientMoves
import GpsInformer.SslClientWrites
import GpsInformer.SslStack
import GpsInformer.HttpsStop
import GpsInformer.UpdateOffset
import GpsInformer.Lib.Glob
import GpsInformer.Utilities
import GpsInformer.ArmedMode
import GpsInformer.ChatTokens
import GpsInformer.Coordinates
import GpsInformer.DataHistory
import GpsInformer.Url
import GpsInformer.Lib.FormCoding
import GpsInformer.HttpRequests
import GpsInformer.Lib.Json
import GpsInformer.ReplyMarkup
import GpsInformer.BotRequests
import GpsInformer.Lib.Delimited
import GpsInformer.HttpMultipart
import GpsInformer.LinkDelivery
import GpsInformer.RelayChain
import GpsInformer.Dialog
import GpsInformer.DialogRefinement
import GpsInformer.UpdateProgress
import GpsInformer.Redelivery
import GpsInformer.Daemon
import GpsInformer.DaemonDialog
