import AvSession.Registry.Atomicity
import AvSession.Service.Operations
import AvSession.Service.TopFrame
import AvSession.Service.TopSession
import AvSession.Service.Controllers
import AvSession.Service.UsersInv
import AvSession.Service.ServiceInv
import AvSession.Service.Release
import AvSession.Focus.Running
import AvSession.Focus.Transitions
import AvSession.Lib.MaskedRecord
import AvSession.Lib.Parcel
import AvSession.Meta.MetaData
import AvSession.Meta.Codec
import AvSession.Meta.PlaybackState
import AvSession.Meta.Delivery
import AvSession.Meta.Views
import AvSession.Meta.Images
import AvSession.Focus.DelayedStop
import AvSession.History.Records
import AvSession.Queue.Store
import AvSession.Queue.Recent
import AvSession.Queue.Image
import AvSession.Queue.ReadBack
import AvSession.History.Watch
import AvSession.Service.LeftSessions
import AvSession.Service.Bookkeeping
import AvSession.Service.FrontKept
import AvSession.Service.FrontSession
import AvSession.Service.AllSessions
import AvSession.Service.LiveSessions
import AvSession.Lib.CString
import AvSession.Lib.TaskQueue
import AvSession.Migrate.Server
import AvSession.Migrate.Frames
import AvSession.Migrate.Observer
import AvSession.Migrate.SessionInfo
import AvSession.Lib.KeyedRecord
import AvSession.Migrate.Media
import AvSession.Migrate.MediaSession
import AvSession.Migrate.MediaSync
import AvSession.Lib.Decimal
import AvSession.Migrate.ControlCommand
import AvSession.Migrate.SuperProxy
import AvSession.Softbus.Sessions
import AvSession.Softbus.DataManager
import AvSession.Softbus.Proxies
import AvSession.Softbus.References
import AvSession.Softbus.Attribution
import AvSession.Lib.FloatFormat
import AvSession.Migrate.Base64
import AvSession.Migrate.PlayStateCodec
import AvSession.Migrate.LongPause
import AvSession.Migrate.Heard
import AvSession.Migrate.PauseRuns
import AvSession.Lib.Register
import AvSession.Remote.Parcels
import AvSession.Remote.Session
import AvSession.Remote.Cast
import AvSession.Remote.Converge
import AvSession.Background.Sessions
import AvSession.Meta.Cover
import AvSession.Descriptor.Codec
import AvSession.Meta.Refused
import AvSession.Descriptor.SessionInfo
import AvSession.Remote.CastMap
import AvSession.Cast.Switch
import AvSession.Cast.Devices
import AvSession.Cast.Discovery
import AvSession.Cast.Listeners
import AvSession.Service.LocalFront
import AvSession.Service.FrontFrame
import AvSession.Service.LocalFrontRuns
import AvSession.Lib.MaskAlgebra
import AvSession.Meta.MaskLaws
import AvSession.Lib.TypedRecords
import AvSession.Meta.Malformed
import AvSession.Command.ControlCommand
import AvSession.Command.Codecs
import AvSession.Lib.ParcelScan
import AvSession.Queue.Parcels
import AvSession.Descriptor.BasicInfo
import AvSession.History.Uninstall
import AvSession.Migrate.ValidCommands
import AvSession.Migrate.MediaImage
import AvSession.Migrate.PlayStateCut
import AvSession.Lib.BlockHash
import AvSession.Lib.FixedBuffer
import AvSession.Lib.Sha256
import AvSession.Hash.Calculator
import AvSession.Hash.Digest
import AvSession.Migrate.ControllerList
import AvSession.Cast.CommandGroups
import AvSession.Lib.FlowLimiter
import AvSession.Service.KeyClicks
import AvSession.Service.MediaCard
import AvSession.Service.FlowControl
import AvSession.Common.SharedMemory
import AvSession.Common.Codes
import AvSession.Common.PixelMap
import AvSession.Lib.FileNames
import AvSession.Service.CacheCleanup
import AvSession.Lib.CappedList
import AvSession.Utils.StorageEvent
import AvSession.Background.ObservedApps
import AvSession.Cast.CastIds
import AvSession.Cast.DeviceStates
import AvSession.Service.KeyWhitelist
import AvSession.Softbus.MacAddress
import AvSession.Utils.Anonymize
import AvSession.Cast.Capabilities
import AvSession.Lib.Loop
import AvSession.Lib.Quota
import AvSession.Command.Handlers
import AvSession.Command.Delivery
import AvSession.Command.CommandLimit
import AvSession.Command.Delivered
import AvSession.Command.Attached
import AvSession.Meta.CallData
import AvSession.Lib.Board
import AvSession.Publish.Topics
import AvSession.Publish.Followers
import AvSession.Lyric.Ability
import AvSession.Lyric.InSync
import AvSession.Native.CoverDownload
import AvSession.Native.CoverKept
import AvSession.Lib.Mailbox
import AvSession.Playback.Proxy
import AvSession.Playback.RealPosition
import AvSession.Lib.Holders
import AvSession.Pcm.CastSession
import AvSession.Pcm.Holding
import AvSession.Pcm.InHand
import AvSession.Pcm.Players
