import Linkly.TransitionRuns
import Linkly.KeyedRows
import Linkly.UniqueReading
import Linkly.KeyedCache
import Linkly.SortedPages
import Linkly.GreedyPairs
import Linkly.Tallies
import Linkly.TextSearch
import Linkly.PosixPath
import Linkly.JsText
import Linkly.IsoDate
import Linkly.SettingText
import Linkly.LocalDate
import Linkly.ByteText
import Linkly.Utf8Text
import Linkly.JsonText
import Linkly.JsonAccess
import Linkly.CoupleStore
import Linkly.CoupleService
import Linkly.CoupleConsistency
import Linkly.CoupleFrames
import Linkly.CoupleRaces
import Linkly.CoupleDeletion
import Linkly.ClosedInvites
import Linkly.PendingInvites
import Linkly.InviteExpiry
import Linkly.CoupleCalls
import Linkly.CoupleInfo
import Linkly.CoupleAtomicity
import Linkly.InviteCleanup
import Linkly.AbandonedCouples
import Linkly.EventService
import Linkly.CalendarTab
import Linkly.CalendarDays
import Linkly.Gallery
import Linkly.GalleryFiles
import Linkly.ChatService
import Linkly.ChatGateway
import Linkly.ChatRooms
import Linkly.ChatTab
import Linkly.ChatClient
import Linkly.ChatIds
import Linkly.ChatDuplicates
import Linkly.ChatLoss
import Linkly.ChatCatchUp
import Linkly.ChatEncryption
import Linkly.KeyRotation
import Linkly.RouteOverlap
import Linkly.TransitService
import Linkly.CoupleRoute
import Linkly.RouteCaching
import Linkly.RouteCacheRuns
import Linkly.GalleryPages
import Linkly.CoupleRequests
import Linkly.RewrittenRows
import Linkly.CoupleSecrecy
import Linkly.AuthService
import Linkly.MeetupStations
import Linkly.SeedKeys
import Linkly.TransitKeys
import Linkly.TransitCaching
import Linkly.ChatScroll
import Linkly.CoupleRouteHook
import Linkly.RouteCacheAge
import Linkly.EventsHook
import Linkly.PhotosHook
import Linkly.InitLocalEnv
import Linkly.LocalEnvRerun
import Linkly.LocalEnvKeys
import Linkly.TmapBodies
import Linkly.GalleryFailures
import Linkly.TmapTimes
import Linkly.GatewayHeartbeat
import Linkly.Reconnection
import Linkly.StationNames
import Linkly.StableStringify
import Linkly.ChatDelivery
import Linkly.PairingProgress
import Linkly.CoupleSettings
import Linkly.EventForms
import Linkly.PoiSearch
import Linkly.ChatWindow
import Linkly.AuthSession
import Linkly.LoginSessions
import Linkly.SilentClients
import Linkly.SettingsDates
import Linkly.MeetupBadges
import Linkly.TransitFreshness
import Linkly.GalleryRaces
