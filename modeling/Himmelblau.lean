import Himmelblau.ResolverDeadlock
import Himmelblau.ResolverPassword
import Himmelblau.Lockout
import Himmelblau.FreshToken
import Himmelblau.HelloConsent
import Himmelblau.OfflineTotp
import Himmelblau.ForcedReauth
import Himmelblau.OidcOutage
import Himmelblau.Transactions
import Himmelblau.GroupCache
import Himmelblau.IdRanges
import Himmelblau.PamRuns
import Himmelblau.TokenGroups
import Himmelblau.BlockingClient
import Himmelblau.BrokerIsolation
import Himmelblau.NameConfusion
import Himmelblau.AllowedDistros
import Himmelblau.PinChange
import Himmelblau.RememberedNames
import Himmelblau.PolicyScripts
import Himmelblau.EtcPasswd
import Himmelblau.AdvertisedHome
import Himmelblau.AccessDecisions
import Himmelblau.AccountFrame
import Himmelblau.CachedUsers
import Himmelblau.SubidRecords
import Himmelblau.BreakGlass
import Himmelblau.SessionLog
import Himmelblau.RemoteSessions
import Himmelblau.InitGroups
import Himmelblau.ContainerPool
import Himmelblau.ProviderDefinitions
