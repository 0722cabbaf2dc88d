import ProxyVPN.Lib.Transition
import ProxyVPN.Lib.Fifo
import ProxyVPN.Hev.RingBufferFifo
import ProxyVPN.Hev.SessionTcpDownstream
import ProxyVPN.Hev.TaskIO
import ProxyVPN.Hev.Socks5Udp
import ProxyVPN.Hev.Socks5UdpFrames
import ProxyVPN.App.TunPacketInterceptor
import ProxyVPN.Lib.OnesComplement
import ProxyVPN.App.TunPacketLoop
import ProxyVPN.App.DnsReply
import ProxyVPN.Hev.List
import ProxyVPN.Lib.Recency
import ProxyVPN.Lib.SearchTree
import ProxyVPN.Hev.MappedDns
import ProxyVPN.Hev.MappedDnsCache
import ProxyVPN.Hev.TunnelSync
import ProxyVPN.Hev.TunnelStops
import ProxyVPN.App.TunnelVpnService
import ProxyVPN.App.TunnelRestart
import ProxyVPN.App.TunnelSwitch
import ProxyVPN.App.ProxySources
import ProxyVPN.App.ProxyFinder
import ProxyVPN.App.ProxyCache
import ProxyVPN.Hev.TunnelRounds
import ProxyVPN.Hev.TunnelSessions
import ProxyVPN.Hev.TunnelSessionSet
import ProxyVPN.Hev.TunnelSessionLimit
import ProxyVPN.Hev.JniService
import ProxyVPN.Hev.JniStopRequests
import ProxyVPN.Hev.JniWorkers
import ProxyVPN.Hev.SessionTcpUpstream
import ProxyVPN.App.MainViewModel
import ProxyVPN.App.Favorites
import ProxyVPN.App.PoolMarks
import ProxyVPN.App.QuickCheck
import ProxyVPN.Hev.Socks5Addr
import ProxyVPN.Hev.Socks5UdpSend
import ProxyVPN.Hev.Socks5UdpOutput
import ProxyVPN.Hev.Socks5UdpRoundTrip
import ProxyVPN.Hev.MappedDnsHandle
import ProxyVPN.Lib.DnsMessage
import ProxyVPN.Hev.MappedDnsWalk
import ProxyVPN.Hev.MappedDnsAnswers
import ProxyVPN.Hev.MappedDnsResponse
import ProxyVPN.Hev.AddrFromLwip
import ProxyVPN.Hev.MappedDnsTrip
import ProxyVPN.Hev.Socks5Authenticator
import ProxyVPN.Hev.Socks5Client
import ProxyVPN.Hev.Socks5Server
import ProxyVPN.Hev.Socks5Handshake
import ProxyVPN.Hev.Socks5ServerAuth
import ProxyVPN.Lib.Inquiry
import ProxyVPN.Hev.Socks5ClientModes
import ProxyVPN.Hev.MappedDnsForeign
import ProxyVPN.App.DnsClassifier
import ProxyVPN.Hev.Socks5UdpHeaders
import ProxyVPN.Hev.Socks5UdpDatagrams
import ProxyVPN.Hev.Socks5UdpPeers
import ProxyVPN.App.ProxyLists
import ProxyVPN.Lib.Json
import ProxyVPN.Lib.JsonText
import ProxyVPN.Lib.JsonHoles
import ProxyVPN.App.XrayConfig
import ProxyVPN.App.ShadowsocksLinks
import ProxyVPN.App.ScrapedEndpoints
import ProxyVPN.App.ListedFavorites
import ProxyVPN.App.BackgroundRefresh
import ProxyVPN.App.Liveness
import ProxyVPN.Hev.SessionUdpFrames
import ProxyVPN.Lib.HashSet
import ProxyVPN.App.ProxyKeys
import ProxyVPN.Hev.Socks5AuthenticatorMap
import ProxyVPN.Hev.TunnelFd
import ProxyVPN.Lib.CText
import ProxyVPN.Lib.Yaml
import ProxyVPN.Hev.Config
import ProxyVPN.Hev.ConfigStack
import ProxyVPN.Lib.Retry
import ProxyVPN.Hev.UdpInput
import ProxyVPN.Lib.JavaScript
import ProxyVPN.Lib.Readings
import ProxyVPN.Worker.UpdateProxies
import ProxyVPN.Worker.SharedList
import ProxyVPN.Lib.RedBlack
import ProxyVPN.Lib.RedBlackRepair
import ProxyVPN.Lib.RedBlackSearch
import ProxyVPN.Hev.RBTree
import ProxyVPN.Hev.RBTreeLayout
import ProxyVPN.Hev.RBTreeInsert
import ProxyVPN.Hev.RBTreeUnlink
import ProxyVPN.Hev.RBTreeErase
import ProxyVPN.Hev.RBTreeWalk
import ProxyVPN.Hev.RBTreeSearch
import ProxyVPN.Lib.Rounds
import ProxyVPN.Hev.RBTreeRounds
import ProxyVPN.Hev.RBTreeCached
import ProxyVPN.Hev.MappedDnsMemory
import ProxyVPN.Hev.Socks5AuthenticatorMemory
import ProxyVPN.Hev.TaskTimer
import ProxyVPN.Hev.TaskSchedule
import ProxyVPN.Hev.TaskMachine
import ProxyVPN.Hev.TaskScheduleSteps
import ProxyVPN.Hev.TaskMachineSound
import ProxyVPN.Hev.TaskMachineRuns
import ProxyVPN.Hev.TaskMachineRounds
import ProxyVPN.Hev.TaskSystem
import ProxyVPN.Lib.FairQueue
import ProxyVPN.Hev.TaskFair
