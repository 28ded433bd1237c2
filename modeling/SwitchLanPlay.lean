import SwitchLanPlay.RelayDelivery
import SwitchLanPlay.ControlQueue
import SwitchLanPlay.RelayEviction
import SwitchLanPlay.VTcp
import SwitchLanPlay.VTcpHandshake
import SwitchLanPlay.SeqSpace
import SwitchLanPlay.VTcpSender
import SwitchLanPlay.VTcpEndpoint
import SwitchLanPlay.RelayCount
import SwitchLanPlay.Teardown
import SwitchLanPlay.Tunnel
import SwitchLanPlay.TunnelAck
import SwitchLanPlay.TunnelEof
import SwitchLanPlay.Isolation
import SwitchLanPlay.VTcpListener
import SwitchLanPlay.LocalAddress
import SwitchLanPlay.VTcpKeys
import SwitchLanPlay.Drainers
import SwitchLanPlay.BridgedSocket
import SwitchLanPlay.RuntimeCfg
import SwitchLanPlay.RelayIntegrity
import SwitchLanPlay.DummySkip
import SwitchLanPlay.RelayCircle
import SwitchLanPlay.RelayMalformed
import SwitchLanPlay.RelayOrder
import SwitchLanPlay.RelayStale
import SwitchLanPlay.SelectReply
import SwitchLanPlay.PollReply
import SwitchLanPlay.Readiness
import SwitchLanPlay.ConnectCommand
import SwitchLanPlay.RelayMemory
import SwitchLanPlay.Checksums
import SwitchLanPlay.PortQueues
import SwitchLanPlay.InboxMemory
import SwitchLanPlay.AckConsumed
import SwitchLanPlay.ListenerSocket
import SwitchLanPlay.PendingRequests
import SwitchLanPlay.FreshDatagrams
import SwitchLanPlay.PacketRing
import SwitchLanPlay.DnsResolve
import SwitchLanPlay.ServerFile
import SwitchLanPlay.Selection
import SwitchLanPlay.ConfigService
import SwitchLanPlay.LdnCodec
import SwitchLanPlay.FdTable
import SwitchLanPlay.FragAssembler
import SwitchLanPlay.RelayPeer
import SwitchLanPlay.PiaPacket
import SwitchLanPlay.LdnHost
import SwitchLanPlay.LdnVTcp
import SwitchLanPlay.Locking
import SwitchLanPlay.DatagramNet
import SwitchLanPlay.VTcpResends
import SwitchLanPlay.RelayLifecycle
import SwitchLanPlay.RelayPicker
import SwitchLanPlay.LdnWire
import SwitchLanPlay.LdnStream
import SwitchLanPlay.LdnDiscovery
import SwitchLanPlay.Filling
import SwitchLanPlay.HmacSha256
import SwitchLanPlay.LanBrowse
import SwitchLanPlay.LanLobby
