import Chihaya.Go.Hex
import Chihaya.Go.Netip
import Chihaya.Go.Time
import Chihaya.Go.Strings
import Chihaya.Errors
import Chihaya.Bittorrent.InfoHash
import Chihaya.Bittorrent.Peer
import Chihaya.Bittorrent.Announce
import Chihaya.Frontend.Http.Writer
import Chihaya.Frontend.Http.Scrape
import Chihaya.Storage.Memory
import Chihaya.Bittorrent.Endpoint
import Chihaya.Storage.Pg.Config
import Chihaya.Storage.Pg.Store
import Chihaya.Storage.Pg.Count
import Chihaya.Middleware.Hooks
import Chihaya.Middleware.AppendPeers
import Chihaya.Middleware.Mirror
import Chihaya.Middleware.VarInterval
import Chihaya.Middleware.Lifecycle
import Chihaya.Middleware.Pipeline
import Chihaya.Middleware.TorrentApproval.ListContainer
import Chihaya.Cmd.Main
