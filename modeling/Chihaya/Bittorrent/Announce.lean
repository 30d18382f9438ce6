import Chihaya.Go.Time
import Chihaya.Bittorrent.InfoHash
import Chihaya.Bittorrent.Peer

/-!
# Announces and scrapes

The request and response records the hooks and the HTTP frontend pass around, with the fields the
modelled code reads or writes. Counters are `uint32`, so they wrap as Go's do; intervals are
`time.Duration`s.
-/

namespace Bittorrent

open Time

/-- `bittorrent.Event`, the `event` parameter of an announce. -/
inductive Event where
  | none
  | started
  | stopped
  | completed
  deriving DecidableEq, Repr

/-- `AnnounceRequest`: the fields of an announce that the hooks read. -/
structure AnnounceRequest where
  /-- `Event`: what the client reports, a start, a stop, a completion or nothing. -/
  event : Event
  /-- `InfoHash`: the torrent the client announces on. -/
  infoHash : InfoHash
  /-- `NumWant`: how many peers the client asks for. -/
  numWant : UInt32
  /-- `Left`: how many bytes the client still misses; `0` for a seeder. -/
  left : UInt64
  /-- The embedded `Peer`: the client itself. -/
  peer : Peer
  deriving DecidableEq

/-- `AnnounceResponse`. -/
structure AnnounceResponse where
  /-- `Compact`: whether peers are written in the compact format. -/
  compact : Bool
  /-- `Complete`: the number of seeders. -/
  complete : UInt32
  /-- `Incomplete`: the number of leechers. -/
  incomplete : UInt32
  /-- `Interval`: how long the client should wait before it announces again. -/
  interval : Duration
  /-- `MinInterval`: how long the client must wait at least before it announces again. -/
  minInterval : Duration
  /-- `IPv4Peers`: the peers with an IPv4 address handed to the client. -/
  ipv4Peers : List Peer
  /-- `IPv6Peers`: the peers with an IPv6 address handed to the client. -/
  ipv6Peers : List Peer
  deriving DecidableEq

/-- `Scrape`: the counters of one swarm. -/
structure Scrape where
  /-- `InfoHash`: the torrent the counters are of. -/
  infoHash : InfoHash
  /-- `Snatches`: completed downloads. -/
  snatches : UInt32
  /-- `Complete`: seeders. -/
  complete : UInt32
  /-- `Incomplete`: leechers. -/
  incomplete : UInt32
  deriving DecidableEq

/-- `ScrapeRequest`: the infohashes a client asks about. -/
structure ScrapeRequest where
  /-- `InfoHashes`: the torrents asked about, in request order. -/
  infoHashes : List InfoHash

/-- `ScrapeResponse`: one `Scrape` per requested infohash, in request order. -/
structure ScrapeResponse where
  /-- `Files`: one `Scrape` per torrent asked about. -/
  files : List Scrape

end Bittorrent
