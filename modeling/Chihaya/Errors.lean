import Chihaya.Go.Hex

/-!
# Errors

Go's `error` values, as the modelled code returns and compares them. Each sentinel error is a
constructor named after its Go variable; an error the code formats carries the values it is
formatted with; an error of a collaborator that the code only passes on (a failed database call, a
failed scan) carries its text.

`bittorrent/bittorrent.go` declares its own two infohash errors under other names
(`InvalidHashTypeError`, `InvalidHashSizeError`); they are kept apart from those of
`unnamed/part_000`, although their texts are the same.
-/

/-- The errors of the modelled packages. -/
inductive Error where
  /-- `bittorrent.ErrInvalidPeerIDSize`: "peer ID must be 20 bytes". -/
  | errInvalidPeerIDSize
  /-- `bittorrent.ErrInvalidHashType`: "info hash must be provided as byte slice or raw/hex
  string". -/
  | errInvalidHashType
  /-- `bittorrent.ErrInvalidHashSize`: "info hash must be either 20 (for torrent V1) or 32 (V2)
  bytes". -/
  | errInvalidHashSize
  /-- `InvalidHashTypeError` of `bittorrent/bittorrent.go`, with the text of `ErrInvalidHashType`. -/
  | invalidHashTypeError
  /-- `InvalidHashSizeError` of `bittorrent/bittorrent.go`, with the text of `ErrInvalidHashSize`. -/
  | invalidHashSizeError
  /-- `bittorrent.ErrInvalidPeerDataSize`: "invalid peer data it must be at least 26 bytes
  (InfoHash + Port + IPv4)". -/
  | errInvalidPeerDataSize
  /-- `bittorrent.ErrInvalidIP`. -/
  | errInvalidIP
  /-- An error of `hex.DecodeString`. -/
  | hex (e : Hex.DecodeError)
  /-- `storage.ErrResourceDoesNotExist`. -/
  | errResourceDoesNotExist
  /-- `errConnectionStringNotProvided` of the pg store: "database address not provided". -/
  | errConnectionStringNotProvided
  /-- `fmt.Errorf(errRequiredParameterNotSetMsg, name)`: "required parameter not provided: name". -/
  | errRequiredParameterNotSet (name : String)
  /-- `fmt.Errorf(errRequiredColumnsNotFoundMsg, columns)`: "one or more required columns not
  found in result set: columns". -/
  | errRequiredColumnsNotFound (columns : List String)
  /-- `varinterval.ErrInvalidModifyResponseProbability`: "invalid modify_response_probability". -/
  | errInvalidModifyResponseProbability
  /-- `varinterval.ErrInvalidMaxIncreaseDelta`: "invalid max_increase_delta". -/
  | errInvalidMaxIncreaseDelta
  /-- Any other error, passed on from a collaborator (a store, the database driver). -/
  | other (text : String)
  deriving DecidableEq, Repr
