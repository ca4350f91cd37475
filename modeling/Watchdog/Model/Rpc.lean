import Watchdog.Foundations.GoNumeric

namespace Watchdog

abbrev Bytes := List UInt8

def NodeMetadataRPC : String := "hmy_getNodeMetadata"
def BlockHeaderRPC : String := "hmy_latestHeader"
def PendingCXRPC : String := "hmy_getPendingCXReceipts"
def SuperCommitteeRPC : String := "hmy_getSuperCommittees"
def LastCrossLinkRPC : String := "hmy_getLastCrossLinks"
def LatestHeadersRPC : String := "hmy_getLatestChainHeaders"

structure ChainConfig where
  ChainID : Int64
  CrossLinkEpoch : Int64
  CrossTxEpoch : Int64
  Eip155Epoch : Int64
  PreStakingEpoch : Int64
  S3Epoch : Int64
  StakingEpoch : Int64
  deriving DecidableEq, Repr

structure NodeMetadataReply where
  BLSPublicKey : List Bytes
  Version : String
  NetworkType : String
  IsLeader : Bool
  ShardID : UInt32
  NodeRole : String
  BlocksPerEpoch : Int64
  DNSZone : String
  ArchivalNode : Bool
  ChainConfig : ChainConfig
  deriving DecidableEq, Repr

structure NodeMetadata where
  Payload : NodeMetadataReply
  IP : String
  deriving DecidableEq, Repr

structure BlockHeaderReply where
  BlockHash : String
  BlockNumber : UInt64
  ShardID : UInt32
  Leader : String
  ViewID : UInt64
  Epoch : UInt64
  Timestamp : String
  UnixTime : Int64
  LastCommitSig : Bytes
  LastCommitBitmap : String
  deriving DecidableEq, Repr

structure BlockHeader where
  Payload : BlockHeaderReply
  IP : String
  deriving DecidableEq, Repr

structure CrossLink where
  Hash : String
  BlockNumber : Int64
  Signature : String
  SignatureBitmap : String
  ShardID : Int64
  EpochNumber : Int64
  deriving DecidableEq, Repr

structure LastCrossLinkReply where
  CrossLinks : List CrossLink
  deriving DecidableEq, Repr

structure Header where
  Hash : String
  Number : UInt64
  Epoch : UInt64
  ShardID : UInt32
  ViewID : UInt64
  deriving DecidableEq, Repr

structure HeaderPair where
  Beacon : Header
  AuxShard : Header
  deriving DecidableEq, Repr

structure NoReply where
  IP : String
  FailureReason : String
  RPCPayload : Bytes
  ShardID : Int64
  deriving DecidableEq, Repr

structure Container (N : Type) where
  TS : Int
  Nodes : List N
  Down : List NoReply
  deriving DecidableEq, Repr

abbrev MetadataContainer := Container NodeMetadata

abbrev BlockHeaderContainer := Container BlockHeader

structure Work where
  address : String
  rpc : String
  body : Bytes
  deriving DecidableEq, Repr

structure Reply where
  address : String
  rpc : String
  rpcPayload : Bytes
  rpcResult : Bytes
  oops : Option String
  deriving DecidableEq, Repr

end Watchdog
