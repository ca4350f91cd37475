import Watchdog.Model.Value

namespace Watchdog

def Container.zero {N : Type} : Container N := ⟨GoNumeric.zeroTime, [], []⟩

structure Monitor where
  chain : String
  inUse : Bool
  WorkingMetadata : MetadataContainer
  WorkingBlockHeader : BlockHeaderContainer
  MetadataSnapshot : MetadataContainer
  BlockHeaderSnapshot : BlockHeaderContainer
  SummarySnapshot : List (String × Dict)
  NoReplySnapshot : List NoReply
  consensusProgress : List (String × Bool)
  LastCrossLinks : LastCrossLinkReply

def Monitor.init (chain : String) : Monitor :=
  ⟨chain, false, .zero, .zero, .zero, .zero, [], [], [], ⟨[]⟩⟩

def Monitor.metadataCopy (m : Monitor) (newData : MetadataContainer) : Monitor :=
  { m with MetadataSnapshot := ⟨newData.TS, newData.Nodes, newData.Down⟩ }

def Monitor.blockHeaderCopy (m : Monitor) (newData : BlockHeaderContainer) : Monitor :=
  { m with BlockHeaderSnapshot := ⟨newData.TS, newData.Nodes, newData.Down⟩ }

def Monitor.summaryCopy (m : Monitor) (newData : List (String × Dict)) : Monitor :=
  { m with SummarySnapshot := newData }

end Watchdog
