import IoGateway.Foundation.LittleEndian

/-! # Gateway constants and data structures -/

namespace IoGateway

def bufferSize : Nat := 16384

def maxDataSize : Nat := 10485760

/-- Pause before the client connects again (`GW_RECONNECT_TIMEOUT`, milliseconds). -/
def gwReconnectTimeout : Nat := 5000

inductive GatewayState
  | waiting
  | processing
  | connected
deriving DecidableEq, Repr

structure ConnectionStatistics where
  packetsIn : UInt64
  packetsOut : UInt64
  bytesIn : UInt64
  bytesOut : UInt64
deriving DecidableEq, Repr

namespace ConnectionStatistics

def new : ConnectionStatistics := ⟨0, 0, 0, 0⟩

def incPacketsIn (statistics : ConnectionStatistics) : ConnectionStatistics :=
  { statistics with packetsIn := statistics.packetsIn + 1 }

def incPacketsOut (statistics : ConnectionStatistics) : ConnectionStatistics :=
  { statistics with packetsOut := statistics.packetsOut + 1 }

def addBytesIn (statistics : ConnectionStatistics) (bytes : UInt64) : ConnectionStatistics :=
  { statistics with bytesIn := statistics.bytesIn + bytes }

def addBytesOut (statistics : ConnectionStatistics) (bytes : UInt64) : ConnectionStatistics :=
  { statistics with bytesOut := statistics.bytesOut + bytes }

end ConnectionStatistics

end IoGateway
