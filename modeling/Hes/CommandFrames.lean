import Hes.Mqtt

set_option autoImplicit false

namespace Hes.CommandFrames

open Text Mqtt

/-- Mac address, path and hop count of a node, as the queues hold them. -/
structure NodeRecord where
  macAddress : Bytes
  pathRecord : Bytes
  hopCount : UInt8
  deriving DecidableEq, Repr

/-- The texts of the gateway's PAN id and of its address. -/
structure GatewayTexts where
  panId : Bytes
  sourceId : Bytes
  deriving DecidableEq, Repr

def dlmsCmdLen : Nat := 8

def maxData : Nat := 128

/-- The gateway itself has a path of one address. -/
def pathLength (hopCount : UInt8) : Nat := if hopCount.toNat > 0 then hopCount.toNat * 4 else 4

/-- A whole `PMESHQuerycmd`. The source converts 16 bytes for the two addresses of four; what that
writes behind them is assigned again, and so is the rest of it by the path and the command. -/
def queryCommand (texts : GatewayTexts) (cmdType : UInt8) (path : Bytes) (hopCount : UInt8)
    (command : Bytes) : Bytes :=
  let data := convertAscHexStringToBytes path (pathLength hopCount) ++ command
  [0x2E, UInt8.ofNat (12 + pathLength hopCount + command.length), cmdType] ++
    convertAscHexStringToBytes ([0, 0, 0, 0] ++ texts.panId) 4 ++
    convertAscHexStringToBytes texts.sourceId 4 ++ [0x00, hopCount] ++
    data ++ List.replicate (maxData - data.length) 0

/-- The command behind the path, with the sum of its bytes. -/
def dlmsQuery (frameId cmdId : UInt8) : Bytes :=
  let fields : Bytes := [0x2B, 0x07, 0x00, frameId, cmdId, 0x00, 0x00]
  fields ++ [fields.foldl (fun sum byte => sum + byte) 0]

def frameNPCmdToPullData (texts : GatewayTexts) (destination : Bytes) (hopCount : UInt8) :
    Option Bytes :=
  if hopCount.toNat * 4 + dlmsCmdLen > maxData then none
  else some (queryCommand texts 0x07 destination hopCount (dlmsQuery 0x0E 0x00))

def frameScalarProfileCmdToPull (texts : GatewayTexts) (pathRecord : Bytes) (hopCount profile : UInt8) :
    Option Bytes :=
  if hopCount.toNat * 4 + dlmsCmdLen > maxData then none
  else if profile = 1 || profile = 2 || profile = 3 || profile = 4 then
    some (queryCommand texts 0x07 pathRecord hopCount (dlmsQuery 0x0A profile))
  else none

def frameUnsilenceCmd (texts : GatewayTexts) (pathRecord : Bytes) (hopCount : UInt8) : Option Bytes :=
  if pathLength hopCount + dlmsCmdLen > maxData then none
  else some (queryCommand texts 0x03 pathRecord hopCount [0x00, 0x9D])

/-- The bytes that are transmitted: the length byte counts all but the first one. -/
def transmitted (frame : Bytes) : Bytes := slice frame 0 ((byteAt frame 1).toNat + 1)

theorem frameNP_iff (texts : GatewayTexts) (destination : Bytes) (hopCount : UInt8) :
    (frameNPCmdToPullData texts destination hopCount).isSome = true <-> hopCount.toNat ≤ 30 := by
  unfold frameNPCmdToPullData dlmsCmdLen maxData
  split
  next large =>
    have : ¬ hopCount.toNat ≤ 30 := by omega
    simp [this]
  next fits =>
    have : hopCount.toNat ≤ 30 := by omega
    simp [this]

theorem frameUnsilence_iff (texts : GatewayTexts) (pathRecord : Bytes) (hopCount : UInt8) :
    (frameUnsilenceCmd texts pathRecord hopCount).isSome = true <-> hopCount.toNat ≤ 30 := by
  have large : pathLength hopCount + dlmsCmdLen > maxData <-> ¬ hopCount.toNat ≤ 30 := by
    unfold pathLength dlmsCmdLen maxData
    split <;> omega
  unfold frameUnsilenceCmd
  split
  next beyond => simp [large.mp beyond]
  next fits => simpa [large] using fits

end Hes.CommandFrames
