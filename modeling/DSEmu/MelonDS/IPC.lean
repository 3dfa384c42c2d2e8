import DSEmu.Library.Indexed
import DSEmu.MelonDS.FIFO
import DSEmu.MelonDS.NDS

/-!
# The mailboxes between the two processors

The registers by which the ARM9 and the ARM7 talk to each other: `IPCSYNC`, `IPCFIFOCNT`, and the
ends of the two queues, as `ARM9IOWrite8` and its siblings in `src/NDS.cpp` of melonDS serve them.
The code of one processor is the code of the other with the names exchanged; here it is one
definition over the processor `cpu` that makes the access, and `cpu.rev` is the other one.
-/

namespace DSEmu

open scoped Indexed

/-- `IRQ_IPCSync` -/
def irqIPCSync : UInt32 := 16

/-- `IRQ_IPCSendDone` -/
def irqIPCSendDone : UInt32 := 17

/-- `IRQ_IPCRecv` -/
def irqIPCRecv : UInt32 := 18

/-- The queue in the order of the class. -/
def IPCFIFO.toFIFO (f : IPCFIFO) : FIFO UInt32 16 :=
  ⟨f.entries, f.numOccupied, f.readPos, f.writePos⟩

/-- The queue in the order of a savestate. -/
def FIFO.toIPCFIFO (f : FIFO UInt32 16) : IPCFIFO :=
  ⟨f.numOccupied, f.readPos, f.writePos, f.entries⟩

namespace NDSG

/-- The queue that a processor writes, `IPCFIFO9` or `IPCFIFO7`. -/
def ipcFIFO (g : NDSG) (cpu : Fin 2) : FIFO UInt32 16 :=
  (if cpu = 0 then g.ipcFIFO9 else g.ipcFIFO7).toFIFO

/-- `IPCFIFOCnt9` or `IPCFIFOCnt7`. -/
def ipcFIFOCnt (g : NDSG) (cpu : Fin 2) : UInt16 := if cpu = 0 then g.ipcFIFOCnt9 else g.ipcFIFOCnt7

/-- `IPCSync9` or `IPCSync7`. -/
def ipcSync (g : NDSG) (cpu : Fin 2) : UInt16 := if cpu = 0 then g.ipcSync9 else g.ipcSync7

end NDSG

namespace NDS

variable {κ : Type} (components : Components κ)

def setIPCFIFO (cpu : Fin 2) (fifo : FIFO UInt32 16) (n : NDS κ) : NDS κ :=
  if cpu = 0 then { n with ipcFIFO9 := fifo.toIPCFIFO } else { n with ipcFIFO7 := fifo.toIPCFIFO }

def setIPCFIFOCnt (cpu : Fin 2) (val : UInt16) (n : NDS κ) : NDS κ :=
  if cpu = 0 then { n with ipcFIFOCnt9 := val } else { n with ipcFIFOCnt7 := val }

def setIPCSync (cpu : Fin 2) (val : UInt16) (n : NDS κ) : NDS κ :=
  if cpu = 0 then { n with ipcSync9 := val } else { n with ipcSync7 := val }

/-- The IPC part of `Reset`. -/
def resetIPC (n : NDS κ) : NDS κ :=
  { n with
    ipcSync9 := 0
    ipcSync7 := 0
    ipcFIFOCnt9 := 0
    ipcFIFOCnt7 := 0
    ipcFIFO9 := n.ipcFIFO9.toFIFO.clear.toIPCFIFO
    ipcFIFO7 := n.ipcFIFO7.toFIFO.clear.toIPCFIFO }

/-- A write to `IPCSYNC`: the four bits of data for the other processor, the bits of the own
register, and whether it asks for an interrupt. -/
def updateIPCSync (cpu : Fin 2) (data own : UInt16) (request : Bool) (n : NDS κ) : NDS κ :=
  let n := n.setIPCSync cpu.rev ((n.ipcSync cpu.rev &&& 0xFFF0) ||| data)
  let n := n.setIPCSync cpu ((n.ipcSync cpu &&& 0xB0FF) ||| own)
  if request ∧ n.ipcSync cpu.rev &&& 0x4000 ≠ 0 then setIRQ components cpu.rev irqIPCSync n else n

/-- A byte written to 0x04000181. -/
def writeIPCSyncHigh (cpu : Fin 2) (val : UInt8) (n : NDS κ) : NDS κ :=
  updateIPCSync components cpu (val &&& 0x0F).toUInt16 ((val &&& 0x4F).toUInt16 <<< 8)
    (val &&& 0x20 ≠ 0) n

/-- A halfword written to 0x04000180. -/
def writeIPCSync (cpu : Fin 2) (val : UInt16) (n : NDS κ) : NDS κ :=
  updateIPCSync components cpu ((val &&& 0x0F00) >>> 8) (val &&& 0x4F00) (val &&& 0x2000 ≠ 0) n

/-- A halfword written to 0x04000184. -/
def writeIPCFIFOCnt (cpu : Fin 2) (val : UInt16) (n : NDS κ) : NDS κ :=
  let n := if val &&& 0x0008 ≠ 0 then n.setIPCFIFO cpu (n.ipcFIFO cpu).clear else n
  let n :=
    if val &&& 0x0004 ≠ 0 ∧ n.ipcFIFOCnt cpu &&& 0x0004 = 0 ∧ (n.ipcFIFO cpu).isEmpty then
      setIRQ components cpu irqIPCSendDone n
    else n
  let n :=
    if val &&& 0x0400 ≠ 0 ∧ n.ipcFIFOCnt cpu &&& 0x0400 = 0 ∧ !(n.ipcFIFO cpu.rev).isEmpty then
      setIRQ components cpu irqIPCRecv n
    else n
  let n :=
    if val &&& 0x4000 ≠ 0 then n.setIPCFIFOCnt cpu (n.ipcFIFOCnt cpu &&& ~~~0x4000) else n
  n.setIPCFIFOCnt cpu ((val &&& 0x8404) ||| (n.ipcFIFOCnt cpu &&& 0x4000))

/-- A word written to 0x04000188. -/
def sendIPC (cpu : Fin 2) (val : UInt32) (n : NDS κ) : Option (NDS κ) :=
  if n.ipcFIFOCnt cpu &&& 0x8000 ≠ 0 then
    if (n.ipcFIFO cpu).isFull then
      some (n.setIPCFIFOCnt cpu (n.ipcFIFOCnt cpu ||| 0x4000))
    else do
      let wasempty := (n.ipcFIFO cpu).isEmpty
      let fifo ← (n.ipcFIFO cpu).write val
      let n := n.setIPCFIFO cpu fifo
      if n.ipcFIFOCnt cpu.rev &&& 0x0400 ≠ 0 ∧ wasempty then
        return setIRQ components cpu.rev irqIPCRecv n
      else return n
  else some n

/-- A word read from 0x04100000. -/
def receiveIPC (cpu : Fin 2) (n : NDS κ) : Option (UInt32 × NDS κ) :=
  if n.ipcFIFOCnt cpu &&& 0x8000 ≠ 0 then
    if (n.ipcFIFO cpu.rev).isEmpty then do
      let n := n.setIPCFIFOCnt cpu (n.ipcFIFOCnt cpu ||| 0x4000)
      let ret ← (n.ipcFIFO cpu.rev).peek
      return (ret, n)
    else do
      let (ret, fifo) ← (n.ipcFIFO cpu.rev).read
      let n := n.setIPCFIFO cpu.rev fifo
      if (n.ipcFIFO cpu.rev).isEmpty ∧ n.ipcFIFOCnt cpu.rev &&& 0x0004 ≠ 0 then
        return (ret, setIRQ components cpu.rev irqIPCSendDone n)
      else return (ret, n)
  else do
    let ret ← (n.ipcFIFO cpu.rev).peek
    return (ret, n)

/-- What a read of 0x04000184 returns. -/
def readIPCFIFOCnt (cpu : Fin 2) (n : NDS κ) : UInt16 :=
  let val := n.ipcFIFOCnt cpu
  let val :=
    if (n.ipcFIFO cpu).isEmpty then val ||| 0x0001
    else if (n.ipcFIFO cpu).isFull then val ||| 0x0002
    else val
  if (n.ipcFIFO cpu.rev).isEmpty then val ||| 0x0100
  else if (n.ipcFIFO cpu.rev).isFull then val ||| 0x0200
  else val

end NDS

/-- The writes to these registers, by their width. -/
inductive IPCWrite where
  /-- 0x04000181 -/
  | sync8 (val : UInt8)
  /-- 0x04000180 -/
  | sync16 (val : UInt16)
  | sync32 (val : UInt32)
  /-- 0x04000184 -/
  | cnt16 (val : UInt16)
  | cnt32 (val : UInt32)
  /-- 0x04000188 -/
  | send8 (val : UInt8)
  | send16 (val : UInt16)
  | send32 (val : UInt32)
  deriving DecidableEq, Repr

/-- `ARM9IOWrite8`, `ARM9IOWrite16` and `ARM9IOWrite32`, and those of the ARM7, at these registers.
-/
def NDS.writeIPC {κ : Type} (components : Components κ) (cpu : Fin 2) (n : NDS κ) :
    IPCWrite → Option (NDS κ)
  | .sync8 val => some (writeIPCSyncHigh components cpu val n)
  | .sync16 val => some (writeIPCSync components cpu val n)
  | .sync32 val => some (writeIPCSync components cpu val.toUInt16 n)
  | .cnt16 val => some (writeIPCFIFOCnt components cpu val n)
  | .cnt32 val => some (writeIPCFIFOCnt components cpu val.toUInt16 n)
  | .send8 val =>
    let val := val.toUInt32
    sendIPC components cpu (val ||| val <<< 8 ||| val <<< 16 ||| val <<< 24) n
  | .send16 val => sendIPC components cpu (val.toUInt32 ||| val.toUInt32 <<< 16) n
  | .send32 val => sendIPC components cpu val n

end DSEmu
