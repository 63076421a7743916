import Hepta.Journal.Event

/-!
# The append-only journal

`OmsJournal` at record granularity. The file is the list of its complete records, cut in
two at the last successful data sync; records accepted but not yet written wait in the
buffer or in the asynchronous queue. What the file system does during one call is an input
of the call.
-/

namespace Hepta

/-- The `HEPTA_OMS_*` settings that decide where an accepted record goes. -/
structure OmsJournalConfig where
  asyncEnabled : Bool := false
  syncCritical : Bool := true
  criticalFlushQueued : Bool := false
  batchSize : Nat := 1
  flushIntervalMs : Int := 0
deriving DecidableEq, Repr

structure OmsJournal where
  synced : List OmsJournalEvent := []
  unsynced : List OmsJournalEvent := []
  bufferedLines : List OmsJournalEvent := []
  asyncQueue : List OmsJournalEvent := []
  writePoisoned : Bool := false
  lastFlushMs : Int := 0
deriving DecidableEq, Repr

/-- How the write of one record ends. Every failure poisons the writer; a torn record is
never complete, the others leave a complete record that was not acknowledged. -/
inductive WriteFault
  | none
  | torn
  | unsynced
  | unacknowledged
deriving DecidableEq, Repr

/-- What the descriptor, the encoder and the file system do during one append. -/
structure AppendIo where
  /-- The record or the queue capacity is refused before anything is written. -/
  refused : Bool := false
  /-- The pinned path no longer names the open file. -/
  pathReplaced : Bool := false
  /-- The flush of waiting records stops after this many of them. -/
  flushStops : Option Nat := Option.none
  write : WriteFault := .none
  nowMs : Int := 0
deriving DecidableEq, Repr

/-- Nothing goes wrong during the append. -/
def AppendIo.clean (io : AppendIo) : Prop :=
  io.refused = false ∧ io.pathReplaced = false ∧ io.flushStops = Option.none ∧ io.write = .none
deriving Decidable

namespace OmsJournal

variable (cfg : OmsJournalConfig) (j : OmsJournal)

/-- The complete records of the file. -/
def written : List OmsJournalEvent := j.synced ++ j.unsynced

/-- The records accepted and not yet written. -/
def pending : List OmsJournalEvent := j.bufferedLines ++ j.asyncQueue

/-- `WriteLineToPinnedFileLocked`: a durable write syncs the whole file. -/
def writeLine (event : OmsJournalEvent) (durable : Bool) (io : AppendIo) : Bool × OmsJournal :=
  if j.writePoisoned then (false, j)
  else match io.write with
    | .none =>
      if durable then
        (true, { j with synced := j.written ++ [event], unsynced := [], lastFlushMs := io.nowMs })
      else (true, { j with unsynced := j.unsynced ++ [event], lastFlushMs := io.nowMs })
    | .torn => (false, { j with writePoisoned := true })
    | .unsynced => (false, { j with unsynced := j.unsynced ++ [event], writePoisoned := true })
    | .unacknowledged =>
      if durable then
        (false, { j with synced := j.written ++ [event], unsynced := [], writePoisoned := true })
      else (false, { j with unsynced := j.unsynced ++ [event], writePoisoned := true })

/-- `FlushBufferedLocked`: writes the buffer in order, without a sync. -/
def flushBuffered (io : AppendIo) : Bool × OmsJournal :=
  if j.bufferedLines = [] then (true, j)
  else if j.writePoisoned then (false, j)
  else match io.flushStops with
    | none => (true, { j with
        unsynced := j.unsynced ++ j.bufferedLines, bufferedLines := [], lastFlushMs := io.nowMs })
    | some n => (false, { j with
        unsynced := j.unsynced ++ j.bufferedLines.take n
        bufferedLines := j.bufferedLines.drop n
        writePoisoned := true
        lastFlushMs := if n = 0 then j.lastFlushMs else io.nowMs })

/-- `FlushQueuedNoLock`: the queue moves to the buffer and the buffer is written. -/
def flushQueued (io : AppendIo) : Bool × OmsJournal :=
  flushBuffered { j with bufferedLines := j.pending, asyncQueue := [] } io

def queueLine (event : OmsJournalEvent) (asynchronous : Bool) : OmsJournal :=
  if asynchronous then { j with asyncQueue := j.asyncQueue ++ [event] }
  else { j with bufferedLines := j.bufferedLines ++ [event] }

/-- The waiting records that a synchronous critical write flushes first. -/
def flushBeforeCritical (io : AppendIo) : Bool × OmsJournal :=
  if cfg.asyncEnabled then
    if cfg.criticalFlushQueued then j.flushQueued io else (true, j)
  else j.flushBuffered io

def append (event : OmsJournalEvent) (io : AppendIo) : Bool × OmsJournal :=
  if j.writePoisoned then (false, j)
  else if io.pathReplaced then (false, { j with writePoisoned := true })
  else if io.refused then (false, j)
  else if event.eventType.isCritical then
    if cfg.syncCritical then
      match flushBeforeCritical cfg j io with
      | (true, j) => j.writeLine event true io
      | (false, j) => (false, j)
    else if cfg.asyncEnabled then (true, j.queueLine event true)
    else (j.queueLine event false).flushBuffered io
  else if cfg.asyncEnabled then (true, j.queueLine event true)
  else
    let queued := j.queueLine event false
    let shouldFlushBySize := cfg.batchSize ≤ 1 ∨ cfg.batchSize ≤ queued.bufferedLines.length
    let shouldFlushByTime := cfg.flushIntervalMs = 0 ∨
      cfg.flushIntervalMs ≤ io.nowMs - j.lastFlushMs
    if shouldFlushBySize ∨ shouldFlushByTime then queued.flushBuffered io else (true, queued)

inductive DurablePairResult
  | committed
  | firstFailed
  | secondFailed
deriving DecidableEq, Repr

/-- `OmsJournal::AppendDurablePair`: two critical records behind one sync. The second
input is about the second record; its refusal is found before anything is written. -/
def appendDurablePair (first second : OmsJournalEvent) (io io' : AppendIo) :
    DurablePairResult × OmsJournal :=
  if j.writePoisoned then (.firstFailed, j)
  else if io.pathReplaced then (.firstFailed, { j with writePoisoned := true })
  else if !first.eventType.isCritical || io.refused then (.firstFailed, j)
  else if !second.eventType.isCritical || io'.refused then (.secondFailed, j)
  else match flushBeforeCritical cfg j io with
    | (false, j) => (.firstFailed, j)
    | (true, j) => match j.writeLine first false io with
      | (false, j) => (.firstFailed, j)
      | (true, j) => match j.writeLine second true io' with
        | (false, j) => (.secondFailed, j)
        | (true, j) => (.committed, j)

/-- What happens while the journal is read back: the sync of the flushed records, then the
limits, the snapshot and the identity checks of `Replay`. -/
structure ReplayIo where
  flushStops : Option Nat := none
  syncFails : Bool := false
  unreadable : Bool := false
  nowMs : Int := 0
deriving DecidableEq, Repr

/-- `OmsJournal::Replay`: the records handed to the callback, or none on failure. -/
def replay (io : ReplayIo) : Option (List OmsJournalEvent) × OmsJournal :=
  match j.flushQueued { flushStops := io.flushStops, nowMs := io.nowMs } with
  | (false, j) => (none, j)
  | (true, j) =>
    if j.writePoisoned then (none, j)
    else if io.syncFails then (none, { j with writePoisoned := true })
    else
      let j := { j with synced := j.written, unsynced := [] }
      if io.unreadable then (none, j) else (some j.synced, j)

/-- The journal that a new process opens after a crash: exactly the synced records. -/
def afterCrash : OmsJournal := { synced := j.synced }

end OmsJournal

end Hepta
