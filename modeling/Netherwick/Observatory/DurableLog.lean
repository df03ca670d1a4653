import Netherwick.Lib.FramedLog
import Netherwick.Lib.Run
import Netherwick.Observatory.Paging

/-! # The durable event log

Loss-intolerant events are appended as lines to one file, which is rotated when it grows too long.
An append may stop anywhere; the process may stop at any time and the log is opened again, which
reads all files and cuts the active one behind its last good line. A record is whatever has a
number, an identity and a line. -/

namespace Netherwick.Observatory

open Netherwick.Lib

/-- How records are written, with what the log looks at. -/
structure DurableFormat (Record : Type) extends LineFormat Record where
  sequence : Record → Nat
  eventId : Record → String

structure BrainEventDurabilityConfig where
  maxSegmentBytes : Nat
  retainedSegments : Nat
deriving DecidableEq, Repr

def BrainEventDurabilityConfig.normalized (config : BrainEventDurabilityConfig) :
    BrainEventDurabilityConfig where
  maxSegmentBytes := max config.maxSegmentBytes 1
  retainedSegments := max config.retainedSegments 1

structure DurableFile (Record : Type) where
  bytes : List UInt8
  /-- The records whose appends to this file have returned. -/
  acknowledged : List Record
deriving DecidableEq

/-- The active file (0) and the rotated files `.n`. -/
abbrev DurableFiles (Record : Type) : Type := Nat → Option (DurableFile Record)

section Files

variable {Record : Type}

def DurableFiles.put (files : DurableFiles Record) (index : Nat)
    (file : Option (DurableFile Record)) : DurableFiles Record :=
  fun other => if other = index then file else files other

def DurableFiles.bytes (files : DurableFiles Record) (index : Nat) : List UInt8 :=
  ((files index).map DurableFile.bytes).getD []

inductive RotateStep where
  | remove (index : Nat)
  | rename (source target : Nat)
deriving DecidableEq, Repr

def RotateStep.apply (files : DurableFiles Record) : RotateStep → DurableFiles Record
  | .remove index => files.put index none
  | .rename source target =>
    match files source with
    | some file => (files.put source none).put target (some file)
    | none => files

/-- The renames up to `.n`, the active file's last. -/
def renames : Nat → List RotateStep
  | 0 => []
  | index + 1 => .rename index (index + 1) :: renames index

def rotateDurableHistory (config : BrainEventDurabilityConfig) : List RotateStep :=
  .remove config.retainedSegments :: renames config.retainedSegments

/-- The oldest file first, the active one last. -/
def segmentOrder : Nat → List Nat
  | 0 => [0]
  | index + 1 => (index + 1) :: segmentOrder index

structure DurableHistoryScan (Record : Type) where
  seenIds : List String := []
  bySequence : SortedMap Nat Record := .empty
  index : DurableIndex := .empty
  recoveryGaps : Nat := 0

namespace DurableHistoryScan

variable (format : DurableFormat Record)

def take (segment : Nat) (scan : DurableHistoryScan Record) (frame : Framed Record) :
    DurableHistoryScan Record :=
  if format.eventId frame.record ∈ scan.seenIds then scan
  else
    { scan with
      seenIds := format.eventId frame.record :: scan.seenIds
      bySequence := scan.bySequence.orInsert (format.sequence frame.record) frame.record
      index := scan.index.orInsert (format.sequence frame.record)
        { sequence := format.sequence frame.record
          segment
          offset := frame.offset
          length := frame.length } }

def readFile (files : DurableFiles Record) (scan : DurableHistoryScan Record) (segment : Nat) :
    DurableHistoryScan Record :=
  let found := frames format.decode (files.bytes segment)
  let taken := found.1.foldl (take format segment) scan
  if found.2 then { taken with recoveryGaps := taken.recoveryGaps + 1 } else taken

def events (scan : DurableHistoryScan Record) : List Record := scan.bySequence.values

def newestSequence (scan : DurableHistoryScan Record) : Nat :=
  (scan.events.getLast?.map format.sequence).getD 0

end DurableHistoryScan

def scanDurableHistory (format : DurableFormat Record) (config : BrainEventDurabilityConfig)
    (files : DurableFiles Record) : DurableHistoryScan Record :=
  (segmentOrder config.retainedSegments).foldl (DurableHistoryScan.readFile format files) {}

/-- The part of `read_indexed_event` before its last check. -/
def readAt (format : DurableFormat Record) (files : DurableFiles Record)
    (entry : DurableBrainEventIndexEntry) : Option Record :=
  readFrame format.decode (files.bytes entry.segment) entry.offset entry.length

structure DurableLog (Record : Type) where
  config : BrainEventDurabilityConfig
  files : DurableFiles Record
  index : DurableIndex
  /-- The last number that the hub has given out. -/
  newest : Nat
  /-- The identities of all records that were ever handed to an append. -/
  attempted : List String

/-- Where an append stops with an error, if that place is reached. -/
inductive AppendFault where
  | rotation (completed : Nat)
  | opening
  /-- After so many bytes, all of them included. -/
  | write (count : Nat)
  /-- In the scan that follows a rotation. -/
  | rescan
  /-- In the index file, behind everything else. -/
  | persist
deriving DecidableEq, Repr

inductive DurableInput (Record : Type) where
  | append (record : Record) (fault : Option AppendFault)
  /-- The process is gone, and the path is opened again. -/
  | reopen

namespace DurableLog

variable (format : DurableFormat Record) (log : DurableLog Record)

def rotates (record : Record) : Bool :=
  let currentLen := (log.files.bytes 0).length
  0 < currentLen && log.config.maxSegmentBytes < currentLen + (format.line record).length

def write (bytes : List UInt8) (acknowledged : List Record) : DurableLog Record :=
  { log with
    files := log.files.put 0 (some
      { bytes := log.files.bytes 0 ++ bytes
        acknowledged := ((log.files 0).map DurableFile.acknowledged).getD [] ++ acknowledged }) }

def reindexed (rotated : Bool) (offset : Nat) (record : Record) : DurableLog Record :=
  { log with
    index :=
      if rotated then (scanDurableHistory format log.config log.files).index
      else log.index.insert (format.sequence record)
        { sequence := format.sequence record
          segment := 0
          offset
          length := (format.line record).length } }

def rotated (completed : Nat) : DurableLog Record :=
  { log with
    files := ((rotateDurableHistory log.config).take completed).foldl RotateStep.apply log.files }

/-- The append behind the rotation, and whether it returns. -/
def appendLine (rotated : Bool) (record : Record) (fault : Option AppendFault) :
    DurableLog Record × Bool :=
  let offset := (log.files.bytes 0).length
  let line := format.line record
  match fault with
  | some .opening => (log, false)
  | some (.write count) => (log.write (line.take count) [], false)
  | some .persist => ((log.write line []).reindexed format rotated offset record, false)
  | some .rescan =>
    if rotated then (log.write line [], false)
    else ((log.write line [record]).reindexed format rotated offset record, true)
  | _ => ((log.write line [record]).reindexed format rotated offset record, true)

def appendDurableRecord (record : Record) (fault : Option AppendFault) :
    DurableLog Record × Bool :=
  if log.rotates format record then
    match fault with
    | some (.rotation completed) => (log.rotated completed, false)
    | fault =>
      (log.rotated (rotateDurableHistory log.config).length).appendLine format true record fault
  else log.appendLine format false record fault

/-- `DurableBrainEventStore::open`: the active file loses what follows its last good line. -/
def reopened : DurableLog Record :=
  let scan := scanDurableHistory format log.config log.files
  { log with
    files :=
      match log.files 0 with
      | some file =>
        log.files.put 0 (some
          { file with bytes := file.bytes.take (validLength format.decode file.bytes) })
      | none => log.files
    index := scan.index
    newest := scan.newestSequence format }

/-- The hub numbers a record above all that it has numbered or recovered. -/
def step : DurableInput Record → DurableLog Record
  | .append record fault =>
    if log.newest < format.sequence record then
      (appendDurableRecord format
        { log with
          newest := format.sequence record
          attempted := format.eventId record :: log.attempted } record fault).1
    else log
  | .reopen => log.reopened format

end DurableLog

end Files

end Netherwick.Observatory
