import Lookback.Window.Read
import Lookback.Window.Store

/-!
A session over stores in memory: records come in and windows are read, one operation after the
other.
-/
namespace Lookback.Window

/-- A failure of reads: its reason, and how often a read is suspended before it. -/
structure Fault where
  reason : String
  suspensions : Nat
deriving DecidableEq

structure Session where
  settings : Settings
  usage : Store UsageRecord
  tracking : Store TrackingRow
  usageFault : Option Fault
  trackingFault : Option Fault
  /-- How many anomalies were reported so far. -/
  reported : UInt64

inductive Operation
  | recordUsage (account : UInt64) (r : UsageRecord)
  | recordTracking (account : UInt64) (r : TrackingRow)
  | failUsage (f : Option Fault)
  | failTracking (f : Option Fault)
  | readUsage (start stop : Date) (caller : Caller)
  | readTracking (start stop : Date) (caller : Caller)
  | window (r : Request)

inductive Output
  | done
  | usage (rs : List UsageRecord)
  | tracking (rs : List TrackingRow)
  | window (a : Answer) (reported : UInt64)

/-- Adds anomalies to those reported before. -/
def tally (reported : UInt64) (anomalies : List InvoiceItem) : UInt64 :=
  reported + anomalies.length.toUInt64

/-- A read of a store, unless it is to fail. -/
def faulty {α : Type} (fault : Option Fault) (error : String → Error) (a : α) : Fetch α :=
  match fault with
  | none => ⟨0, .ok a⟩
  | some f => ⟨f.suspensions, .error (error f.reason)⟩

namespace Session

def new (settings : Settings) : Session := ⟨settings, .empty, .empty, none, none, 0⟩

def usageBetween (s : Session) (start stop : Date) (caller : Caller) : List UsageRecord :=
  s.usage.read UsageRecord.day start stop caller.account

def trackingBetween (s : Session) (start stop : Date) (caller : Caller) : List TrackingRow :=
  s.tracking.read TrackingRow.recordDate start stop caller.account

def sources (s : Session) : Sources where
  usage start stop caller := faulty s.usageFault .usageSource (s.usageBetween start stop caller)
  tracking start stop caller :=
    faulty s.trackingFault .trackingStore (s.trackingBetween start stop caller)

/-- The session after an operation, and what the operation answers. -/
def step (s : Session) : Operation → Session × Output
  | .recordUsage account r => ({ s with usage := s.usage.record account r }, .done)
  | .recordTracking account r => ({ s with tracking := s.tracking.record account r }, .done)
  | .failUsage f => ({ s with usageFault := f }, .done)
  | .failTracking f => ({ s with trackingFault := f }, .done)
  | .readUsage start stop caller => (s, .usage (s.usageBetween start stop caller))
  | .readTracking start stop caller => (s, .tracking (s.trackingBetween start stop caller))
  | .window r =>
    let a := read s.settings s.sources r
    let reported := tally s.reported a.anomalies
    ({ s with reported := reported }, .window a reported)

/-- What the operations answer one after the other. -/
def run (s : Session) : List Operation → List Output
  | [] => []
  | o :: os =>
    let (s, out) := s.step o
    out :: s.run os

end Session

end Lookback.Window
