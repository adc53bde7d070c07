import Turbocat.Library.Tables
import Turbocat.Python.Uuid
import Turbocat.Python.Isoformat

/-! The rows of the orchestrator's database. -/

namespace Turbocat.Orchestrator

open Turbocat.Library Turbocat.Python

/-- A pre-provisioned agent. -/
structure Agent where
  agentId : UUID
  accountId : UUID
  deriving DecidableEq, Repr

inductive ConnectionStatus where
  | untested
  | active
  | failed
  deriving DecidableEq, Repr

def ConnectionStatus.value : ConnectionStatus → String
  | untested => "untested"
  | active => "active"
  | failed => "failed"

structure Connection where
  connectionId : UUID
  accountId : UUID
  name : String
  source : String
  secretRef : String
  status : ConnectionStatus := .untested
  lastTestedAt : Option Datetime := none
  createdAt : Datetime
  deriving DecidableEq, Repr

structure Pipeline where
  pipelineId : UUID
  accountId : UUID
  agentId : UUID
  connectionId : UUID
  connector : String
  tableName : String
  schedule : String
  params : Dict
  state : Option Dict := none
  isActive : Bool := true
  deriving Repr

inductive JobStatus where
  | pending
  | dispatched
  | running
  | success
  | failed
  deriving DecidableEq, Repr

def JobStatus.value : JobStatus → String
  | pending => "pending"
  | dispatched => "dispatched"
  | running => "running"
  | success => "success"
  | failed => "failed"

/-- The stored values tell the statuses apart. -/
theorem JobStatus.value_inj {left right : JobStatus} (same : left.value = right.value)
    : left = right := by
  cases left <;> cases right <;> first | rfl | exact absurd same (by decide)

/-- A run of a pipeline. The status is a text column, which takes whatever is reported. -/
structure JobRun where
  jobId : UUID
  pipelineId : UUID
  agentId : UUID
  status : String := JobStatus.pending.value
  startedAt : Option Datetime := none
  completedAt : Option Datetime := none
  rowsSynced : Option Int := none
  error : Option String := none
  deriving DecidableEq, Repr

/-- Whether a row shows the outcome of its job. -/
def JobRun.Terminal (job : JobRun) : Prop :=
  job.status = JobStatus.success.value ∨ job.status = JobStatus.failed.value

instance (job : JobRun) : Decidable job.Terminal :=
  inferInstanceAs (Decidable (_ ∨ _))

/-- A connection without the fields that tests rewrite. -/
def Connection.fixed (connection : Connection) : Connection :=
  { connection with status := .untested, lastTestedAt := none }

/-- A pipeline without the fields that reports and deactivation rewrite. -/
def Pipeline.fixed (pipeline : Pipeline) : Pipeline :=
  { pipeline with state := none, isActive := true }

/-- The pipeline and the agent of a job. -/
def JobRun.fixed (job : JobRun) : UUID × UUID := (job.pipelineId, job.agentId)

structure Db where
  agents : Table Agent.agentId
  connections : Table Connection.connectionId
  pipelines : Table Pipeline.pipelineId
  jobRuns : Table JobRun.jobId

/-- The agents a deployment starts with, and nothing else. -/
def Db.provisioned (agents : Table Agent.agentId) : Db :=
  ⟨agents, .empty, .empty, .empty⟩

end Turbocat.Orchestrator
