import LedBench.Chip.Digest
import LedBench.Run.Simulation
import LedBench.Run.Verdict
import LedBench.Script.Wire

namespace LedBench.Run

open Chip Wire

/-- The files that a test run was made from. -/
structure TestFiles where
  script : String
  system : Option String
  deriving DecidableEq, Repr

/-- What is kept of a test run. Its texts are free when a record is read. -/
structure TestResult where
  schemaVersion : String
  status : String
  target : String
  passes : UInt64
  cycles : UInt64
  toggles : UInt64
  watchdogResets : UInt64
  stopReason : StopReason
  limits : ScriptLimits
  message : Option String
  judgements : List Judgement
  descriptorHash : String
  files : TestFiles
  deriving DecidableEq, Repr

def TestResult.ofReport (r : Report) (chip : Descriptor) (target : Firmware.Target)
    (limits : ScriptLimits) (js : List Judgement) (files : TestFiles) : TestResult where
  schemaVersion := "1.0"
  status := (Verdict.ofJudgements r.stopReason js).name
  target := target.name
  passes := r.passes
  cycles := r.cycles
  toggles := r.toggles
  watchdogResets := r.watchdogResets
  stopReason := r.stopReason
  limits
  message := r.fault.map (·.message)
  judgements := js
  descriptorHash := chip.digest
  files

variable {ν : Type} [Source ν]

def Judgement.form : RecordForm where
  fields := [⟨"assertion", false⟩, ⟨"passed", false⟩]

def Judgement.read? (v : ν) : Option Judgement :=
  match Source.members? Judgement.form v with
  | some [assertion, passed] => do
    return {
      assertion := ← required assertion Assertion.read?
      passed := ← required passed Source.bool? }
  | _ => none

def Judgement.toJson (j : Judgement) : Json :=
  .obj [("assertion", j.assertion.toJson), ("passed", .bool j.passed)]

def TestFiles.form : RecordForm where
  fields := [⟨"script", false⟩, ⟨"system", false⟩]

def TestFiles.read? (v : ν) : Option TestFiles :=
  match Source.members? TestFiles.form v with
  | some [script, system] => do
    return { script := ← required script Source.text?, system := ← optional system Source.text? }
  | _ => none

def TestFiles.toJson (f : TestFiles) : Json :=
  .obj [("script", .str f.script), ("system", Json.orNull .str f.system)]

def TestResult.form : RecordForm where
  fields := [⟨"result_schema_version", false⟩, ⟨"status", false⟩, ⟨"target", false⟩,
    ⟨"passes", false⟩, ⟨"cycles", false⟩, ⟨"toggles", false⟩, ⟨"watchdog_resets", false⟩,
    ⟨"stop_reason", false⟩, ⟨"limits", false⟩, ⟨"message", false⟩, ⟨"assertions", false⟩,
    ⟨"descriptor_hash", false⟩, ⟨"config", false⟩]

def TestResult.read? (v : ν) : Option TestResult :=
  match Source.members? TestResult.form v with
  | some [version, status, target, passes, cycles, toggles, resets, reason, limits, message,
      judgements, hash, files] => do
    return {
      schemaVersion := ← required version Source.text?
      status := ← required status Source.text?
      target := ← required target Source.text?
      passes := ← required passes word64?
      cycles := ← required cycles word64?
      toggles := ← required toggles word64?
      watchdogResets := ← required resets word64?
      stopReason := ← required reason StopReason.read?
      limits := ← required limits ScriptLimits.read?
      message := ← optional message Source.text?
      judgements := ← required judgements (list? Judgement.read?)
      descriptorHash := ← required hash Source.text?
      files := ← required files TestFiles.read? }
  | _ => none

/-- The record with its fields in order; a message that there is not is left out. -/
def TestResult.toJson (r : TestResult) : Json :=
  .obj ([("result_schema_version", .str r.schemaVersion), ("status", .str r.status),
    ("target", .str r.target), ("passes", Json.word64 r.passes), ("cycles", Json.word64 r.cycles),
    ("toggles", Json.word64 r.toggles), ("watchdog_resets", Json.word64 r.watchdogResets),
    ("stop_reason", r.stopReason.toJson), ("limits", r.limits.toJson)] ++
    r.message.toList.map (("message", .str ·)) ++
    [("assertions", Json.list Judgement.toJson r.judgements),
    ("descriptor_hash", .str r.descriptorHash), ("config", r.files.toJson)])

end LedBench.Run
