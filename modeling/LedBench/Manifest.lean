import LedBench.Json.Source
import LedBench.PinRef

namespace LedBench

open Wire

/-- A device outside the chip, wired to a pin. -/
structure Device where
  id : String
  kind : String
  connection : String
  deriving DecidableEq, Repr

def Device.pin (d : Device) : Except ConnectionError PinRef := PinRef.parse d.connection

structure Manifest where
  name : String
  /-- The name of a built-in chip or the path of a descriptor. -/
  chip : String
  devices : List Device
  deriving DecidableEq, Repr

/-- A device whose connection names no pin. -/
structure DeviceError where
  device : String
  cause : ConnectionError
  deriving DecidableEq, Repr

def DeviceError.message (e : DeviceError) : String :=
  "Device '" ++ e.device ++ "': " ++ e.cause.message

/-- The pin of the first device that is an LED, if there is one. -/
def Manifest.led (m : Manifest) : Except DeviceError (Option PinRef) :=
  match m.devices.find? (·.kind = "led") with
  | none => .ok none
  | some d => (d.pin.map some).mapError fun e => ⟨d.id, e⟩

variable {ν : Type} [Source ν]

def Device.form : RecordForm where
  fields := [⟨"id", false⟩, ⟨"type", false⟩, ⟨"connection", false⟩]

def Device.read? (v : ν) : Option Device :=
  match Source.members? Device.form v with
  | some [id, kind, connection] => do
    return {
      id := ← required id Source.text?
      kind := ← required kind Source.text?
      connection := ← required connection Source.text? }
  | _ => none

def Device.toJson (d : Device) : Json :=
  .obj [("id", .str d.id), ("type", .str d.kind), ("connection", .str d.connection)]

def Manifest.form : RecordForm where
  fields := [⟨"name", false⟩, ⟨"chip", false⟩, ⟨"external_devices", true⟩]

def Manifest.read? (v : ν) : Option Manifest :=
  match Source.members? Manifest.form v with
  | some [name, chip, devices] => do
    return {
      name := ← required name Source.text?
      chip := ← required chip Source.text?
      devices := ← defaulting [] devices (list? Device.read?) }
  | _ => none

def Manifest.toJson (m : Manifest) : Json :=
  .obj [("name", .str m.name), ("chip", .str m.chip),
    ("external_devices", Json.list Device.toJson m.devices)]

end LedBench
