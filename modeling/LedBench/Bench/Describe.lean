import LedBench.Bench.Machine
import LedBench.Text.Listing
import LedBench.Text.Quoted

namespace LedBench.Bench

open Chip Firmware Text

def PinRef.describe (p : PinRef) : String :=
  listing "PinRef" [("port", Text.quoted p.port), ("bit", toString p.bit.toNat)]

def PortReset.describe (r : PortReset) : String :=
  listing "PortResetValues" [("tris", toString r.tris.toNat), ("ansel", toString r.ansel.toNat)]

def Port.describe (p : Port) : String :=
  listing "PortPeripheral" [
    ("id", Text.quoted p.layout.id),
    ("pin_mask", toString p.mask.toNat),
    ("port_addr", toString p.layout.port.toNat),
    ("tris_addr", toString p.layout.tris.toNat),
    ("lat_addr", optionText (p.layout.lat.map (toString ·.toNat))),
    ("ansel_addr", optionText (p.layout.ansel.map (toString ·.toNat))),
    ("reset_values", PortReset.describe p.layout.reset),
    ("tris", toString p.tris.toNat),
    ("lat", toString p.lat.toNat),
    ("ansel", toString p.ansel.toNat)]

def Port.describeEntry (p : Port) : String :=
  listing "PeripheralEntry" [
    ("name", Text.quoted p.layout.id),
    ("registers", listed (p.layout.registers.map (toString ·.toNat))),
    ("dev", p.describe)]

def Watchdog.describe (w : Watchdog) : String :=
  let layout := listing "WatchdogConfig" [
    ("mask", toString w.layout.mask.toNat),
    ("enabled_when", listed (w.layout.enabledWhen.map (toString ·.toNat))),
    ("period_us", toString w.layout.periodUs.toNat)]
  listing "Watchdog" [
    ("config", layout),
    ("period_cycles", toString w.periodCycles.toNat),
    ("enabled", boolText w.enabled),
    ("count", toString w.count.toNat)]

def Bus.describe (b : Bus) : String :=
  listing "SystemBus" [
    ("peripherals", listed (b.chip.ports.map Port.describeEntry)),
    ("config_word", Text.hex 4 b.chip.configWord.toNat),
    ("watchdog", b.chip.watchdog.describe),
    ("cycles", toString b.cycles.toNat),
    ("nops", toString b.nops.toNat)]

def Machine.describe (m : Machine) : String :=
  listing "Machine" [
    ("target", Text.quoted m.target.name),
    ("led", PinRef.describe m.led),
    ("passes", toString m.passes.toNat),
    ("watchdog_resets", toString m.watchdogResets.toNat)]

end LedBench.Bench
