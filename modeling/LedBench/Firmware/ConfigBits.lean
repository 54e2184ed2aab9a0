import LedBench.Firmware.Target

namespace LedBench.Firmware

/-- A named field of a configuration word. A cleared bit selects the option that is not the
default. -/
structure ConfigField where
  name : String
  mask : UInt16
  deriving DecidableEq, Repr

namespace Target

/-- The fields of the part's configuration word, by ascending position. -/
def configFields : Target → List ConfigField
  | pic16f1823 =>
    [⟨"FOSC", 0x0007⟩, ⟨"WDTE", 0x0018⟩, ⟨"PWRTE", 0x0020⟩, ⟨"MCLRE", 0x0040⟩, ⟨"CP", 0x0080⟩,
      ⟨"CPD", 0x0100⟩, ⟨"BOREN", 0x0600⟩, ⟨"CLKOUTEN", 0x0800⟩, ⟨"IESO", 0x1000⟩,
      ⟨"FCMEN", 0x2000⟩]
  | pic16f628a =>
    [⟨"FOSC0", 0x0001⟩, ⟨"FOSC1", 0x0002⟩, ⟨"WDTE", 0x0004⟩, ⟨"PWRTE", 0x0008⟩, ⟨"FOSC2", 0x0010⟩,
      ⟨"MCLRE", 0x0020⟩, ⟨"BOREN", 0x0040⟩, ⟨"LVP", 0x0080⟩, ⟨"CPD", 0x0100⟩,
      ⟨"UNIMPLEMENTED", 0x3E00⟩, ⟨"CP", 0x2000⟩]

/-- Every bit that some field declares. -/
def configMask (t : Target) : UInt16 := t.configFields.foldl (fun m f => m ||| f.mask) 0

/-- The fields of which every bit is set in a word. A field whose bits all belong to fields before it
that are set adds nothing and is left out; `fresh` are the bits not yet spoken for. -/
def fieldsAmong (word : UInt16) : UInt16 → List ConfigField → List ConfigField
  | _, [] => []
  | fresh, f :: rest =>
    if word &&& f.mask = f.mask ∧ fresh &&& f.mask ≠ 0 then
      f :: fieldsAmong word (fresh &&& ~~~ f.mask) rest
    else fieldsAmong word fresh rest

/-- The fields that tell which declared bits of a word are set, by ascending position. -/
def fieldsIn (t : Target) (word : UInt16) : List ConfigField :=
  fieldsAmong word word t.configFields

def watchdogMask : Target → UInt16
  | pic16f1823 => 0x0018
  | pic16f628a => 0x0004

/-- The fields that the firmware clears: the watchdog's, and on the older part also those that
leave the internal oscillator with both pins free and low-voltage programming off. -/
def clearedMask : Target → UInt16
  | pic16f1823 => 0x0018
  | pic16f628a => 0x0001 ||| 0x0002 ||| 0x0004 ||| 0x0080

/-- The configuration word that the firmware burns: everything erased but the cleared fields. -/
def config (t : Target) : ConfigWord where
  address := match t with
    | pic16f1823 => 0x8007
    | pic16f628a => 0x2007
  value := t.configMask &&& ~~~ t.clearedMask

/-- Whether a configuration word fails to force the watchdog off. Modes that leave the choice to
software count as on. -/
def watchdogEnabled (t : Target) (word : UInt16) : Bool := word &&& t.watchdogMask ≠ 0

theorem watchdogEnabled_config (t : Target) : t.watchdogEnabled t.config.value = false := by
  cases t <;> decide

end Target

end LedBench.Firmware
