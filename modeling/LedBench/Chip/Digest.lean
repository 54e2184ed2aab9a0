import LedBench.Chip.Wire
import LedBench.Sha256
import LedBench.Yaml.Printer

namespace LedBench.Chip

def Descriptor.yaml (d : Descriptor) : String := Yaml.render d.toJson

/-- Tells which descriptor a run was made with. -/
def Descriptor.digest (d : Descriptor) : String := Sha256.ofText d.yaml

end LedBench.Chip
