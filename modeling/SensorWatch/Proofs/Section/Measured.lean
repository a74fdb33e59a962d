import SensorWatch.Proofs.Number.Finite
import SensorWatch.Proofs.Number.Numeral
import SensorWatch.Proofs.Section.Directory
import SensorWatch.Proofs.Section.Numbers
import SensorWatch.Proofs.Section.Valid

namespace SensorWatch

namespace Scale

end Scale

namespace EntityRow

variable {row : EntityRow}

end EntityRow

namespace Sensor

end Sensor

namespace Registration

variable {dir : Directory} {r : Registration}

end Registration

namespace Tables

end Tables
end SensorWatch
