import SensorWatch.Proofs.Section.Registered
import SensorWatch.Service.Basic
import SensorWatch.Settings
import SensorWatch.Proofs.Section.Merge
import SensorWatch.Proofs.Section.Tombstone
import SensorWatch.Proofs.Section.Related
import SensorWatch.Proofs.Row
import SensorWatch.Proofs.Section.Isolation
import SensorWatch.Proofs.State
import SensorWatch.Proofs.Check.Temperature
import SensorWatch.Proofs.Check.Trend
import SensorWatch.Proofs.Check.DeviceState
import SensorWatch.Proofs.Service.Memory
import SensorWatch.Proofs.Section.Names
import SensorWatch.Proofs.Section.Valid
import SensorWatch.Proofs.Threshold
import SensorWatch.Proofs.Section.Numbers
import SensorWatch.Proofs.Section.Reordered
import SensorWatch.Proofs.Section.Blanks
import SensorWatch.Proofs.Number.Finite
import SensorWatch.Proofs.Number.Numeral
import SensorWatch.Proofs.Section.Finite
import SensorWatch.Proofs.Json.Numbers
import SensorWatch.Proofs.Json.Record
import SensorWatch.Proofs.Settings
import SensorWatch.Proofs.Json.Faithful
import SensorWatch.Proofs.Wire.Faithful
import SensorWatch.Proofs.Check.Items
import SensorWatch.Proofs.Service.Items
import SensorWatch.Proofs.Levels
import SensorWatch.Proofs.Check.Findings
import SensorWatch.Proofs.Section.Pruned
import SensorWatch.Proofs.Section.Warned
import SensorWatch.Proofs.Section.Measured
import SensorWatch.Proofs.Section.Borrowed
import SensorWatch.Proofs.Check.Offered
import SensorWatch.Proofs.Service.Offered
import SensorWatch.Proofs.Check.Handling
import SensorWatch.Proofs.Check.Overridden
import SensorWatch.Proofs.Check.Published
import SensorWatch.Proofs.Threshold.Guessed
import SensorWatch.Proofs.Threshold.Marked
import SensorWatch.Proofs.Threshold.Unrecognized
import SensorWatch.Proofs.Section.Interface
import SensorWatch.Proofs.Check.Tagged
import SensorWatch.Proofs.Sample.Updates
import SensorWatch.Proofs.Settings.Loaded
