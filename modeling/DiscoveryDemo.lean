import DiscoveryDemo.Ini.Proofs.ReferenceProofs
import DiscoveryDemo.Ini.Proofs.SafetyProofs
import DiscoveryDemo.Ini.Proofs.ConfigPathsProofs
import DiscoveryDemo.Ini.Proofs.HellomkcppMainProofs
import DiscoveryDemo.Ini.Proofs.InertProofs
import DiscoveryDemo.Ini.Proofs.CallsProofs
import DiscoveryDemo.Ini.Proofs.PointerProofs
import DiscoveryDemo.Ini.Proofs.SpacingProofs
import DiscoveryDemo.Serial.Proofs.LongLineProofs
import DiscoveryDemo.Serial.Proofs.ShortWriteProofs
import DiscoveryDemo.Sensor.Proofs.AccessorProofs
import DiscoveryDemo.Sensor.Proofs.TerminalProofs
import DiscoveryDemo.Sensor.Proofs.MainProofs
import DiscoveryDemo.Sensor.Proofs.WaitsProofs
import DiscoveryDemo.Sensor.Proofs.InterruptsProofs
import DiscoveryDemo.Led.Proofs.OneActionProofs
import DiscoveryDemo.Led.Proofs.MainProofs
import DiscoveryDemo.Clock.Proofs.SysclkProofs
import DiscoveryDemo.Clock.Proofs.BusySleepProofs
import DiscoveryDemo.Clock.Proofs.TimespecsProofs
import DiscoveryDemo.Pwm.Proofs.MainProofs
import DiscoveryDemo.Pwm.Proofs.ArgumentsProofs
import DiscoveryDemo.Gpio.Proofs.PinNameProofs
import DiscoveryDemo.Slideshow.Proofs.PassProofs
import DiscoveryDemo.CLib.Flags
import DiscoveryDemo.CLib.Proofs.FlagsProofs
import DiscoveryDemo.CLib.Decimal
import DiscoveryDemo.CLib.Proofs.DecimalProofs
import DiscoveryDemo.Driver.Machine
import DiscoveryDemo.Periphery.Error
import DiscoveryDemo.Periphery.Proofs.ErrorProofs
import DiscoveryDemo.Periphery.Serial
import DiscoveryDemo.Periphery.SerialSettings
import DiscoveryDemo.Periphery.Proofs.SerialProofs
import DiscoveryDemo.Periphery.Proofs.SerialRunProofs
import DiscoveryDemo.Periphery.Proofs.SerialReadProofs
import DiscoveryDemo.Driver.Ledger
import DiscoveryDemo.Periphery.GpioCdev
import DiscoveryDemo.Periphery.GpioLine
import DiscoveryDemo.Periphery.Proofs.GpioCdevProofs
import DiscoveryDemo.Periphery.Proofs.GpioRunProofs
import DiscoveryDemo.Periphery.Proofs.GpioLevelProofs
import DiscoveryDemo.Gpio.Main
import DiscoveryDemo.Gpio.Proofs.MainProofs
import DiscoveryDemo.Periphery.Proofs.SysfsProofs
import DiscoveryDemo.Driver.Retry
import DiscoveryDemo.Periphery.Pwm
import DiscoveryDemo.Periphery.Proofs.PwmProofs
import DiscoveryDemo.Periphery.Proofs.PwmOpenProofs
import DiscoveryDemo.CLib.Memory
import DiscoveryDemo.CLib.Proofs.MemoryProofs
import DiscoveryDemo.Periphery.Mmio
import DiscoveryDemo.Periphery.Proofs.MmioProofs
import DiscoveryDemo.Periphery.Proofs.MmioRunProofs
import DiscoveryDemo.Clock.Main
import DiscoveryDemo.Clock.Proofs.MainProofs
import DiscoveryDemo.Periphery.Led
import DiscoveryDemo.Periphery.Proofs.LedProofs
import DiscoveryDemo.Led.Proofs.LightProofs
import DiscoveryDemo.Periphery.Spi
import DiscoveryDemo.Periphery.Proofs.SpiProofs
import DiscoveryDemo.Periphery.Proofs.SpiRunProofs
import DiscoveryDemo.Periphery.I2c
import DiscoveryDemo.Scan.Main
import DiscoveryDemo.Scan.Proofs.MainProofs
import DiscoveryDemo.Pwm.Session
import DiscoveryDemo.Pwm.Proofs.SessionProofs
