import AmebaTests.Foundation.Runs
import AmebaTests.Foundation.Fallible
import AmebaTests.Foundation.Bytes
import AmebaTests.Foundation.CharArray
import AmebaTests.Foundation.Decimal
import AmebaTests.Foundation.Report
import AmebaTests.Foundation.Stages
import AmebaTests.Foundation.InFlight
import AmebaTests.Foundation.Chaining
import AmebaTests.Foundation.Calendar
import AmebaTests.Foundation.Congruential
import AmebaTests.Foundation.Ownership
import AmebaTests.Foundation.RunningSums
import AmebaTests.Foundation.Census
import AmebaTests.Dmac.Buffer
import AmebaTests.Dmac.Pattern
import AmebaTests.Dmac.Cyclic
import AmebaTests.Dmac.Rounds
import AmebaTests.Dmac.Verdict
import AmebaTests.Dmac.Engine
import AmebaTests.Dmac.Resources
import AmebaTests.Dmac.Probes
import AmebaTests.Uvc.Device
import AmebaTests.Uvc.Capture
import AmebaTests.Uvc.Images
import AmebaTests.Timer.Expirations
import AmebaTests.Timer.Elapsed
import AmebaTests.Timer.Hardware
import AmebaTests.Rtc.Alarm
import AmebaTests.Pm.WakeupCount
import AmebaTests.Pm.WakeupOffset
import AmebaTests.Pm.Voltage
import AmebaTests.Uart.Loopback
import AmebaTests.Bus.HexDump
import AmebaTests.Bus.Unescape
import AmebaTests.Spi.Transfer
import AmebaTests.Spi.Verdict
import AmebaTests.I2c.Slave
import AmebaTests.I2c.Master
import AmebaTests.Clk.Rcc
import AmebaTests.Gpio.Kernel
import AmebaTests.Gpio.Sysfs
import AmebaTests.Pwm.Sysfs
import AmebaTests.Adc.Reading
import AmebaTests.Crypto.Tests
import AmebaTests.Crypto.Aes
import AmebaTests.Audio.Pll
import AmebaTests.Stressapptest.Adler
import AmebaTests.Stressapptest.Pattern
import AmebaTests.Stressapptest.Region
import AmebaTests.Stressapptest.Page
import AmebaTests.Stressapptest.Copy
import AmebaTests.Stressapptest.CopyPage
import AmebaTests.Stressapptest.Probing
import AmebaTests.Stressapptest.Finelock
import AmebaTests.Stressapptest.Custody
import AmebaTests.Stressapptest.Searching
import AmebaTests.Stressapptest.Invert
import AmebaTests.Stressapptest.Threads
import AmebaTests.Stressapptest.Contents
import AmebaTests.Stressapptest.Accounts
import AmebaTests.Stressapptest.Balance
import AmebaTests.Programs.Paths
import AmebaTests.Stressapptest.Progress
import AmebaTests.Stressapptest.WorkerStatus
import AmebaTests.Stressapptest.PageQueue
import AmebaTests.Stressapptest.DiskBlocks
import AmebaTests.Stressapptest.Coherency
