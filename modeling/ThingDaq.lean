import ThingDaq.Lib.Bytes
import ThingDaq.Lib.InPlace
import ThingDaq.Lib.Line
import ThingDaq.Lib.Machine
import ThingDaq.Lib.Counting
import ThingDaq.Lib.Adler
import ThingDaq.Lib.Crc
import ThingDaq.Lib.Ring
import ThingDaq.Lib.Join
import ThingDaq.Lib.Runs
import ThingDaq.Lib.Scanner
import ThingDaq.Lib.Tiling
import ThingDaq.Lib.Window
import ThingDaq.Lib.Struct
import ThingDaq.Lib.Recent
import ThingDaq.Lib.Circular
import ThingDaq.Protocol.Frame
import ThingDaq.Protocol.Checksum
import ThingDaq.Protocol.Crc
import ThingDaq.Protocol.DataFrame
import ThingDaq.Pipeline.Layout
import ThingDaq.Pipeline.Rle
import ThingDaq.Protocol.V3Data
import ThingDaq.Pipeline.FixedQueue
import ThingDaq.Pipeline.State
import ThingDaq.Pipeline.Operations
import ThingDaq.Pipeline.Moves
import ThingDaq.Pipeline.Invariant
import ThingDaq.Pipeline.Pages
import ThingDaq.Pipeline.Codecs
import ThingDaq.Pipeline.Run
import ThingDaq.Host.ProtocolV3
import ThingDaq.Host.SampleCodecs
import ThingDaq.Pipeline.RleScan
import ThingDaq.Pipeline.Effects
import ThingDaq.Pipeline.Handles
import ThingDaq.Pipeline.Conservation
import ThingDaq.Pipeline.Order
import ThingDaq.Pipeline.Feed
import ThingDaq.Pipeline.Ownership
import ThingDaq.Pipeline.Eviction
import ThingDaq.Pipeline.Deadline
import ThingDaq.Pipeline.Fairness
import ThingDaq.Pipeline.Gaps
import ThingDaq.Firmware.Settings
import ThingDaq.Firmware.Control
import ThingDaq.Firmware.ControlInvariant
import ThingDaq.Firmware.Transaction
import ThingDaq.Firmware.Rejection
import ThingDaq.Firmware.ReplayWindow
import ThingDaq.Firmware.CommandParser
import ThingDaq.Host.Alignment
import ThingDaq.Host.Timeline
import ThingDaq.Pipeline.Fidelity
import ThingDaq.Pipeline.PackInPlace
import ThingDaq.Capture.RawRing
import ThingDaq.Capture.Barrier
import ThingDaq.Capture.AdcRing
import ThingDaq.Capture.DualBank
import ThingDaq.Host.Checksum
import ThingDaq.Host.Reader
import ThingDaq.Host.Correlation
import ThingDaq.Host.Models
import ThingDaq.Host.Station
import ThingDaq.Host.BlockConservation
import ThingDaq.Lib.Framing
import ThingDaq.Lib.Resync
import ThingDaq.Host.Codec
import ThingDaq.Host.RoundTrip
import ThingDaq.Host.Incremental
import ThingDaq.Host.Parsers
import ThingDaq.Host.DataFrames
import ThingDaq.Host.Synthetic
import ThingDaq.Host.ResponsesV3
import ThingDaq.Host.AdcCodec
import ThingDaq.Pipeline.Synthetic
import ThingDaq.Pipeline.Ledger
import ThingDaq.Pipeline.BatchPacker
import ThingDaq.Pipeline.PackerAccounts
import ThingDaq.Pipeline.PackerLedger
import ThingDaq.Pipeline.CpuShare
import ThingDaq.Pipeline.AdcPacker
import ThingDaq.Pipeline.DualBankPacker
import ThingDaq.Host.Client
import ThingDaq.Host.Aggregates
import ThingDaq.Host.Continuity
import ThingDaq.Host.Assertions
import ThingDaq.Host.Atomicity
import ThingDaq.Host.LossReports
import ThingDaq.Lib.Calls
import ThingDaq.Firmware.Acquisition
import ThingDaq.Firmware.AcquisitionInvariant
import ThingDaq.Firmware.Benchmark
import ThingDaq.Lib.Raised
import ThingDaq.Host.Raising.Headers
import ThingDaq.Host.Raising.ControlV1
import ThingDaq.Host.Raising.Frames
import ThingDaq.Firmware.CommandStream
import ThingDaq.Link.ControlFrames
import ThingDaq.Link.HostCommands
import ThingDaq.Firmware.UsbTransport
import ThingDaq.Firmware.UsbSession
import ThingDaq.Firmware.UsbVisits
import ThingDaq.Pipeline.FrontFrame
import ThingDaq.Link.DataPath
