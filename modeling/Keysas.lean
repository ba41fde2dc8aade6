import Keysas.Firewall.StaleGrant
import Keysas.Io.YubikeyGate
import Keysas.Reports.FileReport
import Keysas.Reports.Verification
import Keysas.Reports.ReportSoundness
import Keysas.Reports.RoundTrip
import Keysas.Analyze.ArchiveScan
import Keysas.Analyze.Dispatch
import Keysas.Analyze.Findings
import Keysas.Analyze.ScriptScan
import Keysas.Analyze.LinkScan
import Keysas.Analyze.PeScan
import Keysas.Analyze.PdfScan
import Keysas.Analyze.OfficeScan
import Keysas.Analyze.MacroDetection
import Keysas.Analyze.Formats
import Keysas.Analyze.TemporaryNames
import Keysas.Rust.Readers
import Keysas.Analyze.HeaderReads
import Keysas.Analyze.IsoScan
import Keysas.Analyze.IsoReach
import Keysas.Analyze.IsoBounds
import Keysas.Transit.SideDaemons
import Keysas.Transit.Messages
import Keysas.Transit.CheckFiles
import Keysas.Out.OutputFiles
import Keysas.Out.FileIndependence
import Keysas.Pipeline.MetadataTransport
import Keysas.Pipeline.Release
import Keysas.Pipeline.Station
import Keysas.Pipeline.Conservation
import Keysas.Firewall.KeptOverrides
import Keysas.Rust.UnixPath
import Keysas.Rust.Utf16
import Keysas.Rust.LossyText
import Keysas.Rust.Faults
import Keysas.Rust.Utf8Cut
import Keysas.Rust.AsciiCase
import Keysas.Rust.Stretches
import Keysas.Rust.Occurrences
import Keysas.Rust.SerdeJson
import Keysas.Firewall.FileAuthorization
import Keysas.Firewall.FileFilter
import Keysas.Firewall.Enforcement
import Keysas.Firewall.RequestBounds
import Keysas.Firewall.GuiMessages
import Keysas.Firewall.WindowsListener
import Keysas.Firewall.MountTable
import Keysas.Firewall.MountDecoding
import Keysas.Firewall.HotRestart
import Keysas.In.SendFiles
import Keysas.Io.DeviceSignature
import Keysas.Io.RawDevices
import Keysas.Admin.UsbSign
import Keysas.Firewall.SignatureReaders
import Keysas.Firewall.ErrorExits
import Keysas.Admin.SignedIdentity
import Keysas.Store.WriteLog
import Keysas.Store.ExpiringCache
import Keysas.Backend.FileListing
import Keysas.Backend.LastVerdict
import Keysas.Backend.ReportReading
import Keysas.Io.CopyFilesIn
import Keysas.Io.MoveFilesOut
import Keysas.Io.PlacedFiles
import Keysas.In.CorruptedSends
import Keysas.Io.FailingCopies
import Keysas.Io.LoopSurvival
import Keysas.Fido.Enrolment
import Keysas.In.UnlinkRace
import Keysas.Minifilter.Handlers
import Keysas.Minifilter.Contexts
import Keysas.Minifilter.HandlerRuns
import Keysas.Minifilter.ClosedOpens
import Keysas.Minifilter.WriteLaw
import Keysas.Minifilter.ReadOrder
import Keysas.Minifilter.FileNames
import Keysas.Minifilter.PortNotify
import Keysas.Minifilter.InstanceSetup
import Keysas.Minifilter.ContextList
import Keysas.Minifilter.References
import Keysas.Runs.Ownership
import Keysas.UsbFilter.DeviceRelations
import Keysas.VirusTotal.Lookup
import Keysas.Transit.PdfVerdict
import Keysas.VirusTotal.CacheHistory
import Keysas.VirusTotal.EngineCounts
import Keysas.Pki.CertificateFields
import Keysas.Pki.Issuance
import Keysas.Store.RowTable
import Keysas.Admin.PkiStore
import Keysas.Admin.StationStore
import Keysas.Pki.KeyFiles
import Keysas.Pki.KeyGeneration
import Keysas.Admin.RestorePki
import Keysas.Admin.GeneratePki
import Keysas.Pki.NameText
import Keysas.Posix.ShellWords
import Keysas.Transit.TextDetection
import Keysas.Progress.DaemonProgress
import Keysas.Pki.FieldBounds
import Keysas.Admin.ValidityBounds
import Keysas.Sign.LoadCertificate
import Keysas.Sign.SigningKeypair
import Keysas.Admin.PkiRoundTrip
import Keysas.Admin.StationInit
import Keysas.Runs.FileWrites
import Keysas.Admin.StationEnrolment
import Keysas.Rust.JsonReader
import Keysas.Rust.JsonWriter
import Keysas.Reports.JsonFormat
import Keysas.Backend.ReportText
import Keysas.Backend.ProgressReading
import Keysas.Firewall.TrayApp
import Keysas.Firewall.TrayNotifications
import Keysas.Firewall.AuthDialog
import Keysas.Firewall.FanotifyLoop
