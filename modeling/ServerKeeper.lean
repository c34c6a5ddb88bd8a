import ServerKeeper.Text.Lossy
import ServerKeeper.Text.Quoted
import ServerKeeper.Toolchain.Version
import ServerKeeper.Toolchain.Environment
import ServerKeeper.Release.Listing
import ServerKeeper.Config
import ServerKeeper.InstallError
import ServerKeeper.Lifecycle
import ServerKeeper.Status
import ServerKeeper.Json.Quotation
import ServerKeeper.Json.Numeral
import ServerKeeper.Json.Record
import ServerKeeper.Json.Tagged
import ServerKeeper.Json.Printer
import ServerKeeper.Wire.Settings
import ServerKeeper.Wire.Release
import ServerKeeper.Wire.Status
import ServerKeeper.Wire.InstallError
import ServerKeeper.Wire.LifecycleState
import ServerKeeper.Settings.Load
import ServerKeeper.FileTree.Layout
import ServerKeeper.FileTree.Search
import ServerKeeper.Manager.Server
import ServerKeeper.Lifecycle.Rehearsal
import ServerKeeper.Toolchain.Rehearsal
import ServerKeeper.Host.System
import ServerKeeper.Main
import ServerKeeper.Proofs.CommandLine
import ServerKeeper.Proofs.FileTree.Search
import ServerKeeper.Proofs.Manager.Module
import ServerKeeper.Proofs.Manager.Neighbours
import ServerKeeper.Proofs.Manager.Override
import ServerKeeper.Proofs.Manager.Place
import ServerKeeper.Proofs.Manager.Report
import ServerKeeper.Proofs.Manager.UpToDate
import ServerKeeper.Proofs.Manager.Scratch
import ServerKeeper.Proofs.Manager.Uninstall
import ServerKeeper.Proofs.Release
import ServerKeeper.Proofs.Release.Order
import ServerKeeper.Proofs.Release.Prerelease
import ServerKeeper.Proofs.Release.Reading
import ServerKeeper.Proofs.Settings
import ServerKeeper.Proofs.Template
import ServerKeeper.Proofs.Toolchain.Environment
import ServerKeeper.Proofs.Toolchain.Version
import ServerKeeper.Proofs.Wire
