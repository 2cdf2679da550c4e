import ModuleForge.Text.Bytes
import ModuleForge.Text.Printable
import ModuleForge.Text.Quoted
import ModuleForge.Decimal
import ModuleForge.Digest
import ModuleForge.WaitStatus
import ModuleForge.Path
import ModuleForge.Json
import ModuleForge.Json.Reader
import ModuleForge.Json.Shape
import ModuleForge.Duration
import ModuleForge.Duration.Reader
import ModuleForge.SystemError
import ModuleForge.Failure
import ModuleForge.Log
import ModuleForge.Surroundings
import ModuleForge.Context
import ModuleForge.Config
import ModuleForge.Source
import ModuleForge.Pipe
import ModuleForge.Exchange
import ModuleForge.Process
import ModuleForge.Compiler
import ModuleForge.Library
import ModuleForge.Linker
import ModuleForge.Builder
import ModuleForge.Cli.Program
import ModuleForge.Host.Standard
import ModuleForge.Main
import ModuleForge.Proofs.Exchange.Progress
import ModuleForge.Proofs.Exchange.Integrity
import ModuleForge.Proofs.Build.Calls
import ModuleForge.Proofs.Build.Runs
import ModuleForge.Proofs.Exchange.Cleanup
import ModuleForge.Proofs.Library.Lifetime
import ModuleForge.Proofs.ObjectName
import ModuleForge.Proofs.Registry
import ModuleForge.Proofs.Registry.Ledger
import ModuleForge.Proofs.ModuleName
import ModuleForge.Proofs.Build.Sharing
import ModuleForge.Proofs.Cli.FailFast
import ModuleForge.Proofs.Cli.TimeLimit
import ModuleForge.Proofs.Build.Handover
import ModuleForge.Proofs.Config.File
import ModuleForge.Proofs.Build.RelativePaths
import ModuleForge.Proofs.Cli.NullSymbols
import ModuleForge.Proofs.Config.Variables
import ModuleForge.Proofs.Build.Overwriting
import ModuleForge.Proofs.ArgumentOrder
import ModuleForge.Proofs.Cli.OptionOrder
import ModuleForge.Proofs.WaitStatus
import ModuleForge.Proofs.Host.Driving
