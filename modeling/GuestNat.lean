import GuestNat.Host.Faults
import GuestNat.Main
import GuestNat.Program.Invoke
import GuestNat.Proofs.Traces
import GuestNat.Proofs.Procedure
import GuestNat.Proofs.StepCalls
import GuestNat.Proofs.FailFast
import GuestNat.Proofs.Commands
import GuestNat.Proofs.Effects
import GuestNat.Proofs.Independence
import GuestNat.Proofs.Completion
import GuestNat.Proofs.Applying
import GuestNat.Proofs.Convergence
import GuestNat.Proofs.Removal
import GuestNat.Proofs.Lockstep
import GuestNat.Proofs.Copy
import GuestNat.Proofs.Rehearsing
import GuestNat.Proofs.Frame
import GuestNat.Proofs.Agreement
import GuestNat.Proofs.SubnetText
import GuestNat.Proofs.Coexistence
import GuestNat.Proofs.FileWrites
import GuestNat.Proofs.Systems
import GuestNat.Proofs.Following
import GuestNat.Proofs.Lookups
import GuestNat.Proofs.Machines
import GuestNat.Proofs.Refinement
import GuestNat.Proofs.Clearing
import GuestNat.Proofs.Recording
import GuestNat.Proofs.Utf8Reading
import GuestNat.Proofs.JsonGrammar
import GuestNat.Proofs.JsonStrings
import GuestNat.Proofs.DescribedSettings
import GuestNat.Proofs.DocumentParts
import GuestNat.Proofs.DocumentReading
import GuestNat.Proofs.SubnetReading
import GuestNat.Proofs.SettingsFiles
import GuestNat.Proofs.Layering
import GuestNat.Proofs.ExactRuns
import GuestNat.Proofs.RemovalInFull
import GuestNat.Proofs.ApplyingInFull
import GuestNat.Proofs.ExitCodes
import GuestNat.Proofs.SubnetSpelling
import GuestNat.Proofs.OneNetwork
import GuestNat.Proofs.CallLimits
import GuestNat.Proofs.RemovalCalls
import GuestNat.Proofs.SubnetBlocks
import GuestNat.Proofs.CommandOutcomes
import GuestNat.Proofs.WatchedRuns
import GuestNat.Proofs.HealthClasses
import GuestNat.Proofs.HealthReasons
import GuestNat.Proofs.PrintedPlans
import GuestNat.Proofs.Seeding
import GuestNat.Proofs.Arrangements
import GuestNat.Proofs.KnobHistory
import GuestNat.Proofs.BlamedInterfaces
import GuestNat.Proofs.InterfaceDirectory
