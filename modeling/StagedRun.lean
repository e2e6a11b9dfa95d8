import StagedRun.Sources
import StagedRun.World.Machine
import StagedRun.Program
import StagedRun.Main
import StagedRun.FileSystem.Edit
import StagedRun.World.Absent
import StagedRun.Proofs.CarryOut
import StagedRun.Proofs.Mirroring
import StagedRun.Proofs.Scene
import StagedRun.Proofs.Silence
import StagedRun.Proofs.Stages
import StagedRun.Proofs.CommandOrder
import StagedRun.Proofs.ExitStatus
import StagedRun.Proofs.Directories
import StagedRun.Proofs.Transcript
import StagedRun.Proofs.Confinement
import StagedRun.Proofs.Cleaning
import StagedRun.Proofs.Preparation
import StagedRun.Proofs.Reporting
import StagedRun.Proofs.Options.Answers
import StagedRun.Proofs.Sources.Collecting
import StagedRun.Proofs.Derivation
import StagedRun.Proofs.Discovery
import StagedRun.Proofs.RawStatus
import StagedRun.Proofs.Truncation
import StagedRun.Proofs.ColourChoice
import StagedRun.Proofs.ReportedPath
import StagedRun.Proofs.WithoutProcesses
