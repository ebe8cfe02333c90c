import Stubble.Basic
import Stubble.PeSections
import Stubble.Inspect
import Stubble.Measure
import Stubble.Proofs.SectionLocator
import Stubble.Proofs.Inspection
import Stubble.Proofs.PcrEngine
import Stubble.DevicePath
import Stubble.Proofs.DevicePaths
import Stubble.Status
import Stubble.Proofs.CommandLine
import Stubble.Proofs.AppendedData
import Stubble.Proofs.Status
import Stubble.KernelVerbs
import Stubble.Proofs.KernelVerbs
