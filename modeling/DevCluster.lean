import DevCluster.Launch
import DevCluster.Main
import DevCluster.Session
import DevCluster.Proofs.Session.Accounting
import DevCluster.Proofs.Application.ExitCode
import DevCluster.Proofs.Application.Printing
import DevCluster.Proofs.Application.Classification
import DevCluster.Proofs.Listing
import DevCluster.Proofs.Settings.Flat
import DevCluster.Proofs.Arguments.Grammar
import DevCluster.Proofs.Shutdown.Report
import DevCluster.Proofs.Session.Parts
import DevCluster.Proofs.Runner.Blindness
import DevCluster.Proofs.Startup.Truncation
import DevCluster.Proofs.Settings.Faults
import DevCluster.Proofs.Session.Naming
