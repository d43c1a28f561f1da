import BatchFormat.Main
import BatchFormat.Proofs.CommandLine.Request
import BatchFormat.Proofs.Eligibility
import BatchFormat.Proofs.Engine.Piped
import BatchFormat.Proofs.Engine.Registry
import BatchFormat.Proofs.Engine.Scratch
import BatchFormat.Proofs.Engine.Soft
import BatchFormat.Proofs.Engine.Startable
import BatchFormat.Proofs.Gateway
import BatchFormat.Proofs.Journal.Console
import BatchFormat.Proofs.Prefs.Lines
import BatchFormat.Proofs.Prefs.ReadBack
import BatchFormat.Proofs.Profile
import BatchFormat.Proofs.Session.LogFile
import BatchFormat.Proofs.Session.Missing
import BatchFormat.Proofs.Traverse.Listings
import BatchFormat.Proofs.Tree.Interrupted
import BatchFormat.Proofs.Tree.ReadBack
import BatchFormat.Proofs.Walk.Again
import BatchFormat.Proofs.Walk.Effect
import BatchFormat.Proofs.Walk.Healthy
import BatchFormat.Proofs.Walk.Ineligible
import BatchFormat.Proofs.Walk.Reported
