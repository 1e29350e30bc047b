import SealedLog.CommandLine
import SealedLog.Main
import SealedLog.Medium.Flaky
import SealedLog.ScriptedElement
import SealedLog.Proofs.Journal.Log
import SealedLog.Proofs.SoftElement.Provisioning
import SealedLog.Proofs.SoftElement.Reopening
import SealedLog.Proofs.SoftElement.Opening
import SealedLog.Proofs.Gateway.Isolation
import SealedLog.Proofs.Store.Torn
import SealedLog.Proofs.SoftElement.Interrupted
import SealedLog.Proofs.SoftElement.Tampering
import SealedLog.Proofs.SoftElement.Discipline
import SealedLog.Proofs.Store.Refinement
import SealedLog.Proofs.Journal.Sharing
import SealedLog.Proofs.SoftElement.Secrecy
import SealedLog.Proofs.Journal.Freshness
import SealedLog.Proofs.Journal.Secrecy
import SealedLog.Proofs.Console.Sessions
import SealedLog.Proofs.Gateway.Answers
import SealedLog.Proofs.Gateway.Standing
import SealedLog.Proofs.SoftElement.Restricted
import SealedLog.Proofs.Custody.Courses
import SealedLog.Proofs.Sealer.Courses
import SealedLog.Proofs.SoftElement.Atomicity
import SealedLog.Proofs.Console.Endings
import SealedLog.Proofs.HexDump
import SealedLog.Proofs.Console.Printing
import SealedLog.Proofs.Store.Division
import SealedLog.Proofs.Journal.Room
import SealedLog.Proofs.Status.Padded
import SealedLog.Proofs.Program.Starting
import SealedLog.Proofs.Journal.Placed
import SealedLog.Proofs.Store.Tended
import SealedLog.Proofs.Completion.OneShot
import SealedLog.Proofs.SoftElement.Accounts
import SealedLog.Proofs.Program.Configured
import SealedLog.Proofs.Gateway.Meeting
