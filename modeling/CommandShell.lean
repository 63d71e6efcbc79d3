import CommandShell.Main
import CommandShell.Proofs.Editor.Reads
import CommandShell.Proofs.Editor.Screen
import CommandShell.Proofs.Line.Quoting
import CommandShell.World.Snapshot
import CommandShell.Proofs.Text.Front
import CommandShell.Proofs.Keys.Buffer
import CommandShell.Proofs.Line.Pieces
import CommandShell.Proofs.World.Printing
import CommandShell.Proofs.Editor.Typing
import CommandShell.Proofs.Shell.Session
import CommandShell.Proofs.Shell.Routes
import CommandShell.Proofs.Line.Rendering
import CommandShell.Proofs.World.Opening
import CommandShell.Proofs.Shell.Refusals
import CommandShell.Proofs.World.Contents
import CommandShell.Proofs.Shell.FileHistory
import CommandShell.Proofs.Completion.Submitted
import CommandShell.Proofs.Shell.Turns
import CommandShell.Proofs.World.Scanning
import CommandShell.Proofs.Line.Ends
import CommandShell.Proofs.Editor.Stages
import CommandShell.Proofs.Shell.Redirected
import CommandShell.Proofs.Shell.Idle
import CommandShell.Proofs.Completion.Bytewise
import CommandShell.Proofs.Editor.Tabs
import CommandShell.Proofs.Editor.Limits
import CommandShell.Proofs.Editor.Faults
import CommandShell.Proofs.Line.Marks
