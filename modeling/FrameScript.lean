import FrameScript.ActionLine.Adjacent
import FrameScript.ActionLine.Parser
import FrameScript.ActionLine.Slot
import FrameScript.Document.Basic
import FrameScript.Keymap.Hotkeys
import FrameScript.Navigation.Basic
import FrameScript.Options
import FrameScript.Selection
import FrameScript.Session
import FrameScript.Proofs.Number.Decimal
import FrameScript.Proofs.Number.ReadBack
import FrameScript.Proofs.ActionLine.Field
import FrameScript.Proofs.ActionLine.Expressible
import FrameScript.Proofs.ActionLine.Grammar
import FrameScript.Proofs.ActionLine.CanonicalText
import FrameScript.Proofs.ActionLine.RoundTrip
import FrameScript.Proofs.ActionLine.Layout
import FrameScript.Proofs.ActionLine.Slot
import FrameScript.Proofs.ActionLine.Region
import FrameScript.Proofs.Text.Stop
import FrameScript.Proofs.Text.Lines
import FrameScript.Proofs.Document.Reader
import FrameScript.Proofs.Document.Offset
import FrameScript.Proofs.Document.Requests
import FrameScript.Proofs.Document.Edit
import FrameScript.Proofs.Document.Location
import FrameScript.Proofs.Document.Partition
import FrameScript.Proofs.Document.Deliveries
import FrameScript.Proofs.Navigation.Landing
import FrameScript.Proofs.Navigation.SlotOrder
import FrameScript.Proofs.Navigation.SlotWalk
import FrameScript.Proofs.Navigation.Payload
import FrameScript.Proofs.Navigation.PlainText
import FrameScript.Proofs.Navigation.Progress
import FrameScript.Proofs.Navigation.Accepted
import FrameScript.Proofs.Navigation.Total
import FrameScript.Proofs.Navigation.TextOnly
import FrameScript.Proofs.Session.Requests
import FrameScript.Proofs.Session.Total
import FrameScript.Proofs.Session.Anchor
import FrameScript.Proofs.Navigation.WordJump
import FrameScript.Proofs.Navigation.WrapLeft
import FrameScript.Proofs.Document.RecordedEnding
import FrameScript.Proofs.Session.CaretSlot
import FrameScript.Proofs.Navigation.Remembered
import FrameScript.Proofs.Session.Failure
import FrameScript.Proofs.ActionLine.NearestSlot
import FrameScript.Proofs.ActionLine.PrintedLayout
import FrameScript.Proofs.Navigation.Respelling
import FrameScript.Proofs.Session.Reload
import FrameScript.Proofs.ActionLine.Adjacent
import FrameScript.Proofs.ActionLine.Spacing
import FrameScript.Proofs.ActionLine.Misfit
import FrameScript.Proofs.ActionLine.Arrangement
import FrameScript.Proofs.Text.StopWalk
import FrameScript.Proofs.Navigation.ThereAndBack
import FrameScript.Proofs.Navigation.ClusterBoundary
import FrameScript.Proofs.ActionLine.Removal
import FrameScript.Proofs.Document.LineEdit
import FrameScript.Proofs.Navigation.Deletion
import FrameScript.Proofs.Text.NearestStop
import FrameScript.Proofs.Navigation.VerticalRun
import FrameScript.Proofs.Navigation.CellCapture
import FrameScript.Proofs.Selection.Segments
import FrameScript.Proofs.Options.Settings
import FrameScript.Proofs.Keymap.FirstClaim
import FrameScript.Proofs.Navigation.PayloadField
