import WindowDecor.Session.Basic
import WindowDecor.Window.HostHandle
import WindowDecor.Desktop.Lookup
import WindowDecor.Proofs.Centering.Placement
import WindowDecor.Proofs.Centering.Desktop
import WindowDecor.Proofs.Session.History
import WindowDecor.Proofs.Centering.Outcome
import WindowDecor.Proofs.Centering.Resolution
import WindowDecor.Proofs.Centering.Halving
import WindowDecor.Proofs.Session.Extractions
import WindowDecor.Proofs.Icons.LazyLoading
import WindowDecor.Proofs.Session.Handles
import WindowDecor.Proofs.Session.Separation
import WindowDecor.Proofs.Settings.RoundTrip
import WindowDecor.Proofs.Sizes.Kept
import WindowDecor.Proofs.Session.Account
import WindowDecor.Proofs.Icons.Assignments
import WindowDecor.Proofs.Icons.Slots
import WindowDecor.Proofs.Icons.Registrations
import WindowDecor.Proofs.Icons.Spellings
import WindowDecor.Proofs.Icons.OwnLoads
import WindowDecor.Proofs.Session.Permanence
import WindowDecor.Proofs.Session.Spelling
import WindowDecor.Proofs.Session.Transcripts
import WindowDecor.Proofs.Session.Styles
import WindowDecor.Proofs.Session.Preparing
import WindowDecor.Proofs.Translation.Desktop
import WindowDecor.Proofs.Translation.Run
import WindowDecor.Proofs.Calls.Order
import WindowDecor.Proofs.Sizes.Resizing
import WindowDecor.Proofs.Centering.ErrorOrder
import WindowDecor.Proofs.Session.NamedWindows
