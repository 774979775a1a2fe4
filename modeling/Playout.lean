import Playout.Main
import Playout.Renderer.Describe
import Playout.Proofs.Planner.Synchrony
import Playout.Proofs.Ring.Writing
import Playout.Proofs.Session.Accord
import Playout.Proofs.Session.Accounting
import Playout.Proofs.Session.Admission
import Playout.Proofs.Session.Alignment
import Playout.Proofs.Session.Cancellation
import Playout.Proofs.Session.Delivery
import Playout.Proofs.Session.FailedFlush
import Playout.Proofs.Session.FailedStart
import Playout.Proofs.Session.Interruption
import Playout.Proofs.Session.Progress
import Playout.Proofs.Session.Replay
import Playout.Proofs.Session.Starvation
import Playout.Proofs.Session.Territory
import Playout.Proofs.Session.Timeless
import Playout.Proofs.Source.Decoding
import Playout.Proofs.Source.ReadBack
import Playout.Proofs.Source.Tone
import Playout.Proofs.Tracker.FailedLook
import Playout.Proofs.Tracker.Rotation
import Playout.Proofs.WaveFormat.Conversion
