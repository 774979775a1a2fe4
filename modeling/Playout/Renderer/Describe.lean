import Playout.Renderer.Basic
import Playout.Text.Record

/-!
# A renderer, written out
-/

namespace Playout

def FormatTag.describe : FormatTag → String
  | pcm => "Pcm"
  | ieeeFloat => "IeeeFloat"

/-- Every field of a format. -/
def WaveFormat.describe (f : WaveFormat) : String :=
  Text.record "WaveFormat"
    [("format_tag", f.tag.describe), ("channels", toString f.channels),
      ("sample_rate", toString f.sampleRate), ("avg_bytes_per_sec", toString f.byteRate),
      ("block_align", toString f.blockAlign), ("bits_per_sample", toString f.bitsPerSample),
      ("extra_size", toString f.extraSize)]

def StreamState.describe : StreamState → String
  | stopped => "Stopped"
  | paused => "Paused"
  | running => "Running"

/-- The device, the state and the flags of a renderer. -/
def Renderer.describe (r : Renderer) : String :=
  Text.record "Renderer"
    [("device", Text.quoted r.device.name), ("state", r.state.describe),
      ("format", Text.optional (r.format.map (·.describe))), ("eos", Text.truth r.ended),
      ("flushing", Text.truth r.flushing), ("state_settled", Text.truth r.settled)]

end Playout
