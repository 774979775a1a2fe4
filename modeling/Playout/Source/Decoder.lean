import Playout.Source.Chunk
import Playout.Source.Info

/-!
# Decoding packet by packet

A library reads the packets of a file and decodes their samples. An `AudioDecoder` asks it for one
packet after the other, passes over those that add nothing, and makes a chunk of the samples of
each of the others, in the packed depth next to the depth of the file.

## Design points

* **The library is a parameter.** Of a `PacketReader` it is only known what a call for a packet
  gives, and that every packet leaves less of the file.
* **One buffer serves all packets.** Samples are copied into a buffer that is kept, and replaced
  only if it may turn out too small. The copy fails where the samples do not fit.
-/

namespace Playout

/-! ### What the library gives -/

/-- The samples of a packet, frame by frame. -/
structure SampleBlock where
  channels : Nat
  frames : Nat
  /-- The most frames that a packet of the file can give. -/
  capacity : Nat
  samples : List Sample
  length_samples : samples.length = frames * channels
  frames_le : frames ≤ capacity
  deriving Repr

/-- A packet of a file. -/
inductive Packet
  /-- It belongs to another track. -/
  | foreign
  /-- It does not decode. -/
  | corrupt
  | decoded (block : SampleBlock)
  deriving Repr

/-- What a packet adds to the stream, if it adds a frame. -/
def Packet.block? : Packet → Option SampleBlock
  | foreign | corrupt => none
  | decoded block => if block.frames = 0 then none else some block

/-- A library that reads packets, by the state it is in. -/
structure PacketReader (σ : Type) where
  /-- The next packet; none at the end of the file, or where the library would have to begin
  anew. -/
  next? : σ → Except SourceError (Option (Packet × σ))
  /-- How much of the file is left. -/
  left : σ → Nat
  left_of_next? {s s' : σ} {packet : Packet} :
    next? s = .ok (some (packet, s')) → left s' < left s

/-! ### The buffer for samples -/

/-- A buffer for decoded samples. -/
structure SampleBuffer where
  /-- The most samples that it takes. -/
  capacity : Nat
  samples : List Sample := []
  deriving DecidableEq, Repr

namespace SampleBuffer

/-- A buffer for all samples that the packets of a file can give. -/
def ofBlock (block : SampleBlock) : SampleBuffer := { capacity := block.capacity * block.channels }

/-- The buffer for a block: the one at hand, unless it may be too small. -/
def roomFor (block : SampleBlock) : Option SampleBuffer → SampleBuffer
  | none => ofBlock block
  | some buffer =>
    if buffer.capacity < block.capacity * block.channels then ofBlock block else buffer

/-- Replaces the samples in the buffer by those of a block. -/
def copy (buffer : SampleBuffer) (block : SampleBlock) : Except Fault SampleBuffer :=
  if block.frames * block.channels ≤ buffer.capacity then
    .ok { buffer with samples := block.samples }
  else .error .smallBuffer

/-- The buffer that is chosen for a block has room for it. -/
theorem copy_roomFor (buffer : Option SampleBuffer) (block : SampleBlock) :
    (roomFor block buffer).copy block
      = .ok { roomFor block buffer with samples := block.samples } := by
  have fits : block.frames * block.channels ≤ block.capacity * block.channels :=
    Nat.mul_le_mul_right _ block.frames_le
  have room : block.frames * block.channels ≤ (roomFor block buffer).capacity := by
    unfold roomFor
    split
    · exact fits
    split
    · exact fits
    · omega
  rw [copy, if_pos room]

end SampleBuffer

/-! ### The decoder -/

/-- A file that is being decoded. -/
structure AudioDecoder (σ : Type) where
  info : AudioInfo
  /-- The state of the library. -/
  source : σ
  buffer : Option SampleBuffer := none
  /-- Frames handed over so far. -/
  framesOut : Nat := 0
  deriving DecidableEq, Repr

namespace AudioDecoder

variable {σ : Type}

/-- The format of the chunks. -/
def format (d : AudioDecoder σ) : WaveFormat := d.info.waveFormat

/-- The chunk that a block makes, and the decoder behind it. -/
def handOver (d : AudioDecoder σ) (block : SampleBlock) :
    Except Fault (PcmChunk × AudioDecoder σ) :=
  match (SampleBuffer.roomFor block d.buffer).copy block with
  | .error f => .error f
  | .ok buffer =>
    match d.format.packAll buffer.samples with
    | .error f => .error f
    | .ok data =>
      if d.info.sampleRate = 0 then .error .zeroRate
      else
        let stop := d.framesOut + block.frames
        .ok
          ({ data
             start := ticksOfFrames d.framesOut d.info.sampleRate
             stop := ticksOfFrames stop d.info.sampleRate },
            { d with buffer := some buffer, framesOut := stop })

/-- The next chunk, none at the end of the file. -/
def next? (R : PacketReader σ) (d : AudioDecoder σ) :
    Except SourceError (Option (PcmChunk × AudioDecoder σ)) :=
  match found : R.next? d.source with
  | .error e => .error e
  | .ok none => .ok none
  | .ok (some (packet, source)) =>
    have := R.left_of_next? found
    match packet.block? with
    | none => next? R { d with source }
    | some block =>
      match { d with source }.handOver block with
      | .ok taken => .ok (some taken)
      | .error f => .error (.fault f)
termination_by R.left d.source

theorem source_of_handOver {d d' : AudioDecoder σ} {block : SampleBlock} {chunk : PcmChunk}
    (h : d.handOver block = .ok (chunk, d')) : d'.source = d.source := by
  unfold handOver at h
  split at h
  · cases h
  split at h
  · cases h
  split at h
  · cases h
  · cases h
    rfl

/-- Each chunk leaves less of the file. -/
theorem left_of_next? {R : PacketReader σ} {d d' : AudioDecoder σ} {chunk : PcmChunk}
    (h : d.next? R = .ok (some (chunk, d'))) : R.left d'.source < R.left d.source := by
  fun_induction next? R d with
  | case1 => cases h
  | case2 => cases h
  | case3 d packet source found less _ ih => exact Nat.lt_trans (ih h) less
  | case4 d packet source found less _ _ taken handed =>
    cases h
    rw [source_of_handOver handed]
    exact less
  | case5 => cases h

end AudioDecoder

end Playout
