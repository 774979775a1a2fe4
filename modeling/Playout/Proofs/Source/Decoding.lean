import Playout.Proofs.Source.Encoding
import Playout.Proofs.Source.Tiling
import Playout.Source.PcmStream

/-!
# Decoding loses nothing

Whatever packets a library cuts the sound data of a file into, and whatever else it finds between
them, the chunks of a decoder hold the samples that were delivered, in the order in which they were
delivered, and tile the time that they play. If the library reads integers of a packed depth, the
chunks give back the bytes of the file (`AudioDecoder.chunks_exact`).

## Design points

* **What is assumed of the library is one relation.** `PacketReader.Delivers` has a case for the end
  of the file, one for a packet that adds nothing and one for a packet that adds frames, and the
  proof about the decoder is an induction over it.
* **The buffer is arbitrary.** Whatever was left of earlier packets, it has room for the next one
  when that is copied, so that the induction need not know how large it is.
-/

namespace Playout

open WaveFormat (sampleBytes)

/-- From a state of the library to the end of the file, the packets give these samples, in frames of
so many channels. Packets that add nothing may stand anywhere between them. -/
inductive PacketReader.Delivers {σ : Type} (R : PacketReader σ) (channels : Nat) :
    σ → List Sample → Prop
  | done {s : σ} (ended : R.next? s = .ok none) : Delivers R channels s []
  | passed {s s' : σ} {packet : Packet} {samples : List Sample}
    (read : R.next? s = .ok (some (packet, s'))) (nothing : packet.block? = none)
    (rest : Delivers R channels s' samples) : Delivers R channels s samples
  | added {s s' : σ} {packet : Packet} {block : SampleBlock} {samples : List Sample}
    (read : R.next? s = .ok (some (packet, s'))) (frames : packet.block? = some block)
    (same : block.channels = channels) (rest : Delivers R channels s' samples) :
    Delivers R channels s (block.samples ++ samples)

theorem Packet.frames_pos {packet : Packet} {block : SampleBlock}
    (frames : packet.block? = some block) : 0 < block.frames := by
  unfold block? at frames
  split at frames
  · cases frames
  · cases frames
  · split at frames
    · cases frames
    · next some_frame =>
      cases frames
      exact Nat.pos_of_ne_zero some_frame

namespace AudioDecoder

variable {σ : Type} {R : PacketReader σ} {d : AudioDecoder σ}

/-! ### Calls -/

/-- The chunks that calls give until the end of the file. -/
def chunks (R : PacketReader σ) (d : AudioDecoder σ) : Except SourceError (List PcmChunk) :=
  match found : d.next? R with
  | .error e => .error e
  | .ok none => .ok []
  | .ok (some (chunk, d')) =>
    have := left_of_next? found
    (chunks R d').map (chunk :: ·)
termination_by R.left d.source

theorem next?_of_ended (ended : R.next? d.source = .ok none) : d.next? R = .ok none := by
  rw [next?]
  split <;> simp_all

theorem next?_of_passed {packet : Packet} {s' : σ}
    (read : R.next? d.source = .ok (some (packet, s'))) (nothing : packet.block? = none) :
    d.next? R = next? R { d with source := s' } := by
  rw [next?]
  split <;> simp_all

theorem next?_of_added {packet : Packet} {block : SampleBlock} {s' : σ}
    {taken : PcmChunk × AudioDecoder σ}
    (read : R.next? d.source = .ok (some (packet, s'))) (frames : packet.block? = some block)
    (handed : { d with source := s' }.handOver block = .ok taken) :
    d.next? R = .ok (some taken) := by
  rw [next?]
  split <;> simp_all

theorem chunks_of_ended (ended : d.next? R = .ok none) : d.chunks R = .ok [] := by
  rw [chunks]
  split <;> simp_all

theorem chunks_of_next? {chunk : PcmChunk} {d' : AudioDecoder σ}
    (found : d.next? R = .ok (some (chunk, d'))) :
    d.chunks R = (d'.chunks R).map (chunk :: ·) := by
  rw [chunks]
  split <;> simp_all

theorem chunks_congr {d' : AudioDecoder σ} (same : d.next? R = d'.next? R) :
    d.chunks R = d'.chunks R := by
  rw [chunks, chunks]
  split <;> split <;> simp_all

/-! ### Chunks -/

theorem format_packed (d : AudioDecoder σ) : WaveFormat.PackedDepth d.format.bitsPerSample :=
  outputDepth_packed d.info.bitDepth

/-- All samples of a block, timed by the frames before them. -/
def chunkOf (d : AudioDecoder σ) (block : SampleBlock) : PcmChunk where
  data := block.samples.flatMap (sampleBytes d.format.bitsPerSample)
  start := ticksOfFrames d.framesOut d.info.sampleRate
  stop := ticksOfFrames (d.framesOut + block.frames) d.info.sampleRate

/-- A block always makes a chunk, whatever buffer there is. -/
theorem handOver_eq (rate_pos : 0 < d.info.sampleRate) (block : SampleBlock) :
    ∃ buffer, d.handOver block
      = .ok (d.chunkOf block, { d with buffer, framesOut := d.framesOut + block.frames }) := by
  refine ⟨some { SampleBuffer.roomFor block d.buffer with samples := block.samples }, ?_⟩
  simp only [handOver, SampleBuffer.copy_roomFor, WaveFormat.packAll_eq d.format_packed]
  rw [if_neg (Nat.ne_of_gt rate_pos)]
  rfl

/-- What was delivered is handed over, whatever the decoder has handed over before. -/
theorem chunks_of_delivers {channels : Nat} {s : σ} {samples : List Sample}
    (delivers : R.Delivers channels s samples) (source_eq : d.source = s)
    (rate_pos : 0 < d.info.sampleRate) :
    ∃ chunks frames, d.chunks R = .ok chunks ∧ samples.length = frames * channels
      ∧ chunks.flatMap (·.data) = samples.flatMap (sampleBytes d.format.bitsPerSample)
      ∧ Tiles (channels * d.format.bytesPerSample) d.info.sampleRate d.framesOut chunks
        (d.framesOut + frames) := by
  induction delivers generalizing d with
  | done ended =>
    subst source_eq
    exact ⟨[], 0, chunks_of_ended (next?_of_ended ended), by simp, rfl, .nil _⟩
  | @passed s s' packet samples read nothing _ ih =>
    subst source_eq
    have goes_on := chunks_congr (next?_of_passed read nothing)
    obtain ⟨chunks, frames, given⟩ := ih (d := { d with source := s' }) rfl rate_pos
    exact ⟨chunks, frames, goes_on ▸ given⟩
  | @added s s' packet block samples read some_frames same _ ih =>
    subst source_eq same
    obtain ⟨buffer, handed⟩ := handOver_eq (d := { d with source := s' }) rate_pos block
    have first := chunks_of_next? (next?_of_added read some_frames handed)
    let behind := { d with source := s', buffer, framesOut := d.framesOut + block.frames }
    obtain ⟨chunks, frames, given, length_eq, data_eq, tiles⟩ := ih (d := behind) rfl rate_pos
    have whole : (block.samples.flatMap (sampleBytes d.format.bitsPerSample)).length
        = block.frames * (block.channels * d.format.bytesPerSample) := by
      rw [WaveFormat.length_flatMap_sampleBytes d.format_packed, block.length_samples,
        Nat.mul_assoc]
    refine ⟨d.chunkOf block :: chunks, block.frames + frames, ?_, ?_, ?_, ?_⟩
    · rw [first, given]
      rfl
    · rw [List.length_append, block.length_samples, length_eq, Nat.add_mul]
    · rw [List.flatMap_cons, List.flatMap_append, data_eq]
      rfl
    · rw [← Nat.add_assoc]
      exact .cons (packet.frames_pos some_frames) whole tiles

end AudioDecoder

/-! ### Uncompressed samples -/

namespace PcmStream

variable {s : PcmStream}

/-- A packet takes as many frames as it can from the front of what is left. -/
theorem frames_split (block : s.blockAlign = s.frameWidth) (pos : 0 < s.frameWidth) :
    s.payload.length / s.frameWidth
        = s.framesIn s.packet + s.afterPacket.payload.length / s.frameWidth
      ∧ (s.framesIn s.packet = maxPacketBlocks ∨ s.afterPacket.payload.length = 0) := by
  have packet : s.packet.length = min (maxPacketBlocks * s.frameWidth) s.payload.length := by
    rw [PcmStream.packet, List.length_take, block]
  have after : s.afterPacket.payload.length
      = s.payload.length - maxPacketBlocks * s.frameWidth := by
    rw [afterPacket, List.length_drop, block]
  rw [framesIn, packet, after]
  rcases Nat.le_total s.payload.length (maxPacketBlocks * s.frameWidth) with last | more
  · have few : s.payload.length / s.frameWidth ≤ maxPacketBlocks :=
      Nat.div_le_of_le_mul (by rwa [Nat.mul_comm])
    rw [Nat.min_eq_right last, Nat.sub_eq_zero_of_le last, Nat.min_eq_right few, Nat.zero_div]
    exact ⟨rfl, .inr rfl⟩
  · rw [Nat.min_eq_left more, Nat.mul_div_cancel _ pos, Nat.min_self, Nat.mul_comm,
      Nat.sub_mul_div]
    have full : maxPacketBlocks ≤ s.payload.length / s.frameWidth :=
      (Nat.le_div_iff_mul_le pos).2 more
    exact ⟨by omega, .inl rfl⟩

/-- The samples of the whole frames that are left. -/
def samples (s : PcmStream) : List Sample :=
  s.encoding.decodeMany (s.payload.length / s.frameWidth * s.channels) s.payload

theorem samples_split (block : s.blockAlign = s.frameWidth) (pos : 0 < s.frameWidth) :
    s.samples = (s.decode s.packet).samples ++ s.afterPacket.samples := by
  obtain ⟨count, last⟩ := frames_split block pos
  have width : ∀ frames, frames * s.channels * s.encoding.width = frames * s.frameWidth := by
    intro frames
    rw [frameWidth, Nat.mul_assoc, Nat.mul_comm s.channels]
  have here : (s.decode s.packet).samples
      = s.encoding.decodeMany (s.framesIn s.packet * s.channels) s.payload := by
    refine Encoding.decodeMany_take _ _ _ ?_
    rw [width, block]
    exact Nat.mul_le_mul_right _ (Nat.min_le_left ..)
  have there : s.afterPacket.samples
      = s.encoding.decodeMany (s.afterPacket.payload.length / s.frameWidth * s.channels)
        (s.payload.drop (s.framesIn s.packet * s.channels * s.encoding.width)) := by
    rcases last with full | nothing
    · have behind : s.payload.drop (s.framesIn s.packet * s.channels * s.encoding.width)
          = s.afterPacket.payload := by
        rw [width, full, afterPacket, block]
      rw [behind]
      rfl
    · rw [samples, nothing, Nat.zero_div, Nat.zero_div, Nat.zero_mul, Nat.zero_mul]
      rfl
  rw [here, there, samples, count, Nat.add_mul, Encoding.decodeMany_add]

/-- Packet by packet, all whole frames are delivered in order. -/
theorem delivers (s : PcmStream) (block : s.blockAlign = s.frameWidth) (pos : 0 < s.frameWidth) :
    reader.Delivers s.channels s s.samples := by
  by_cases left : s.payload = []
  · have ended : reader.next? s = .ok none := by
      simp [reader, next?, block, Nat.ne_of_gt pos, left]
    have nothing : s.samples = [] := by
      simp [samples, left, Encoding.decodeMany]
    rw [nothing]
    exact .done ended
  · have read : reader.next? s = .ok (some (.decoded (s.decode s.packet), s.afterPacket)) := by
      simp [reader, next?, block, Nat.ne_of_gt pos, left]
    have shorter := reader.left_of_next? read
    have rest := delivers s.afterPacket block pos
    rw [samples_split block pos]
    by_cases empty : s.framesIn s.packet = 0
    · have no_samples : (s.decode s.packet).samples = [] := by
        rw [← List.length_eq_zero_iff, (s.decode s.packet).length_samples]
        exact Nat.mul_eq_zero.2 (.inl empty)
      rw [no_samples, List.nil_append]
      exact .passed read (if_pos empty) rest
    · exact .added read (if_neg empty) rfl rest
termination_by reader.left s

end PcmStream

namespace AudioDecoder

variable {σ : Type} {R : PacketReader σ} {d : AudioDecoder σ}

/-- A file of integers, of which the library delivers the whole frames in order: the calls succeed
until the end of the file, their chunks hold the very bytes of those frames, none is empty, and they
follow one another without a gap from the first tick to the time after all frames. That time is
exact for every length that a chunk of a file can have. -/
theorem chunks_exact {e : Encoding} {data : List UInt8} {frames : Nat} (integer : e.Packed)
    (named : d.info.bitDepth = some e.depth) (rate_pos : 0 < d.info.sampleRate)
    (channels_pos : 0 < d.info.channels) (fresh : d.framesOut = 0)
    (whole : frames = data.length / (e.width * d.info.channels))
    (delivers : R.Delivers d.info.channels d.source
      (e.decodeMany (frames * d.info.channels) data)) :
    ∃ chunks, d.chunks R = .ok chunks
      ∧ chunks.flatMap (·.data) = data.take (frames * (e.width * d.info.channels))
      ∧ (∀ chunk ∈ chunks, chunk.data ≠ [])
      ∧ Gapless 0 chunks (ticksOfFrames frames d.info.sampleRate)
      ∧ (data.length < 0x100000000 → ticksOfFrames frames d.info.sampleRate
        = (frames * ticksPerSecond / d.info.sampleRate : Nat)) := by
  have depth : d.format.bitsPerSample = e.depth := by
    show outputDepth d.info.bitDepth = e.depth
    rw [named, outputDepth_self integer.depth_packed]
  have width : d.format.bytesPerSample = e.width := by
    rw [WaveFormat.bytesPerSample, depth, integer.depth_eq, Nat.mul_div_cancel_left _ (by decide)]
  obtain ⟨chunks, count, called, length_eq, data_eq, tiles⟩ :=
    chunks_of_delivers delivers rfl rate_pos
  have same_count : count = frames := by
    rw [Encoding.length_decodeMany] at length_eq
    exact (Nat.eq_of_mul_eq_mul_right channels_pos length_eq).symm
  have enough : frames * d.info.channels * e.width ≤ data.length := by
    rw [Nat.mul_assoc, Nat.mul_comm d.info.channels, whole]
    exact Nat.div_mul_le_self ..
  rw [same_count, fresh, Nat.zero_add] at tiles
  refine ⟨chunks, called, ?_, ?_, ?_, ?_⟩
  · rw [data_eq, depth, integer.flatMap_sampleBytes_decodeMany _ enough, Nat.mul_assoc,
      Nat.mul_comm d.info.channels]
  · intro chunk mem
    obtain ⟨some_frames, pos, length_eq⟩ := tiles.whole chunk mem
    refine List.ne_nil_of_length_pos ?_
    rw [length_eq, width]
    exact Nat.mul_pos pos (Nat.mul_pos channels_pos integer.width_pos)
  · simpa using tiles.gapless
  · intro short
    refine ticksOfFrames_of_lt ?_
    have few : frames ≤ data.length := whole ▸ Nat.div_le_self ..
    have small : frames * ticksPerSecond / d.info.sampleRate ≤ frames * ticksPerSecond :=
      Nat.div_le_self ..
    unfold ticksPerSecond at small ⊢
    omega

/-- Two frames of stereo and the first byte of a third. -/
theorem chunks_exact_two_frames :
    let source : PcmStream := ⟨.signed 2 .little, 2, 4, [1, 2, 3, 4, 5, 6, 7, 8, 9]⟩
    let d : AudioDecoder PcmStream := { info := ⟨8000, 2, some 16, none, source.encoding⟩, source }
    ∃ chunks, d.chunks PcmStream.reader = .ok chunks
      ∧ chunks.flatMap (·.data) = [1, 2, 3, 4, 5, 6, 7, 8]
      ∧ Gapless 0 chunks 2500 := by
  intro source d
  have whole : 2 = source.payload.length / (source.encoding.width * d.info.channels) := by decide
  have delivers := source.delivers rfl (by decide)
  rw [PcmStream.samples, show source.payload.length / source.frameWidth = 2 by decide] at delivers
  obtain ⟨chunks, called, data_eq, -, gapless, stop⟩ :=
    chunks_exact (d := d) .two rfl (by decide) (by decide) rfl whole delivers
  have last : ticksOfFrames 2 d.info.sampleRate = 2500 := (stop (by decide)).trans (by decide)
  rw [last] at gapless
  exact ⟨chunks, called, data_eq, gapless⟩

end AudioDecoder

end Playout
