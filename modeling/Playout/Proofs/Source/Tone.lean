import Mathlib.Logic.Function.Iterate
import Playout.Proofs.Source.Tiling
import Playout.Proofs.WaveFormat.Packing
import Playout.Source.Tone

/-!
# A tone lasts as long as it should

A tone that was accepted ends after finitely many chunks and stays at its end. Until then its chunks
follow one another without a gap, hold whole frames with the same sample in every channel, and
altogether hold the frames that fit into its duration (`ToneSource.create_tiles`).

## Design points

* **One statement about a call.** `Playable.next?_inv` says all that a call does which gives a
  chunk; what follows about all calls is by induction on `chunks`, which recurs on what is left.
* **The samples do not matter.** A sine is whatever the arithmetic makes of it; a frame repeats it
  once for each channel.
-/

namespace Playout

/-- Whole frames, each with the same bytes in every channel. -/
def SameInAllChannels (f : WaveFormat) (data : List UInt8) : Prop :=
  ∃ samples : List (List UInt8), (∀ sample ∈ samples, sample.length = f.bytesPerSample)
    ∧ data = samples.flatMap fun sample => (List.replicate f.channels sample).flatten

namespace ToneSource

/-! ### Calling for chunks -/

/-- What a call answers. -/
def answer (t : ToneSource) : Option PcmChunk := t.next?.map Prod.fst

/-- The tone after a call. -/
def after (t : ToneSource) : ToneSource := (t.next?.map Prod.snd).getD t

/-- The answers of the first calls. -/
def answers : (calls : Nat) → ToneSource → List (Option PcmChunk)
  | 0, _ => []
  | calls + 1, t => t.answer :: answers calls t.after

/-- A tone that was accepted, and is not past its end. -/
structure Playable (t : ToneSource) : Prop where
  accepted : t.format.validate = .ok ()
  integer : t.format.tag = .pcm
  position_le : t.position ≤ t.totalFrames

variable {t : ToneSource}

theorem create_inv {frequency : Float} {duration : Duration} {format : WaveFormat}
    (created : create frequency duration format = .ok t) :
    t = { format, frequency, totalFrames := framesIn duration format.sampleRate } ∧ t.Playable := by
  unfold create at created
  split at created
  · cases created
  next accepted =>
  dsimp only at created
  split at created
  · cases created
  next integer =>
  split at created
  · cases created
    exact ⟨rfl, accepted, by simpa using integer, Nat.zero_le _⟩
  · cases created

/-- A tone without a next chunk has given all its frames. -/
theorem Playable.position_eq (playable : t.Playable) (ended : t.next? = none) :
    t.position = t.totalFrames := by
  have within := playable.position_le
  unfold next? remaining at ended
  split at ended
  · omega
  · cases ended

/-- A call that gives a chunk puts at least one frame into it, and goes on behind that. -/
theorem Playable.next?_inv (playable : t.Playable) {chunk : PcmChunk} {t' : ToneSource}
    (found : t.next? = some (chunk, t')) :
    t'.Playable ∧ ∃ count > 0, t' = { t with position := t.position + count }
      ∧ chunk = ⟨t.frames t.position count, ticksOfFrames t.position t.format.sampleRate,
          ticksOfFrames (t.position + count) t.format.sampleRate⟩ := by
  have full := framesPerChunk_pos t.format.sampleRate
  unfold next? at found
  split at found
  · cases found
  next left =>
  unfold remaining at left found
  cases found
  refine ⟨⟨playable.accepted, playable.integer, ?_⟩, _, ?_, rfl, rfl⟩
  · dsimp only
    omega
  · omega

/-- A call keeps a tone from passing its end. -/
theorem Playable.after (playable : t.Playable) : t.after.Playable := by
  unfold ToneSource.after
  rcases found : t.next? with _ | ⟨chunk, t'⟩
  · exact playable
  · exact (playable.next?_inv found).1

theorem Playable.iterate_after (playable : t.Playable) (calls : Nat) :
    (ToneSource.after^[calls] t).Playable := by
  induction calls generalizing t with
  | zero => exact playable
  | succ calls ih => exact ih playable.after

/-- The calls give the chunks one by one, and nothing after them. -/
theorem answers_eq (t : ToneSource) (more : Nat) :
    t.answers (t.chunks.length + more) = t.chunks.map some ++ List.replicate more none := by
  fun_induction chunks t with
  | case1 t ended =>
    -- A tone that has ended stays as it is.
    induction more with
    | zero => rfl
    | succ more ih =>
      have stays : t.after = t := by simp [ToneSource.after, ended]
      simp_all [answers, answer, List.replicate_succ]
  | case2 t chunk t' found _ ih =>
    have next : t.after = t' := by simp [ToneSource.after, found]
    simp [Nat.succ_add, answers, answer, found, next, ih]

/-! ### What is in a chunk -/

section Frames

variable (playable : t.Playable) (first count : Nat)
include playable

theorem Playable.packed : WaveFormat.PackedDepth t.format.bitsPerSample := by
  have allowed := (WaveFormat.of_validate playable.accepted).2.2.2.1
  simpa [WaveFormat.PackedDepth, WaveFormat.depthAllowed, playable.integer, or_assoc] using allowed

theorem Playable.frames_eq :
    t.frames first count
      = ((List.range' first count).map fun n =>
          WaveFormat.sampleBytes t.format.bitsPerSample (t.sampleAt n)).flatMap
        fun sample => (List.replicate t.format.channels sample).flatten := by
  simp only [frames, WaveFormat.packAll_eq playable.packed, List.flatMap_assoc,
    List.flatMap_replicate, List.flatMap_map]

theorem Playable.sameInAllChannels : SameInAllChannels t.format (t.frames first count) := by
  refine ⟨_, ?_, playable.frames_eq first count⟩
  intro sample mem
  obtain ⟨n, -, rfl⟩ := List.mem_map.1 mem
  exact WaveFormat.length_sampleBytes playable.packed _

theorem Playable.length_frames :
    (t.frames first count).length = count * t.format.blockAlign := by
  have align := (WaveFormat.of_validate playable.accepted).2.2.2.2.1
  simp only [frames, WaveFormat.packAll_eq playable.packed,
    WaveFormat.length_flatMap_sampleBytes playable.packed, List.length_flatMap,
    List.length_replicate, List.map_const', List.length_range', List.sum_replicate_nat]
  rw [align, Nat.mul_assoc]

end Frames

/-- What holds of all frames that a tone gives holds of its chunks. -/
theorem Playable.forall_chunks (playable : t.Playable) {motive : List UInt8 → Prop}
    (holds : ∀ first count, motive (t.frames first count)) :
    ∀ chunk ∈ t.chunks, motive chunk.data := by
  fun_induction chunks t with
  | case1 => simp
  | case2 t chunk t' found _ ih =>
    obtain ⟨rest, count, -, rfl, rfl⟩ := playable.next?_inv found
    exact List.forall_mem_cons.2 ⟨holds _ _, ih rest holds⟩

/-- The chunks hold the frames that are left. -/
theorem Playable.tiles (playable : t.Playable) :
    Tiles t.format.blockAlign t.format.sampleRate t.position t.chunks t.totalFrames := by
  fun_induction chunks t with
  | case1 t ended =>
    rw [playable.position_eq ended]
    exact .nil _
  | case2 t chunk t' found _ ih =>
    obtain ⟨rest, count, pos, rfl, rfl⟩ := playable.next?_inv found
    exact .cons pos (playable.length_frames _ _) (ih rest)

/-- A tone whose frames and times fit their words is given whole: it ends after finitely many
chunks and stays at its end, its chunks are gapless and none is empty, they consist of whole frames
with the same bytes in every channel, as many as its duration holds, and what was given never
outgrows the tone. -/
theorem create_tiles {frequency : Float} {duration : Duration} {format : WaveFormat}
    (created : create frequency duration format = .ok t) {total : Nat}
    (total_eq : total = duration.nanoseconds * format.sampleRate / 1000000000)
    (total_lt : total < 0x10000000000000000)
    (ticks_lt : total * ticksPerSecond / format.sampleRate < 0x8000000000000000) :
    (∀ more, t.answers (t.chunks.length + more)
        = t.chunks.map some ++ List.replicate more none)
      ∧ (∀ chunk ∈ t.chunks, chunk.data ≠ [] ∧ format.blockAlign ∣ chunk.data.length
        ∧ SameInAllChannels format chunk.data)
      ∧ (t.chunks.flatMap (·.data)).length = total * format.blockAlign
      ∧ Gapless 0 t.chunks (total * ticksPerSecond / format.sampleRate : Nat)
      ∧ ∀ calls, (after^[calls] t).position ≤ (after^[calls] t).totalFrames := by
  obtain ⟨rfl, playable⟩ := create_inv created
  rw [show framesIn duration format.sampleRate = total from
    total_eq ▸ wrapUnsigned_of_lt (total_eq ▸ total_lt)] at *
  have tiles := playable.tiles
  refine ⟨answers_eq _, ?_, ?_, ?_, fun calls => (playable.iterate_after calls).position_le⟩
  · intro chunk mem
    obtain ⟨frames, pos, whole⟩ := tiles.whole chunk mem
    have align_pos := WaveFormat.blockAlign_pos_of_validate playable.accepted
    refine ⟨List.ne_nil_of_length_pos ?_, ⟨frames, ?_⟩, ?_⟩
    · rw [whole]
      exact Nat.mul_pos pos align_pos
    · rw [whole, Nat.mul_comm]
    · exact playable.forall_chunks (playable.sameInAllChannels · ·) chunk mem
  · simpa only [Nat.zero_mul, Nat.zero_add] using tiles.length_data
  · have gapless := tiles.gapless
    rwa [ticksOfFrames_zero, ticksOfFrames_of_lt ticks_lt] at gapless

/-- Fifty milliseconds of stereo at 8000 frames per second are 400 frames of four bytes. -/
theorem create_tiles_fifty_milliseconds :
    ∃ t, create 440.0 ⟨50000000⟩ (.pcm 8000 2 16) = .ok t
      ∧ (∀ more, t.answers (t.chunks.length + more)
        = t.chunks.map some ++ List.replicate more none)
      ∧ (t.chunks.flatMap (·.data)).length = 1600
      ∧ Gapless 0 t.chunks 500000 := by
  have created : create 440.0 ⟨50000000⟩ (.pcm 8000 2 16)
      = .ok { format := .pcm 8000 2 16, frequency := 440.0, totalFrames := 400 } := rfl
  obtain ⟨ends, -, length_eq, gapless, -⟩ :=
    create_tiles created (show 400 = _ by decide) (by decide) (by decide)
  exact ⟨_, created, ends, length_eq, gapless⟩

end ToneSource

end Playout
