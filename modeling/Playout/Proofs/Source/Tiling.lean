import Playout.Source.Chunk

/-!
# Chunks that tile a stretch of time

`Gapless` chunks follow one another without a gap and without overlap. Sources number their frames
instead and take both times of a chunk from the numbers of its frames (`Tiles`), so that no rounding
adds up: their chunks are gapless, none is empty, and together they are as long as the frames.
-/

namespace Playout

/-- A time that a word can hold is not cut. -/
theorem ticksOfFrames_of_lt {frames rate : Nat}
    (fits : frames * ticksPerSecond / rate < 0x8000000000000000) :
    ticksOfFrames frames rate = (frames * ticksPerSecond / rate : Nat) := by
  unfold ticksOfFrames
  generalize frames * ticksPerSecond / rate = ticks at fits
  exact wrapSigned_of_lt (by omega) (by omega)

/-- The chunks cover the time from `start` to `stop`, each beginning where the one before ends. -/
inductive Gapless : (start : Ticks) → List PcmChunk → (stop : Ticks) → Prop
  | nil (now : Ticks) : Gapless now [] now
  | cons {data : List UInt8} {start middle stop : Ticks} {chunks : List PcmChunk}
    (rest : Gapless middle chunks stop) : Gapless start (⟨data, start, middle⟩ :: chunks) stop

/-- The chunks hold the frames from number `first` up to number `last`, at least one each, `width`
bytes a frame, and are timed by them at `rate` frames per second. -/
inductive Tiles (width rate : Nat) : (first : Nat) → List PcmChunk → (last : Nat) → Prop
  | nil (n : Nat) : Tiles width rate n [] n
  | cons {first frames last : Nat} {data : List UInt8} {chunks : List PcmChunk}
    (some_frame : 0 < frames) (whole : data.length = frames * width)
    (rest : Tiles width rate (first + frames) chunks last) :
    Tiles width rate first
      (⟨data, ticksOfFrames first rate, ticksOfFrames (first + frames) rate⟩ :: chunks) last

namespace Tiles

variable {width rate first last : Nat} {chunks : List PcmChunk}

theorem gapless (tiles : Tiles width rate first chunks last) :
    Gapless (ticksOfFrames first rate) chunks (ticksOfFrames last rate) := by
  induction tiles with
  | nil n => exact .nil _
  | cons _ _ _ ih => exact .cons ih

theorem whole (tiles : Tiles width rate first chunks last) :
    ∀ chunk ∈ chunks, ∃ frames > 0, chunk.data.length = frames * width := by
  induction tiles with
  | nil n => intro chunk mem; cases mem
  | cons some_frame whole _ ih =>
    intro chunk mem
    rcases List.mem_cons.1 mem with rfl | mem
    · exact ⟨_, some_frame, whole⟩
    · exact ih chunk mem

theorem length_data (tiles : Tiles width rate first chunks last) :
    first * width + (chunks.flatMap (·.data)).length = last * width := by
  induction tiles with
  | nil n => simp
  | cons _ whole _ ih =>
    rw [List.flatMap_cons, List.length_append, whole, ← ih, Nat.add_mul, Nat.add_assoc]

end Tiles

end Playout
