import Playout.Source.Aiff
import Playout.Source.PcmStream
import Playout.Source.Tag
import Playout.Source.Wave
import Playout.Text.Uppercase

/-!
# Audio files as sources

An audio file is recognised by the first marker in it, whatever its name is; a tag in front of it
is passed over. What is recognised is decoded packet by packet.
-/

namespace Playout

/-- An audio file that is being read. -/
structure AudioFile extends AudioDecoder PcmStream where
  /-- The name of the container: the extension of the file, in upper case. -/
  container : String
  deriving DecidableEq, Repr

namespace AudioFile

/-! ### Recognising a file -/

/-- What a marker announces. -/
inductive Content
  | wave
  | aiff
  /-- A tag in front of something else. -/
  | tag
  /-- Something that is recognised but not understood. -/
  | foreign
  deriving DecidableEq, Repr

/-- The markers. Besides those of the two containers these are the marker of a tag, those of three
other containers, and six pairs of bytes with which frames of compressed sound begin. -/
def markers : List (List UInt8 × Content) :=
  [([0x52, 0x49, 0x46, 0x46], .wave), ([0x46, 0x4F, 0x52, 0x4D], .aiff),
   ([0x49, 0x44, 0x33], .tag), ([0x66, 0x4C, 0x61, 0x43], .foreign),
   ([0x4F, 0x67, 0x67, 0x53], .foreign), ([0x1A, 0x45, 0xDF, 0xA3], .foreign),
   ([0xFF, 0xFA], .foreign), ([0xFF, 0xFB], .foreign), ([0xFF, 0xF2], .foreign),
   ([0xFF, 0xF3], .foreign), ([0xFF, 0xE2], .foreign), ([0xFF, 0xE3], .foreign)]

/-- How many places are searched for a marker. -/
def searchLimit : Nat := 0xFFFFF

/-- The first marker at one of the first places of a file, and what follows it. -/
def firstMarker : (places : Nat) → List UInt8 → Option (Content × List UInt8)
  | 0, _ => none
  | _, [] => none
  | places + 1, b :: rest =>
    match markers.find? fun (marker, _) => marker.isPrefixOf (b :: rest) with
    | some (marker, content) => some (content, rest.drop (marker.length - 1))
    | none => firstMarker places rest

theorem length_of_firstMarker {places : Nat} {input rest : List UInt8} {content : Content}
    (h : firstMarker places input = some (content, rest)) : rest.length < input.length := by
  fun_induction firstMarker places input with
  | case1 => cases h
  | case2 => cases h
  | case3 =>
    cases h
    simp only [List.length_drop, List.length_cons]
    omega
  | case4 _ _ _ _ ih => exact Nat.lt_succ_of_lt (ih h)

/-- Reads the container whose marker comes first in a file, not counting what is inside of tags. -/
def probe (input : List UInt8) : Except ReadingError Container :=
  match found : firstMarker searchLimit input with
  | some (.wave, rest) => Wave.read rest
  | some (.aiff, rest) => Aiff.read rest
  | some (.tag, rest) =>
    match Tag.extent? rest with
    | some length =>
      have := length_of_firstMarker found
      probe (rest.drop length)
    | none => .error .malformed
  | some (.foreign, _) | none => .error .malformed
termination_by input.length
decreasing_by
  simp only [List.length_drop]
  omega

/-! ### Opening a file -/

/-- The name of a container after the path of its file. -/
def containerName (path : String) : String :=
  match PathName.extension? path with
  | some text => Text.upper text
  | none => "Unknown"

/-- Checks that the samples of a container can be read. -/
def checkSamples (info : AudioInfo) (storedBits : Option Nat) : Except DecoderError Unit :=
  if info.channels = 0 then .error .noChannels
  else if storedBits.any (info.encoding.depth < ·) then .error .tooDeep
  else .ok ()

/-- Opens a file with the given path and contents. -/
def ofBytes (path : String) (bytes : List UInt8) : Except SourceError AudioFile :=
  match probe bytes with
  | .error .malformed => .error .unsupportedFormat
  | .error (.fault f) => .error (.fault f)
  | .ok ⟨none, _, _, _⟩ => .error .noAudioTrack
  | .ok ⟨some info, storedBits, blockAlign, payload⟩ =>
    match checkSamples info storedBits with
    | .error e => .error (.decoderCreation e)
    | .ok () =>
      let source : PcmStream :=
        { encoding := info.encoding, channels := info.channels, blockAlign, payload }
      .ok { info, source, container := containerName path }

/-- Opens what a path led to. -/
def create (path : String) (entry : Except OpenError Entry) : Except SourceError AudioFile :=
  match entry with
  | .error e => .error (.fileOpen e)
  | .ok .folder => .error .unsupportedFormat
  | .ok (.file bytes) => ofBytes path bytes

/-- The next chunk, none at the end of the file. -/
def next? (f : AudioFile) : Except SourceError (Option (PcmChunk × AudioFile)) :=
  match f.toAudioDecoder.next? PcmStream.reader with
  | .ok found =>
    .ok (found.map fun (chunk, decoder) => (chunk, { f with toAudioDecoder := decoder }))
  | .error e => .error e

/-- Bytes of the sound data that are left. -/
def left (f : AudioFile) : Nat := PcmStream.reader.left f.source

/-- Each chunk leaves less of the sound data. -/
theorem left_of_next? {f f' : AudioFile} {chunk : PcmChunk}
    (h : f.next? = .ok (some (chunk, f'))) : f'.left < f.left := by
  unfold next? at h
  split at h
  · next found =>
    simp only [Except.ok.injEq, Option.map_eq_some_iff, Prod.mk.injEq] at h
    obtain ⟨⟨_, decoder⟩, rfl, rfl, rfl⟩ := h
    exact AudioDecoder.left_of_next? found
  · cases h

end AudioFile

end Playout
