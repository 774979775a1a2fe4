import Playout.Source.Decoder

/-!
# Packets of uncompressed samples

The sound data of a container that does not compress them are read in packets of at most
`maxPacketBlocks` blocks. A packet decodes to the whole frames in it, at most as many as a full
packet has blocks.
-/

namespace Playout

/-- Sound data that are being read. -/
structure PcmStream where
  encoding : Encoding
  channels : Nat
  blockAlign : Nat
  /-- The sound data that are left. -/
  payload : List UInt8
  deriving DecidableEq, Repr

namespace PcmStream

/-- The most blocks of a packet, and the most frames that are taken from one. -/
def maxPacketBlocks : Nat := 1152

/-- Bytes per frame. -/
def frameWidth (s : PcmStream) : Nat := s.encoding.width * s.channels

/-- The bytes of the next packet. -/
def packet (s : PcmStream) : List UInt8 := s.payload.take (maxPacketBlocks * s.blockAlign)

/-- The stream behind the next packet. -/
def afterPacket (s : PcmStream) : PcmStream :=
  { s with payload := s.payload.drop (maxPacketBlocks * s.blockAlign) }

/-- The frames that are taken from a packet. -/
def framesIn (s : PcmStream) (packet : List UInt8) : Nat :=
  min maxPacketBlocks (packet.length / s.frameWidth)

/-- The first frames of a packet. -/
def decode (s : PcmStream) (packet : List UInt8) : SampleBlock where
  channels := s.channels
  frames := s.framesIn packet
  capacity := maxPacketBlocks
  samples := s.encoding.decodeMany (s.framesIn packet * s.channels) packet
  length_samples := Encoding.length_decodeMany ..
  frames_le := Nat.min_le_left ..

/-- The next packet, none at the end of the sound data. -/
def next? (s : PcmStream) : Except SourceError (Option (Packet × PcmStream)) :=
  if s.blockAlign = 0 then .error .emptyBlocks
  else if s.payload = [] then .ok none
  else .ok (some (.decoded (s.decode s.packet), s.afterPacket))

theorem afterPacket_shrinks {s : PcmStream} (block : s.blockAlign ≠ 0) (left : s.payload ≠ []) :
    s.afterPacket.payload.length < s.payload.length := by
  have h1 := List.length_pos_iff.2 left
  have h2 : 0 < maxPacketBlocks * s.blockAlign := Nat.mul_pos (by decide) (by omega)
  simp only [afterPacket, List.length_drop]
  omega

/-- Reading sound data packet by packet. -/
def reader : PacketReader PcmStream where
  next? := next?
  left s := s.payload.length
  left_of_next? {s s' packet} h := by
    unfold next? at h
    split at h
    · cases h
    split at h
    · cases h
    · next block left =>
      cases h
      exact afterPacket_shrinks block left

end PcmStream

end Playout
