import TypedBus.Frame.Basic

namespace TypedBus

/-- Frames on a byte stream. Both ends check the payload: a writer refuses a message before it
writes, a reader refuses one after it has taken its frame off the buffer, so that the next frame can
be read. -/
structure StreamCodec where
  maxPayload : Nat := payloadLimit
deriving DecidableEq, Repr

namespace StreamCodec

def checkPayload (codec : StreamCodec) (m : Message) : Except FrameError Unit :=
  if m.size > codec.maxPayload then .error (.frameTooLarge m.size) else .ok ()

def encode (codec : StreamCodec) (m : Message) (buffer : Bytes) : Except FrameError Unit × Bytes :=
  match codec.checkPayload m with
  | .error e => (.error e, buffer)
  | .ok () => Frame.encodeInto m buffer

/-- Writes a message that is handed over for good, which is done as for one that is only lent. -/
def encodeOwned (codec : StreamCodec) (m : Message) (buffer : Bytes) :
    Except FrameError Unit × Bytes :=
  codec.encode m buffer

def decode (codec : StreamCodec) (buffer : Bytes) : Except FrameError (Option Message) × Bytes :=
  match Frame.decode buffer with
  | (.ok (some m), rest) => ((codec.checkPayload m).map fun _ => some m, rest)
  | other => other

/-- Takes the first frame off a buffer that will not grow any more: bytes that stay without being a
frame are an error. -/
def decodeEnd (codec : StreamCodec) (buffer : Bytes) : Except FrameError (Option Message) × Bytes :=
  match codec.decode buffer with
  | (.ok none, []) => (.ok none, [])
  | (.ok none, rest) => (.error (.io "bytes remaining on stream"), rest)
  | other => other

end StreamCodec

end TypedBus
