import Rustls.Msgs.Message
import Rustls.Lib.BigEndian

/-!
Reassembling handshake messages from records: `msgs/deframer/handshake.rs`
and `msgs/deframer/buffers.rs`.

Records are read in place from one buffer, and handshake messages are kept
there too.  The `HandshakeDeframer` remembers each handshake message it has
seen the start of as a `FragmentSpan`: a range of the buffer, with the
message's length once its four-byte header is in.  A message split over
records lies in several ranges, separated by the record headers between
them; `coalesce` copies each later part down to where the earlier one ends
and reads the joined range again.  A span is complete when its range holds
exactly its header and body.

Positions are offsets into the buffer the connection hands the deframer.  The
front of that buffer is only ever discarded by amounts `BufferProgress`
allows, so that a span's range keeps pointing at the same bytes; a message's
bytes are released (`outer_discard`) when the last span is taken.

`coalesce` loops until no span but the last is incomplete.  Each round joins
two of the buffer regions the spans lie in, so the rounds are fewer than the
spans; the model runs it with that many rounds of fuel.
-/

namespace Rustls

/-- `HANDSHAKE_HEADER_LEN`. -/
def handshakeHeaderLen : Nat := 1 + 3

/-- `MAX_HANDSHAKE_SIZE`. -/
def maxHandshakeSize : Nat := 0xffff

/-- The bytes of `buf` in the range from `start` to `stop`. -/
def sliceRange (buf : List UInt8) (start stop : Nat) : List UInt8 :=
  (buf.drop start).take (stop - start)

/-- `copy_within`: the range from `start` to `stop` copied over the bytes
from `dest` on. -/
def copyWithin (buf : List UInt8) (start stop dest : Nat) : List UInt8 :=
  let src := sliceRange buf start stop
  buf.take dest ++ src ++ buf.drop (dest + src.length)

/-- `FragmentSpan`: the range from `start` to `stop` holds the handshake
message, header included, or the part of it received so far. -/
structure FragmentSpan where
  version : ProtocolVersion
  size : Option Nat
  start : Nat
  stop : Nat
  deriving DecidableEq, Repr

/-- `FragmentSpan::is_complete`. -/
def FragmentSpan.isComplete (span : FragmentSpan) : Bool :=
  match span.size with
  | some sz => sz + handshakeHeaderLen == span.stop - span.start
  | none => false

/-- `DissectHandshakeIter`: the spans of the handshake messages in `payload`,
which lies in the buffer from `start` on.  Every span but the last is complete. -/
def dissect (version : ProtocolVersion) (start : Nat) (payload : List UInt8) : List FragmentSpan :=
  if payload.isEmpty then []
  -- not enough for a header: the length is not known yet
  else if payload.length < handshakeHeaderLen then
    [⟨version, none, start, start + payload.length⟩]
  else
    let size := Bytes.value ((payload.take handshakeHeaderLen).drop 1)
    let rest := payload.drop handshakeHeaderLen
    if size < rest.length then
      ⟨version, some size, start, start + handshakeHeaderLen + size⟩ ::
        dissect version (start + handshakeHeaderLen + size) (rest.drop size)
    else [⟨version, some size, start, start + handshakeHeaderLen + rest.length⟩]
termination_by payload.length
decreasing_by simp only [List.length_drop, handshakeHeaderLen] at *; omega

/-- `HandshakeDeframer`. -/
structure HandshakeDeframer where
  spans : List FragmentSpan
  outerDiscard : Nat
  deriving DecidableEq, Repr

namespace HandshakeDeframer

/-- `HandshakeDeframer::default`. -/
def empty : HandshakeDeframer := ⟨[], 0⟩

/-- `input_message`, for a handshake record whose payload lies in the buffer
from `payloadStart` on and which ends at `outerDiscard`: a continuation of an
incomplete last span is kept as a span of its own until `coalesce`. -/
def inputMessage (d : HandshakeDeframer) (version : ProtocolVersion) (payloadStart : Nat)
    (payload : List UInt8) (outerDiscard : Nat) : HandshakeDeframer :=
  match d.spans.getLast?.filter (!·.isComplete) with
  | some _ =>
    ⟨d.spans ++ [⟨version, none, payloadStart, payloadStart + payload.length⟩], outerDiscard⟩
  | none => ⟨d.spans ++ dissect version payloadStart payload, outerDiscard⟩

/-- `has_message_ready`. -/
def hasMessageReady (d : HandshakeDeframer) : Bool :=
  (d.spans.head?.map FragmentSpan.isComplete).getD false

/-- `is_active`. -/
def isActive (d : HandshakeDeframer) : Bool :=
  !d.spans.isEmpty

/-- `is_aligned`: no partial handshake message is held. -/
def isAligned (d : HandshakeDeframer) : Bool :=
  d.spans.all FragmentSpan.isComplete

/-- `requires_coalesce`: the first incomplete span that is not the last. -/
def requiresCoalesce (d : HandshakeDeframer) : Option Nat :=
  d.spans.dropLast.findIdx? (!·.isComplete)

/-- `coalesce_one`: move span `index + 1` down to the end of span `index`,
and dissect the joined range again. -/
def coalesceOne (d : HandshakeDeframer) (index : Nat) (buf : List UInt8) :
    HandshakeDeframer × List UInt8 :=
  match d.spans[index]?, d.spans[index + 1]? with
  | some first, some second =>
    let spans := (d.spans.eraseIdx (index + 1)).eraseIdx index
    let len := second.stop - second.start
    let buf := copyWithin buf second.start second.stop first.stop
    let first := { first with stop := first.stop + len }
    let joined := dissect first.version first.start (sliceRange buf first.start first.stop)
    (⟨spans.take index ++ joined ++ spans.drop index, d.outerDiscard⟩, buf)
  | _, _ => (d, buf)

/-- The loop of `coalesce`, with `fuel` rounds. -/
def coalesceLoop : Nat → HandshakeDeframer → List UInt8 → HandshakeDeframer × List UInt8
  | 0, d, buf => (d, buf)
  | fuel + 1, d, buf =>
    match d.requiresCoalesce with
    | some i =>
      let (d, buf) := d.coalesceOne i buf
      coalesceLoop fuel d buf
    | none => (d, buf)

/-- `coalesce`, and the check that no message is over `MAX_HANDSHAKE_SIZE`. -/
def coalesce (d : HandshakeDeframer) (buf : List UInt8) :
    Except InvalidMessage (HandshakeDeframer × List UInt8) :=
  let (d, buf) := coalesceLoop d.spans.length d buf
  if d.spans.any fun span => span.size.getD 0 > maxHandshakeSize then
    .error .handshakePayloadTooLarge
  else .ok (d, buf)

/-- `iter(..).next()` and dropping the iterator: the first span, if complete,
as a handshake message, with what may be discarded once it is taken (the end
of the last record, when it is the last span). -/
def takeMessage (d : HandshakeDeframer) (buf : List UInt8) :
    Option (InboundPlainMessage × Nat) × HandshakeDeframer :=
  match d.spans with
  | [] => (none, d)
  | span :: rest =>
    if !span.isComplete then (none, d)
    else if rest.isEmpty then
      (some (⟨.handshake, span.version, sliceRange buf span.start span.stop⟩, d.outerDiscard),
        ⟨rest, 0⟩)
    else (some (⟨.handshake, span.version, sliceRange buf span.start span.stop⟩, 0), ⟨rest, d.outerDiscard⟩)

end HandshakeDeframer

/-! ### Buffers -/

/-- `BufferProgress`: the prefix parsed so far, and the prefix that may be
removed. -/
structure BufferProgress where
  processed : Nat
  discard : Nat
  deriving DecidableEq, Repr

namespace BufferProgress

/-- `BufferProgress::default`. -/
def empty : BufferProgress := ⟨0, 0⟩

/-- `add_discard`. -/
def addDiscard (p : BufferProgress) (discard : Nat) : BufferProgress :=
  { p with discard := p.discard + discard }

/-- `add_processed`. -/
def addProcessed (p : BufferProgress) (processed : Nat) : BufferProgress :=
  { p with processed := p.processed + processed }

/-- `take_discard`: the amount to remove, with `processed` moved down by it. -/
def takeDiscard (p : BufferProgress) : Nat × BufferProgress :=
  (p.discard, ⟨p.processed - p.discard, 0⟩)

end BufferProgress

/-- `DeframerVecBuffer`: the bytes read from the peer and not yet removed, and
how much of them was processed by an earlier call. -/
structure DeframerVecBuffer where
  buf : List UInt8
  processed : Nat
  deriving DecidableEq, Repr

namespace DeframerVecBuffer

/-- `discard`: remove `taken` bytes from the front. -/
def discard (b : DeframerVecBuffer) (taken : Nat) : DeframerVecBuffer :=
  if taken < b.buf.length then ⟨b.buf.drop taken, b.processed - taken⟩
  else if taken = b.buf.length then ⟨[], 0⟩
  else b

/-- Asked to remove more than it holds, the buffer removes nothing. -/
theorem discard_of_length_lt (b : DeframerVecBuffer) {taken : Nat} (h : b.buf.length < taken) :
    b.discard taken = b := by
  unfold discard
  rw [if_neg (by omega), if_neg (by omega)]

/-- `extend`, and what `read` appends. -/
def extend (b : DeframerVecBuffer) (bytes : List UInt8) : DeframerVecBuffer :=
  { b with buf := b.buf ++ bytes }

end DeframerVecBuffer

end Rustls
