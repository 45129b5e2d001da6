import Gowaves.GoLib.Strings
import Gowaves.Proto.MessageCodec

/-!
# Sessions of `pkg/networking` (`session.go`)

A `Session` reads a handshake from its connection and then, once it is established, messages:
a header, which the `Protocol` decodes and judges, and a payload of the header's
`PayloadLength`.  Every message read is handed to the handler's `OnReceive`, with the header's
bytes in front of the payload.

## Model

The connection is the list of bytes still to come, the handler the list of the calls made on it
(`Event`), and a session the two and its `established` flag.  `receive` is one turn of
`receiveLoop`: `readHandshake` before the handshake, `readMessage` after it; `receiveLoop` runs
turns until one fails, and then calls `OnClose` for a closed connection and `OnFailure`
otherwise.  A read error is classified as Go does it, by `errors.Is(err, io.EOF)` and by words
of its text (`ReadErrors`).  A `Message` of a protocol is a header that the protocol's reader
reads back from what `WriteTo` writes, with a payload of the header's length.

## Results

* `receiveLoop_delivers` — a stream of accepted messages is delivered one `OnReceive` per
  message, each with exactly the header and payload of the message, in order, and the session
  closes at the end of the stream; `receiveLoop_session` adds the handshake in front.
* `receive_deliversDiscarded` — a message that `IsAcceptableMessage` rejects is not dropped:
  `io.CopyN` skips its payload, and `readMessagePayload` still runs, takes the next
  `PayloadLength` bytes of the stream (the front of the following message) as the payload and
  calls `OnReceive` with them.
-/

set_option autoImplicit false

namespace Gowaves.Networking

open GoLib GoLib.Reader

/-- `Protocol`, with `EmptyHandshake().ReadFrom` and `EmptyHeader().ReadFrom` as readers of the
stream and `Header.WriteTo` as the bytes of a header.  Neither judgement of the model reads the
session. -/
structure Protocol (ε Hs H : Type) where
  readHandshake : Bytes → Except ε (Hs × Bytes)
  readHeader : Bytes → Except ε (H × Bytes)
  writeHeader : H → Bytes
  payloadLength : H → Nat
  isAcceptableHandshake : Hs → Bool
  isAcceptableMessage : H → Bool

/-- What the session looks at in a read error: whether it `errors.Is` `io.EOF`, and its text. -/
structure ReadErrors (ε : Type) where
  isEOF : ε → Bool
  text : ε → String

/-- The errors that end `receive`. -/
inductive SessionError (ε : Type) where
  /-- `ErrConnectionClosedOnRead`, alone or joined with the read error. -/
  | connectionClosedOnRead
  /-- `ErrUnacceptableHandshake`. -/
  | unacceptableHandshake
  /-- A read error returned as it is. -/
  | read (e : ε)
  /-- `io.EOF` from `io.CopyN`, when the stream ends inside a discarded payload. -/
  | eof
  deriving DecidableEq, Repr

/-- The calls made on the session's `Handler`. -/
inductive Event (ε Hs : Type) where
  | onHandshake (hs : Hs)
  | onHandshakeFailed (hs : Hs)
  | onReceive (message : Bytes)
  | onClose
  | onFailure (err : SessionError ε)
  deriving DecidableEq, Repr

/-- A session: whether the handshake is done, the bytes of the connection not read yet, and the
handler's calls, oldest first.  The stream after a failed read is never read again. -/
structure Session (ε Hs : Type) where
  established : Bool
  stream : Bytes
  events : List (Event ε Hs)

/-- `strings.Contains` on error texts. -/
def containsText (s sub : String) : Bool := (occursFirst sub.toList s.toList).isSome

section Receive

variable {ε Hs H : Type} (p : Protocol ε Hs H) (errs : ReadErrors ε)

/-- The read errors that `readHandshake` takes for a closed connection. -/
def closedOnHandshake (e : ε) : Bool :=
  errs.isEOF e || containsText (errs.text e) "closed" || containsText (errs.text e) "reset by peer"

/-- The read errors that `readMessage` takes for a closed connection: also a broken pipe. -/
def closedOnMessage (e : ε) : Bool :=
  closedOnHandshake errs e || containsText (errs.text e) "broken pipe"

/-- `io.CopyN(io.Discard, r, n)`: skips `n` bytes, or stops at the end of the stream with
`io.EOF`. -/
def discard (n : Nat) (r : Bytes) : Except (SessionError ε) Bytes :=
  if r.length < n then .error .eof else .ok (r.drop n)

/-- `readHandshake`: the handshake, and `OnHandshake` and the established state when the protocol
accepts it, `OnHandshakeFailed` and `ErrUnacceptableHandshake` when it does not. -/
def readHandshake (s : Session ε Hs) : Session ε Hs × Option (SessionError ε) :=
  match p.readHandshake s.stream with
  | .error e => (s, some (if closedOnHandshake errs e then .connectionClosedOnRead else .read e))
  | .ok (hs, rest) =>
    if !p.isAcceptableHandshake hs then
      ({ s with stream := rest, events := s.events ++ [.onHandshakeFailed hs] },
        some .unacceptableHandshake)
    else ({ established := true, stream := rest, events := s.events ++ [.onHandshake hs] }, none)

/-- `readMessagePayload`: the header's bytes, then what `io.Copy` takes from a `LimitReader` of
`PayloadLength` bytes, up to the end of the stream and without an error; the buffer goes to
`OnReceive`. -/
def readMessagePayload (hdr : H) (s : Session ε Hs) : Session ε Hs × Option (SessionError ε) :=
  let n := p.payloadLength hdr
  ({ s with
      stream := s.stream.drop n
      events := s.events ++ [.onReceive (p.writeHeader hdr ++ s.stream.take n)] }, none)

/-- `readMessage`: the header; the payload of a message that is not acceptable is discarded,
and then `readMessagePayload` runs in both cases. -/
def readMessage (s : Session ε Hs) : Session ε Hs × Option (SessionError ε) :=
  match p.readHeader s.stream with
  | .error e => (s, some (if closedOnMessage errs e then .connectionClosedOnRead else .read e))
  | .ok (hdr, r) =>
    if !p.isAcceptableMessage hdr then
      match discard (p.payloadLength hdr) r with
      | .error e => ({ s with stream := [] }, some e)
      | .ok r => readMessagePayload p hdr { s with stream := r }
    else readMessagePayload p hdr { s with stream := r }

def receive (s : Session ε Hs) : Session ε Hs × Option (SessionError ε) :=
  if s.established then readMessage p errs s else readHandshake p errs s

/-- `receiveLoop`: turns of `receive` until one fails, then `OnClose` for a closed connection
and `OnFailure` for any other error.  The Go loop has no bound; `fuel` bounds its turns. -/
def receiveLoop : Nat → Session ε Hs → Session ε Hs
  | 0, s => s
  | fuel + 1, s =>
    match receive p errs s with
    | (s, none) => receiveLoop fuel s
    | (s, some .connectionClosedOnRead) => { s with events := s.events ++ [.onClose] }
    | (s, some e) => { s with events := s.events ++ [.onFailure e] }

/-! ## One turn -/

/-- A header that the protocol reads back from the bytes `WriteTo` writes. -/
def Protocol.ReadsBack (hdr : H) : Prop :=
  ∀ rest, p.readHeader (p.writeHeader hdr ++ rest) = .ok (hdr, rest)

/-- A message of the protocol: a header it reads back, and a payload of the header's length. -/
structure Message where
  header : H
  payload : Bytes
  length_eq : p.payloadLength header = payload.length
  readsBack : p.ReadsBack header

/-- The bytes of a message on the wire. -/
def Message.bytes (m : Message p) : Bytes := p.writeHeader m.header ++ m.payload

theorem readMessagePayload_eq (hdr : H) (s : Session ε Hs) :
    readMessagePayload p hdr s =
      ({ s with
          stream := s.stream.drop (p.payloadLength hdr)
          events := s.events ++
            [.onReceive (p.writeHeader hdr ++ s.stream.take (p.payloadLength hdr))] }, none) :=
  rfl

theorem readMessagePayload_message (m : Message p) (s : Session ε Hs) (rest : Bytes) :
    readMessagePayload p m.header { s with stream := m.payload ++ rest } =
      ({ s with stream := rest, events := s.events ++ [.onReceive m.bytes] }, none) := by
  rw [readMessagePayload_eq, m.length_eq, List.drop_left, List.take_left, Message.bytes]

theorem readMessage_accepted (m : Message p) (hacc : p.isAcceptableMessage m.header = true)
    (s : Session ε Hs) (rest : Bytes) :
    readMessage p errs { s with stream := m.bytes ++ rest } =
      ({ s with stream := rest, events := s.events ++ [.onReceive m.bytes] }, none) := by
  have hr : p.readHeader (m.bytes ++ rest) = .ok (m.header, m.payload ++ rest) := by
    rw [Message.bytes, List.append_assoc]
    exact m.readsBack _
  simp only [readMessage, hr, hacc, Bool.not_true, Bool.false_eq_true, if_false]
  exact readMessagePayload_message p m s rest

theorem readMessage_rejected (m : Message p) (hrej : p.isAcceptableMessage m.header = false)
    (s : Session ε Hs) (next : Bytes) (hlen : m.payload.length ≤ next.length) :
    readMessage p errs { s with stream := m.bytes ++ next } =
      ({ s with
          stream := next.drop m.payload.length
          events := s.events ++
            [.onReceive (p.writeHeader m.header ++ next.take m.payload.length)] }, none) := by
  have hr : p.readHeader (m.bytes ++ next) = .ok (m.header, m.payload ++ next) := by
    rw [Message.bytes, List.append_assoc]
    exact m.readsBack _
  have hd : discard (ε := ε) (p.payloadLength m.header) (m.payload ++ next) = .ok next := by
    rw [discard, m.length_eq, List.length_append, if_neg (by omega), List.drop_left]
  simp only [readMessage, hr, hrej, Bool.not_false, if_true, hd]
  rw [readMessagePayload_eq, m.length_eq]

/-- The end of the stream, where the header reader fails with an error taken for a closed
connection. -/
def Protocol.ClosesAtEnd : Prop :=
  ∃ e, p.readHeader [] = .error e ∧ closedOnMessage errs e = true

theorem readMessage_end (hend : p.ClosesAtEnd errs) (s : Session ε Hs) (hs : s.stream = []) :
    readMessage p errs s = (s, some .connectionClosedOnRead) := by
  obtain ⟨e, he, hc⟩ := hend
  simp only [readMessage, hs, he, hc, if_true]

/-! ## The integration-test client -/

/-- The protocol of the integration-test client (`itests/clients/net_client.go`) on the message
side: `proto.Header` frames, and a message accepted unless its content ID is one the client
drops.  Its handshake side is a parameter. -/
def netClientProtocol {Hs : Type} (readHandshake : Bytes → Except String (Hs × Bytes))
    (isAcceptableHandshake : Hs → Bool) (drop : List Proto.PeerMessageID) :
    Protocol String Hs Proto.Header where
  readHandshake := readHandshake
  readHeader := Proto.Header.readFrom
  writeHeader := Proto.Header.marshalBinary
  payloadLength h := h.payloadLength.toNat
  isAcceptableHandshake := isAcceptableHandshake
  isAcceptableMessage h := !drop.contains h.contentID

/-- `errors.Is(err, io.EOF)` for the errors of `Header.ReadFrom`, which wrap the error of
`io.ReadFull` after a colon. -/
def frameErrors : ReadErrors String where
  isEOF e := (": " ++ eof).toList.isSuffixOf e.toList
  text e := e

section NetClient

variable {Hs : Type} (rh : Bytes → Except String (Hs × Bytes)) (ah : Hs → Bool)
  (drop : List Proto.PeerMessageID)

theorem netClient_readsBack {h : Proto.Header} (hw : h.Wire) :
    (netClientProtocol rh ah drop).ReadsBack h :=
  Proto.readFrom_marshalBinary hw

theorem netClient_closesAtEnd : (netClientProtocol rh ah drop).ClosesAtEnd frameErrors :=
  ⟨_, rfl, by decide⟩

end NetClient

/-- The header of a `BlockIDs` frame with a payload of four bytes. -/
def blockIDsHeader : Proto.Header :=
  ⟨17, Proto.headerMagic, Proto.contentIDBlockIDs, 4, Vector.replicate 4 0⟩

/-- The client with a handshake of no bytes, which it accepts. -/
def plainClient (drop : List Proto.PeerMessageID) : Protocol String Unit Proto.Header :=
  netClientProtocol (fun r => .ok ((), r)) (fun _ => true) drop

/-- A `BlockIDs` frame with a count of zero. -/
def emptyBlockIDs (drop : List Proto.PeerMessageID) : Message (plainClient drop) :=
  ⟨blockIDsHeader, [0, 0, 0, 0], rfl, netClient_readsBack _ _ _ ⟨rfl, by decide⟩⟩

/-! ## Whole sessions -/

theorem receiveLoop_none {fuel : Nat} {s s' : Session ε Hs} (h : receive p errs s = (s', none)) :
    receiveLoop p errs (fuel + 1) s = receiveLoop p errs fuel s' := by
  rw [receiveLoop, h]

theorem receiveLoop_closed {fuel : Nat} {s s' : Session ε Hs}
    (h : receive p errs s = (s', some .connectionClosedOnRead)) :
    receiveLoop p errs (fuel + 1) s = { s' with events := s'.events ++ [.onClose] } := by
  rw [receiveLoop, h]

/-- **An established session delivers a stream of accepted messages**, each once, whole and in
order, and closes at the end of the stream; the induction is on the messages, with enough fuel
for one turn per message and one for the end. -/
theorem receiveLoop_delivers (hend : p.ClosesAtEnd errs) :
    ∀ (ms : List (Message p)), (∀ m ∈ ms, p.isAcceptableMessage m.header = true) →
      ∀ (fuel : Nat), ms.length + 1 ≤ fuel → ∀ (events : List (Event ε Hs)),
        (receiveLoop p errs fuel ⟨true, (ms.map (Message.bytes p)).flatten, events⟩).events =
          events ++ ms.map (fun m => .onReceive m.bytes) ++ [.onClose]
  | [], _, fuel + 1, _, events => by
    have h : receive p errs ⟨true, [], events⟩ = (⟨true, [], events⟩, some .connectionClosedOnRead) :=
      readMessage_end p errs hend ⟨true, [], events⟩ rfl
    rw [List.map_nil, List.flatten_nil, receiveLoop_closed p errs h]
    simp
  | m :: ms, hacc, fuel + 1, hfuel, events => by
    have h := readMessage_accepted p errs m (hacc m (by simp)) ⟨true, [], events⟩
      (ms.map (Message.bytes p)).flatten
    have hturn : receive p errs ⟨true, ((m :: ms).map (Message.bytes p)).flatten, events⟩ =
        (⟨true, (ms.map (Message.bytes p)).flatten, events ++ [.onReceive m.bytes]⟩, none) := by
      simpa [receive] using h
    rw [receiveLoop_none p errs hturn,
      receiveLoop_delivers hend ms (fun m' hm' => hacc m' (by simp [hm'])) fuel
        (by simp at hfuel; omega)]
    simp

/-- **A whole session**: an accepted handshake, then accepted messages, delivered as
`OnHandshake`, one `OnReceive` per message and `OnClose`. -/
theorem receiveLoop_session (hend : p.ClosesAtEnd errs) (hsBytes : Bytes) (hs : Hs)
    (hread : ∀ rest, p.readHandshake (hsBytes ++ rest) = .ok (hs, rest))
    (hacc : p.isAcceptableHandshake hs = true) (ms : List (Message p))
    (hms : ∀ m ∈ ms, p.isAcceptableMessage m.header = true) (fuel : Nat)
    (hfuel : ms.length + 2 ≤ fuel) :
    (receiveLoop p errs fuel ⟨false, hsBytes ++ (ms.map (Message.bytes p)).flatten, []⟩).events =
      .onHandshake hs :: ms.map (fun m => .onReceive m.bytes) ++ [.onClose] := by
  obtain ⟨fuel, rfl⟩ : ∃ f, fuel = f + 1 := ⟨fuel - 1, by omega⟩
  have hturn : receive p errs ⟨false, hsBytes ++ (ms.map (Message.bytes p)).flatten, []⟩ =
      (⟨true, (ms.map (Message.bytes p)).flatten, [.onHandshake hs]⟩, none) := by
    simp [receive, readHandshake, hread, hacc]
  rw [receiveLoop_none p errs hturn, receiveLoop_delivers p errs hend ms hms fuel (by omega)]
  simp

theorem receiveLoop_session_blockIDs :
    (plainClient []).ClosesAtEnd frameErrors ∧
    (∀ rest : Bytes, (plainClient []).readHandshake ([] ++ rest) = .ok ((), rest)) ∧
    (plainClient []).isAcceptableHandshake () = true ∧
    (∀ m ∈ [emptyBlockIDs [], emptyBlockIDs []],
      (plainClient []).isAcceptableMessage m.header = true) ∧
    [emptyBlockIDs [], emptyBlockIDs []].length + 2 ≤ 4 ∧
    (receiveLoop (plainClient []) frameErrors 4
        ⟨false, [] ++ ([emptyBlockIDs [], emptyBlockIDs []].map (Message.bytes _)).flatten,
          []⟩).events =
      .onHandshake () :: [emptyBlockIDs [], emptyBlockIDs []].map (fun m => .onReceive m.bytes) ++
        [.onClose] :=
  have hacc : ∀ m ∈ [emptyBlockIDs [], emptyBlockIDs []],
      (plainClient []).isAcceptableMessage m.header = true := by
    simp [emptyBlockIDs, blockIDsHeader, plainClient, netClientProtocol]
  ⟨netClient_closesAtEnd _ _ _, fun _ => rfl, rfl, hacc, by decide,
    receiveLoop_session _ frameErrors (netClient_closesAtEnd _ _ _) [] () (fun _ => rfl) rfl _
      hacc 4 (by decide)⟩

/-- **A rejected message is delivered anyway**, with the front of what follows it as its
payload: `OnReceive` gets the rejected header and the next `PayloadLength` bytes, and the next
header is read after them. -/
theorem receive_deliversDiscarded (m : Message p) (hrej : p.isAcceptableMessage m.header = false)
    (next : Bytes) (hlen : m.payload.length ≤ next.length) (events : List (Event ε Hs)) :
    receive p errs ⟨true, m.bytes ++ next, events⟩ =
      (⟨true, next.drop m.payload.length,
        events ++ [.onReceive (p.writeHeader m.header ++ next.take m.payload.length)]⟩, none) := by
  have h := readMessage_rejected p errs m hrej ⟨true, [], events⟩ next hlen
  simpa [receive] using h

theorem receive_deliversDiscarded_blockIDs :
    (plainClient [Proto.contentIDBlockIDs]).isAcceptableMessage
        (emptyBlockIDs [Proto.contentIDBlockIDs]).header = false ∧
    (emptyBlockIDs [Proto.contentIDBlockIDs]).payload.length ≤
      (emptyBlockIDs [Proto.contentIDBlockIDs]).bytes.length ∧
    receive (plainClient [Proto.contentIDBlockIDs]) frameErrors
        ⟨true, (emptyBlockIDs [Proto.contentIDBlockIDs]).bytes ++
          (emptyBlockIDs [Proto.contentIDBlockIDs]).bytes, []⟩ =
      (⟨true, (emptyBlockIDs [Proto.contentIDBlockIDs]).bytes.drop 4,
        [] ++ [.onReceive ((plainClient [Proto.contentIDBlockIDs]).writeHeader blockIDsHeader ++
          (emptyBlockIDs [Proto.contentIDBlockIDs]).bytes.take 4)]⟩, none) :=
  ⟨rfl, by decide, receive_deliversDiscarded _ frameErrors (emptyBlockIDs [Proto.contentIDBlockIDs])
    rfl _ (by decide) []⟩

end Receive

end Gowaves.Networking
