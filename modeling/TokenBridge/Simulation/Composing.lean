import TokenBridge.Batch
import TokenBridge.Simulation.Reader

set_option autoImplicit false

/-! # Composing with simulated readers

Simulated readers that record what they are asked, and the orders of a batch as tasks that are
polled, all of them again whenever an answer comes. A task asks when it is polled for the first
time; after that it goes on with the answers that have come. The first failure ends all tasks.
-/

namespace TokenBridge.Simulation

/-! ## Readers that record -/

structure RecordingReader where
  tables : ReaderTables
  /-- How many questions it was asked. -/
  calls : Nat
  /-- The channel and the token of each counterpart that it was asked for. -/
  predictions : List (UInt32 × Bytes)
  deriving Repr

namespace RecordingReader

def reader (r : RecordingReader) : Reader := r.tables.reader

/-- Asks how a token is shown, unless it is a native coin. -/
def resolve (token : String) (r : RecordingReader) : Pending TokenMetadata × RecordingReader :=
  match r.reader.native? token with
  | some m => (⟨0, .ok m⟩, r)
  | none =>
      (⟨r.reader.delay token, (r.reader.metadata token).mapError (.metadataResolution token)⟩,
        { r with calls := r.calls + 1 })

/-- Asks what will stand for a token. -/
def predict (endpoint : Endpoint) (token : Bytes) (r : RecordingReader) :
    Pending Bytes × RecordingReader :=
  (⟨r.reader.quoteDelay endpoint token,
      (r.reader.quote endpoint token).mapError (.quotePrediction token)⟩,
    { r with
      calls := r.calls + 1
      predictions := r.predictions ++ [(endpoint.channel, token)] })

end RecordingReader

/-- The readers of the two chains. -/
structure Readers where
  source : RecordingReader
  destination : RecordingReader
  deriving Repr

/-! ## One answer -/

/-- A question on its way: it has not been put, its answer comes at a time, or it is answered. -/
inductive Reading (α : Type)
  | idle
  | waiting (due : Nat) (answer : Except OrderError α)
  | done (a : α)

namespace Reading

variable {α σ : Type}

def settle (now due : Nat) (answer : Except OrderError α) : Except OrderError (Reading α) :=
  if due ≤ now then answer.map done else .ok (waiting due answer)

/-- Puts the question if that has not been done, and looks whether the answer has come. -/
def poll (ask : σ → Pending α × σ) (now : Nat) :
    Reading α → σ → Except OrderError (Reading α) × σ
  | idle, s =>
      let (p, s) := ask s
      (settle now (now + p.delay) p.result, s)
  | waiting due answer, s => (settle now due answer, s)
  | done a, s => (.ok (done a), s)

end Reading

/-! ## One order -/

inductive OrderTask
  | idle (i : AddressedIntent)
  | reading (i : AddressedIntent) (baseToken : Bytes) (metadata : Reading TokenMetadata)
      (quote : Reading Bytes)
  | finished (o : Order)

namespace OrderTask

def order? : OrderTask → Option Order
  | finished o => some o
  | _ => none

/-- The order is there when both answers are. -/
def join (i : AddressedIntent) (baseToken : Bytes) :
    Reading TokenMetadata → Reading Bytes → OrderTask
  | .done m, .done quoteToken => finished (i.order baseToken m quoteToken)
  | metadata, quote => reading i baseToken metadata quote

/-- Polls both questions, the one about metadata first. -/
def read (now : Nat) (endpoint : Endpoint) (i : AddressedIntent) (baseToken : Bytes)
    (metadata : Reading TokenMetadata) (quote : Reading Bytes) (w : Readers) :
    Except OrderError OrderTask × Readers :=
  match metadata.poll (RecordingReader.resolve i.baseToken) now w.source with
  | (.error e, source) => (.error e, { w with source := source })
  | (.ok metadata, source) =>
      match quote.poll (RecordingReader.predict endpoint baseToken) now w.destination with
      | (.error e, destination) => (.error e, ⟨source, destination⟩)
      | (.ok quote, destination) => (.ok (join i baseToken metadata quote), ⟨source, destination⟩)

def poll (now : Nat) (endpoint : Endpoint) :
    OrderTask → Readers → Except OrderError OrderTask × Readers
  | idle i, w =>
      match i.check w.source.reader.family w.destination.reader.family with
      | .error e => (.error e, w)
      | .ok baseToken => read now endpoint i baseToken .idle .idle w
  | reading i baseToken metadata quote, w => read now endpoint i baseToken metadata quote w
  | finished o, w => (.ok (finished o), w)

end OrderTask

/-! ## Several orders -/

/-- Polls the tasks one after the other, up to the first that fails. -/
def pollAll (now : Nat) (endpoint : Endpoint) :
    List OrderTask → Readers → Except OrderError (List OrderTask) × Readers
  | [], w => (.ok [], w)
  | task :: rest, w =>
      match task.poll now endpoint w with
      | (.error e, w) => (.error e, w)
      | (.ok task, w) =>
          let (rest, w) := pollAll now endpoint rest w
          (rest.map (task :: ·), w)

/-- Polls the tasks at these times until all are finished. There is no result if some of them are
still waiting then. -/
def await (endpoint : Endpoint) :
    List Nat → List OrderTask → Readers → Option (Except OrderError (List Order)) × Readers
  | [], tasks, w => ((tasks.mapM OrderTask.order?).map .ok, w)
  | now :: later, tasks, w =>
      match tasks.mapM OrderTask.order? with
      | some orders => (some (.ok orders), w)
      | none =>
          match pollAll now endpoint tasks w with
          | (.error e, w) => (some (.error e), w)
          | (.ok tasks, w) => await endpoint later tasks w

/-- The times at which tasks are woken: at the start, and whenever an answer comes. -/
def Readers.wakeTimes (w : Readers) (intents : List AddressedIntent) : List Nat :=
  0 :: (intents.map fun i => w.source.reader.delay i.baseToken).mergeSort

/-- The orders of a list of intents, and the readers afterwards. -/
def Readers.buildOrders (w : Readers) (endpoint : Endpoint) (intents : List AddressedIntent) :
    Option (Except OrderError (List Order)) × Readers :=
  await endpoint (w.wakeTimes intents) (intents.map .idle) w

/-- The batch that a request asks for, and the readers afterwards. -/
def Readers.compose (w : Readers) (r : BatchRequest) :
    Option (Except OrderError (Option Instruction)) × Readers :=
  match r.complete? with
  | none => (some (.ok none), w)
  | some c =>
      match c.plan with
      | .error e => (some (.error e), w)
      | .ok (endpoint, intents) =>
          let (orders?, w) := w.buildOrders endpoint intents
          (orders?.map fun orders => orders.map fun os => some (.batch (os.map .order)), w)

end TokenBridge.Simulation
