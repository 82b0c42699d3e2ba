/-
The slave back end of the I2C test, `i2c_slave_callback_example`.

The driver calls it once for each event on the bus.  Two counters live between
the calls: the one for bytes sent is advanced before the byte it numbers, the
one for bytes received behind it, and a transaction that ends in a repeated
start leaves them as they are.
-/

import AmebaTests.Bus.HexDump
import Mathlib.Data.List.Basic

namespace AmebaTests.I2c

open Bus

inductive SlaveEvent
  | readRequested
  | readProcessed
  | writeRequested
  | writeReceived
  | stop
  deriving DecidableEq, Repr

structure Slave where
  recvIndex : Int
  sendIndex : Int
  deriving DecidableEq, Repr

/-- What one call leaves: the counters, `*data`, the messages and the result. -/
structure Called where
  slave : Slave
  data : UInt8
  printed : List String
  ret : Int

/-- An `int` of the kernel. -/
def int32 (value : Int) : Int :=
  Int.bmod value (2 ^ 32)

def hexPair (byte : UInt8) : String :=
  String.ofList [upperHexDigit (byte.toNat / 16), upperHexDigit (byte.toNat % 16)]

/-- The message for one byte, with the counter as it stands when it is printed. -/
def byteMessage (data : UInt8) (index : Int) : String :=
  if Int.tmod index 16 = 15 then
    hexPair data ++ "        | total: " ++ toString (int32 (index + 1)) ++ " bytes.\n"
  else hexPair data ++ " "

def whenVerbose (verbose : Int) (message : String) : List String :=
  if verbose ≠ 0 then [message] else []

def i2cSlaveCallbackExample (verbose : Int) (slave : Slave) (data : UInt8) : SlaveEvent → Called
  | .readRequested =>
      { slave := { slave with sendIndex := 0 }
        data := 0
        printed := whenVerbose verbose ("Slave give data to master:\n" ++ (hexPair 0 ++ " "))
        ret := 0 }
  | .readProcessed =>
      let sendIndex := int32 (slave.sendIndex + 1)
      let data := UInt8.ofInt sendIndex
      { slave := { slave with sendIndex := sendIndex }
        data := data
        printed := whenVerbose verbose (byteMessage data sendIndex)
        ret := 0 }
  | .writeRequested =>
      { slave := { slave with recvIndex := 0 }
        data := data
        printed := whenVerbose verbose "Slave received master data:\n"
        ret := 0 }
  | .writeReceived =>
      { slave := { slave with recvIndex := int32 (slave.recvIndex + 1) }
        data := data
        printed := whenVerbose verbose (byteMessage data slave.recvIndex)
        ret := 0 }
  | .stop =>
      { slave := { recvIndex := 0, sendIndex := 0 }
        data := data
        printed := []
        ret := 0 }

/-- An event, with the contents of `*data` at the call. -/
structure Call where
  event : SlaveEvent
  data : UInt8

def serve (verbose : Int) : Slave → List Call → List Called
  | _, [] => []
  | slave, call :: rest =>
      let called := i2cSlaveCallbackExample verbose slave call.data call.event
      called :: serve verbose called.slave rest

/-- The counters behind a list of calls. -/
def after (verbose : Int) : Slave → List Call → Slave
  | slave, [] => slave
  | slave, call :: rest =>
      after verbose (i2cSlaveCallbackExample verbose slave call.data call.event).slave rest

/-! ### Transactions -/

/-- A transaction on the bus.  The bytes of a read are what `*data` happens to
hold at each call; those of a write are what the master sends. -/
inductive Transaction
  | read (stale : UInt8) (others : List UInt8)
  | write (stale : UInt8) (bytes : List UInt8)

def Transaction.calls : Transaction → List Call
  | .read stale others => ⟨.readRequested, stale⟩ :: others.map (Call.mk .readProcessed)
  | .write stale bytes => ⟨.writeRequested, stale⟩ :: bytes.map (Call.mk .writeReceived)

/-- The bytes that go over the bus; a request to read supplies the first one. -/
def Transaction.size : Transaction → Nat
  | .read _ others => others.length + 1
  | .write _ bytes => bytes.length

/-- A transaction, and the STOP behind it unless a repeated start follows. -/
structure Segment where
  transaction : Transaction
  stopped : Option UInt8

def Segment.calls (segment : Segment) : List Call :=
  segment.transaction.calls ++ segment.stopped.toList.map (Call.mk .stop)

def sessionCalls (session : List Segment) : List Call :=
  session.flatMap Segment.calls

/-! ### Serving a list of calls -/

theorem length_serve (verbose : Int) (slave : Slave) (calls : List Call) :
    (serve verbose slave calls).length = calls.length := by
  induction calls generalizing slave with
  | nil => rfl
  | cons call rest ih =>
      rw [serve, List.length_cons, List.length_cons, ih]

theorem serve_append (verbose : Int) (slave : Slave) (first second : List Call) :
    serve verbose slave (first ++ second) =
      serve verbose slave first ++ serve verbose (after verbose slave first) second := by
  induction first generalizing slave with
  | nil => rfl
  | cons call rest ih =>
      rw [List.cons_append, serve, serve, after, List.cons_append, ih]

theorem serve_piece (verbose : Int) (slave : Slave) (before calls later : List Call) :
    ((serve verbose slave (before ++ (calls ++ later))).drop before.length).take calls.length =
      serve verbose (after verbose slave before) calls := by
  have skipped := length_serve verbose slave before
  have taken := length_serve verbose (after verbose slave before) calls
  rw [serve_append, serve_append, ← skipped, List.drop_left, ← taken, List.take_left]

/-! ### One transaction -/

/-- The cell of byte number `m` of a transaction, counted from 1. -/
def dumpCell (byte : UInt8) (m : Nat) : String :=
  if m % 16 = 0 then hexPair byte ++ "        | total: " ++ toString m ++ " bytes.\n"
  else hexPair byte ++ " "

/-- The cells of the bytes, the first of which is byte number `m + 1`. -/
def dumpFrom : Nat → List UInt8 → String
  | _, [] => ""
  | m, byte :: rest => dumpCell byte (m + 1) ++ dumpFrom (m + 1) rest

/-- The loop of `transfer_buf` that fills the bytes the master sends. -/
def fillTx (len : Nat) (tx : List UInt8) : List UInt8 :=
  (List.range len).foldl (fun filled i => filled.set i (UInt8.ofNat i)) tx

def printedText (outcomes : List Called) : String :=
  String.join (outcomes.flatMap Called.printed)

theorem int32_of_lt {index : Nat} (small : index < 2 ^ 31) : int32 (index : Int) = index := by
  unfold int32
  apply Int.bmod_eq_of_le
  · omega
  · omega

theorem ofInt_eq_ofNat (index : Nat) : UInt8.ofInt (index : Int) = UInt8.ofNat index := by
  have remainder : ((index : Int) % 2 ^ 8).toNat = index % 2 ^ 8 := by omega
  rw [UInt8.ofInt, remainder]
  exact UInt8.ofNat_mod_size

theorem byteMessage_eq_dumpCell {index : Nat} (small : index + 1 < 2 ^ 31) (data : UInt8) :
    byteMessage data (index : Int) = dumpCell data (index + 1) := by
  have remainder : Int.tmod (index : Int) 16 = ((index % 16 : Nat) : Int) := rfl
  have total : int32 ((index : Int) + 1) = ((index + 1 : Nat) : Int) := int32_of_lt small
  have marked : Int.tmod (index : Int) 16 = 15 ↔ (index + 1) % 16 = 0 := by
    rw [remainder]
    omega
  unfold byteMessage dumpCell
  by_cases last : (index + 1) % 16 = 0
  · rw [if_pos (marked.mpr last), if_pos last, total]
    rfl
  · rw [if_neg (fun mark => last (marked.mp mark)), if_neg last]

theorem printedText_cons (called : Called) (rest : List Called) :
    printedText (called :: rest) = String.join called.printed ++ printedText rest := by
  rw [printedText, List.flatMap_cons, String.join_append]
  rfl

theorem join_whenVerbose {verbose : Int} (on : verbose ≠ 0) (message : String) :
    String.join (whenVerbose verbose message) = message := by
  rw [whenVerbose, if_pos on]
  exact String.empty_append

/-- The bytes a read supplies behind the first one. -/
theorem serve_readProcessed (verbose : Int) {sent : Nat} (slave : Slave)
    (counter : slave.sendIndex = sent) (others : List UInt8)
    (small : sent + others.length + 1 < 2 ^ 31) :
    (serve verbose slave (others.map (Call.mk .readProcessed))).map Called.data =
        (List.range' (sent + 1) others.length).map UInt8.ofNat ∧
      (verbose ≠ 0 →
        printedText (serve verbose slave (others.map (Call.mk .readProcessed))) =
          dumpFrom (sent + 1) ((List.range' (sent + 1) others.length).map UInt8.ofNat)) := by
  induction others generalizing slave sent with
  | nil => exact ⟨rfl, fun _on => rfl⟩
  | cons stale others ih =>
      rw [List.length_cons] at small
      have next : int32 (slave.sendIndex + 1) = ((sent + 1 : Nat) : Int) := by
        have below : sent + 1 < 2 ^ 31 := by omega
        rw [counter]
        exact int32_of_lt below
      have supplied : UInt8.ofInt ((sent + 1 : Nat) : Int) = UInt8.ofNat (sent + 1) :=
        ofInt_eq_ofNat (sent + 1)
      obtain ⟨data, text⟩ := ih
        (i2cSlaveCallbackExample verbose slave stale .readProcessed).slave next (by omega)
      rw [List.map_cons, serve, List.length_cons, List.range'_succ, List.map_cons]
      constructor
      · rw [List.map_cons, data]
        change UInt8.ofInt (int32 (slave.sendIndex + 1)) :: _ = _
        rw [next, supplied]
      · intro on
        rw [printedText_cons, text on]
        change String.join (whenVerbose verbose (byteMessage
          (UInt8.ofInt (int32 (slave.sendIndex + 1))) (int32 (slave.sendIndex + 1)))) ++ _ = _
        rw [join_whenVerbose on, next, supplied, byteMessage_eq_dumpCell (by omega)]
        rfl

theorem serve_writeReceived {verbose : Int} (on : verbose ≠ 0) {received : Nat} (slave : Slave)
    (counter : slave.recvIndex = received) (bytes : List UInt8)
    (small : received + bytes.length < 2 ^ 31) :
    printedText (serve verbose slave (bytes.map (Call.mk .writeReceived))) =
      dumpFrom received bytes := by
  induction bytes generalizing slave received with
  | nil => rfl
  | cons byte bytes ih =>
      rw [List.length_cons] at small
      have below : received + 1 < 2 ^ 31 := by omega
      have next : int32 (slave.recvIndex + 1) = ((received + 1 : Nat) : Int) := by
        rw [counter]
        exact int32_of_lt below
      have text := ih (i2cSlaveCallbackExample verbose slave byte .writeReceived).slave next
        (by omega)
      rw [List.map_cons, serve, printedText_cons, text]
      change String.join (whenVerbose verbose (byteMessage byte slave.recvIndex)) ++ _ = _
      rw [join_whenVerbose on, counter, byteMessage_eq_dumpCell below]
      rfl

theorem fillTx_succ (len : Nat) (tx : List UInt8) :
    fillTx (len + 1) tx = (fillTx len tx).set len (UInt8.ofNat len) := by
  rw [fillTx, List.range_succ, List.foldl_append]
  rfl

/-- Whatever `malloc` returned, the master fills it with the ramp. -/
theorem fillTx_append (len : Nat) (filled rest : List UInt8) (size : filled.length = len) :
    fillTx len (filled ++ rest) = (List.range len).map UInt8.ofNat ++ rest := by
  induction len generalizing filled rest with
  | zero =>
      rw [List.length_eq_zero_iff.mp size]
      rfl
  | succ len ih =>
      obtain ⟨front, last, rfl⟩ : ∃ front last, filled = front ++ [last] :=
        ⟨filled.dropLast, filled.getLast (by intro empty; rw [empty] at size; cases size),
          (List.dropLast_append_getLast _).symm⟩
      rw [List.length_append, List.length_singleton, Nat.add_right_cancel_iff] at size
      have ramp : ((List.range len).map UInt8.ofNat).length = len := by
        rw [List.length_map, List.length_range]
      rw [fillTx_succ, List.append_assoc, ih front ([last] ++ rest) size,
        List.set_append_right _ _ (Nat.le_of_eq ramp), ramp, Nat.sub_self, List.range_succ,
        List.map_append, List.append_assoc]
      rfl

/-! ### Every transaction of a session -/

/-- How a transaction is served that nothing came before.  A read supplies the
bytes `k mod 256`, which the master fills into any memory of that length, and
with `verbose` set the bytes are printed with a mark behind every sixteenth. -/
def FromScratch (verbose : Int) (outcomes : List Called) : Transaction → Prop
  | .read _ others =>
      let supplied := outcomes.map Called.data
      (∀ k < others.length + 1, supplied[k]? = some (UInt8.ofNat (k % 256))) ∧
        (∀ tx : List UInt8, tx.length = others.length + 1 →
          supplied = fillTx (others.length + 1) tx) ∧
        (verbose ≠ 0 →
          printedText outcomes = "Slave give data to master:\n" ++ dumpFrom 0 supplied)
  | .write _ bytes =>
      verbose ≠ 0 →
        printedText outcomes = "Slave received master data:\n" ++ dumpFrom 0 bytes

theorem read_fromScratch (verbose : Int) (slave : Slave) (stale : UInt8) (others : List UInt8)
    (small : (Transaction.read stale others).size < 2 ^ 31) :
    FromScratch verbose (serve verbose slave (Transaction.read stale others).calls)
      (.read stale others) := by
  have below : 0 + others.length + 1 < 2 ^ 31 := by
    rw [Nat.zero_add]
    exact small
  obtain ⟨data, text⟩ := serve_readProcessed verbose
    (i2cSlaveCallbackExample verbose slave stale .readRequested).slave rfl others below
  have supplied : (serve verbose slave (Transaction.read stale others).calls).map Called.data =
      (List.range (others.length + 1)).map UInt8.ofNat := by
    rw [Transaction.calls, serve, List.map_cons, data, List.range_eq_range', List.range'_succ,
      List.map_cons]
    rfl
  refine ⟨?_, ?_, ?_⟩
  · intro k inside
    have byte : UInt8.ofNat (k % 256) = UInt8.ofNat k := UInt8.ofNat_mod_size
    rw [supplied, byte, List.getElem?_map, List.getElem?_range inside]
    rfl
  · intro tx size
    have filled := fillTx_append _ tx [] size
    rw [List.append_nil, List.append_nil] at filled
    rw [supplied, filled]
  · intro on
    rw [supplied, Transaction.calls, serve, printedText_cons, text on, List.range_eq_range',
      List.range'_succ, List.map_cons]
    change String.join (whenVerbose verbose _) ++ _ = _
    rw [join_whenVerbose on, String.append_assoc]
    rfl

theorem write_fromScratch (verbose : Int) (slave : Slave) (stale : UInt8) (bytes : List UInt8)
    (small : (Transaction.write stale bytes).size < 2 ^ 31) :
    FromScratch verbose (serve verbose slave (Transaction.write stale bytes).calls)
      (.write stale bytes) := by
  intro on
  have below : 0 + bytes.length < 2 ^ 31 := by
    rw [Nat.zero_add]
    exact small
  rw [Transaction.calls, serve, printedText_cons, serve_writeReceived on _ rfl bytes below]
  change String.join (whenVerbose verbose _) ++ _ = _
  rw [join_whenVerbose on]

/-- In every session, with any mixture of reads and writes, stops and repeated
starts, and from any values of the counters, each transaction is served as if
it were the first. -/
theorem session_fromScratch (verbose : Int) (slave : Slave) (before later : List Segment)
    (segment : Segment) (small : segment.transaction.size < 2 ^ 31) :
    FromScratch verbose
      (((serve verbose slave (sessionCalls (before ++ segment :: later))).drop
        (sessionCalls before).length).take segment.transaction.calls.length)
      segment.transaction := by
  have calls : sessionCalls (before ++ segment :: later) =
      sessionCalls before ++ (segment.transaction.calls ++
        (segment.stopped.toList.map (Call.mk .stop) ++ sessionCalls later)) := by
    rw [sessionCalls, List.flatMap_append, List.flatMap_cons, Segment.calls, List.append_assoc]
    rfl
  rw [calls, serve_piece]
  cases segment with
  | mk transaction stopped =>
      cases transaction with
      | read stale others => exact read_fromScratch verbose _ stale others small
      | write stale bytes => exact write_fromScratch verbose _ stale bytes small

/-- A read of three bytes, a repeated start, and a write of two. -/
theorem session_fromScratch_repeated_start :
    FromScratch 1
      (((serve 1 ⟨0, 0⟩ (sessionCalls
        ([⟨.read 7 [7, 7], none⟩] ++ ⟨.write 0 [65, 66], some 0⟩ :: []))).drop
          (sessionCalls [⟨.read 7 [7, 7], none⟩]).length).take
            (Transaction.write 0 [65, 66]).calls.length)
      (.write 0 [65, 66]) :=
  session_fromScratch 1 ⟨0, 0⟩ [⟨.read 7 [7, 7], none⟩] [] ⟨.write 0 [65, 66], some 0⟩ (by decide)

end AmebaTests.I2c
