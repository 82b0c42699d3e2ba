/-
The SPI test from its parsed options on.

A `Host` is what the spidev driver, the file system and the allocator answer.
SPI_IOC_MESSAGE delivers its bytes into the receive buffer only if `rx_buf` is
not zero, and freshly allocated memory has any contents.  A run is the list of
everything the program left behind, with the lines of its floating point
statistics kept as the counts they are computed from.
-/

import AmebaTests.Foundation.Report
import AmebaTests.Bus.HexDump
import AmebaTests.Bus.Unescape

namespace AmebaTests.Spi

open Foundation Bus

def transferFullDuplex : UInt8 := 0
def transferTxOnly : UInt8 := 1
def transferRxOnly : UInt8 := 2

def defaultTx : List UInt8 :=
  [0xFF, 0xFF, 0xFF, 0xFF, 0xFF, 0xFF,
   0x40, 0x00, 0x00, 0x00, 0x00, 0x95,
   0xFF, 0xFF, 0xFF, 0xFF, 0xFF, 0xFF,
   0xFF, 0xFF, 0xFF, 0xFF, 0xFF, 0xFF,
   0xFF, 0xFF, 0xFF, 0xFF, 0xFF, 0xFF,
   0xF0, 0x0D]

def defaultRx : List UInt8 :=
  List.replicate defaultTx.length 0

structure Options where
  spiRole : String := "MASTER"
  device : String := "/dev/spidev0.0"
  deviceSlave : String := "/dev/spidev1.0"
  transferType : UInt8 := transferFullDuplex
  outputFile : Option String := none
  verbose : Bool := false
  inputTx : Option (List UInt8) := none
  inputFile : Option String := none
  transferSize : Int := 0
  interval : Int := 5

inductive Setting
  | wrMode
  | rdMode
  | wrBitsPerWord
  | rdBitsPerWord
  | wrMaxSpeedHz
  | rdMaxSpeedHz
  deriving DecidableEq, Repr

structure Host where
  openDevice : Int
  setting : Setting → Int
  mode : Nat
  bits : Nat
  speed : Nat
  spiMessage : Int
  delivered : List UInt8
  txMemory : Option (Nat → UInt8)
  rxMemory : Option (Nat → UInt8)
  uninitialisedCh : UInt8
  behindString : List UInt8
  stat : Int
  contents : String → List UInt8
  openInput : Int
  readInput : Nat → Int
  openOutput : Int
  writeOutput : Nat → Int
  lastStat : Int
  current : Int

inductive Line
  | stdout (text : String)
  | stderr (text : String)
  | message (tx : Option (List UInt8)) (receives : Bool) (len : Nat)
  | file (name : String) (contents : List UInt8)
  | rate (written read : Nat)
  | total (written read : Nat)
  deriving DecidableEq

/-- `abort` is `pabort`, with the message it prints. -/
inductive Stop
  | abort (message : String)
  | exit (code : Int)
  | undefined
  deriving DecidableEq

abbrev Program (Value : Type) := Report Line Stop Value

open Report (say halt check whenever)

def allocate (memory : Nat → UInt8) (size : Nat) : List UInt8 :=
  (List.range size).map memory

def malloc (memory : Option (Nat → UInt8)) (size : Nat) (message : String) :
    Program (List UInt8) :=
  match memory with
  | none => halt (.abort message)
  | some memory => pure (allocate memory size)

/-- What the receive buffer holds after the message. -/
def received (options : Options) (host : Host) (rx : List UInt8) : List UInt8 :=
  if options.transferType = transferTxOnly then rx else overlay host.delivered rx

def dumpVerbose (options : Options) (bytes : List UInt8) (label : String) : Program Unit := do
  say (.stdout ("SPI-" ++ options.spiRole ++ "\n"))
  say (.stdout (hexDump bytes 32 label))

def saveOutput (options : Options) (host : Host) (bytes : List UInt8) : Program Unit :=
  match options.outputFile with
  | none => pure ()
  | some name => whenever (options.transferType ≠ transferTxOnly) do
      check (host.openOutput < 0) (.abort "could not open output file")
      say (.file name bytes)
      check (host.writeOutput bytes.length ≠ bytes.length)
        (.abort "not all bytes written to output file")

/-- `transfer`, returning the receive buffer as the message leaves it. -/
def transfer (options : Options) (host : Host) (tx rx : List UInt8) (len : Nat) :
    Program (List UInt8) := do
  say (.message (if options.transferType = transferRxOnly then none else some (tx.take len))
    (options.transferType ≠ transferTxOnly) len)
  check (host.spiMessage < 1) (.abort "can't send spi message")
  let rx := received options host rx
  whenever (options.verbose ∧ options.transferType ≠ transferRxOnly)
    (dumpVerbose options (tx.take len) "TX")
  saveOutput options host (rx.take len)
  whenever (options.verbose ∧ options.transferType ≠ transferTxOnly)
    (dumpVerbose options (rx.take len) "RX")
  pure rx

/-- The comparison each path makes in its own words for success. -/
def compareBuffers (tx rx : List UInt8) (size : Nat) (success : String) : Program Unit :=
  if tx.take size ≠ rx.take size then do
    say (.stderr "transfer error !\n")
    say (.stdout (hexDump (tx.take size) 32 "TX"))
    say (.stdout (hexDump (rx.take size) 32 "RX"))
    halt (.exit 1)
  else say (.stdout success)

def transferEscapedString (options : Options) (host : Host) (str : List UInt8) :
    Program Unit := do
  let tx ← malloc host.txMemory str.length "can't allocate tx buffer"
  let rx ← malloc host.rxMemory str.length "can't allocate rx buffer"
  match unescape host.uninitialisedCh (str ++ 0 :: host.behindString) with
  | .malformed => halt (.abort "malformed input string")
  | .overrun _ => halt .undefined
  | .done written =>
      let tx := overlay written tx
      let size := written.length
      let rx ← transfer options host tx rx size
      compareBuffers tx rx size (toString size ++ " bytes transfer success !\n")

def transferFile (options : Options) (host : Host) (filename : String) : Program Unit := do
  check (host.stat = -1) (.abort "can't stat input file")
  check (host.openInput < 0) (.abort "can't open input file")
  let size := (host.contents filename).length
  let tx ← malloc host.txMemory size "can't allocate tx buffer"
  let rx ← malloc host.rxMemory size "can't allocate rx buffer"
  check (host.readInput size ≠ size) (.abort "failed to read input file")
  let tx := overlay (host.contents filename) tx
  let rx ← transfer options host tx rx size
  compareBuffers tx rx size (toString size ++ " bytes transfier success !\n")

def countingBytes (len : Nat) : List UInt8 :=
  (List.range len).map UInt8.ofNat

def comparesBuf (options : Options) : Prop :=
  options.transferType = transferFullDuplex ∨ options.transferType = transferRxOnly

instance (options : Options) : Decidable (comparesBuf options) :=
  inferInstanceAs (Decidable (_ ∨ _))

/-- A negative length is an allocation larger than any memory. -/
def transferBuf (options : Options) (host : Host) (length : Int) : Program Unit := do
  check (length < 0) (.abort "can't allocate tx buffer")
  let len := length.toNat
  let tx ← malloc host.txMemory len "can't allocate tx buffer"
  let tx := overlay (countingBytes len) tx
  let rx ← malloc host.rxMemory len "can't allocate rx buffer"
  let rx ← transfer options host tx rx len
  whenever (comparesBuf options)
    (compareBuffers tx rx len
      ("SPI-" ++ options.spiRole ++ " " ++ toString len ++ " bytes transfer success !\n"))

def transferSized (options : Options) (host : Host) (length : Int) : Program Unit := do
  transferBuf options host length
  whenever (host.current - host.lastStat > options.interval)
    (say (.rate length.toNat length.toNat))
  say (.total length.toNat length.toNat)

def transferDefault (options : Options) (host : Host) : Program Unit := do
  let rx ← transfer options host defaultTx defaultRx defaultTx.length
  whenever (comparesBuf options)
    (compareBuffers defaultTx rx defaultTx.length
      ("SPI-" ++ options.spiRole ++ ": " ++ toString defaultTx.length ++
        " bytes transfer success !\n"))

def transferTypeName (transferType : UInt8) : String :=
  if transferType = 0 then "FULL DUPLEX"
  else if transferType = 1 then "TX_ONLY"
  else "RX_ONLY"

def roleDevice (options : Options) : Program Unit :=
  if options.spiRole = "MASTER" then
    say (.stdout ("SPI Master test with device " ++ options.device ++ "\n"))
  else if options.spiRole = "SLAVE" then
    say (.stdout ("SPI Slave test with device " ++ options.deviceSlave ++ "\n"))
  else do
    say (.stdout "-R --role must be MASTER or SLAVE\n")
    halt (.abort "invalid spi role")

def configure (options : Options) (host : Host) : Program Unit := do
  roleDevice options
  check (host.openDevice < 0) (.abort "can't open device")
  check (host.setting .wrMode = -1) (.abort "can't set spi mode")
  check (host.setting .rdMode = -1) (.abort "can't get spi mode")
  check (host.setting .wrBitsPerWord = -1) (.abort "can't set bits per word")
  check (host.setting .rdBitsPerWord = -1) (.abort "can't get bits per word")
  check (host.setting .wrMaxSpeedHz = -1) (.abort "can't set max speed hz")
  check (host.setting .rdMaxSpeedHz = -1) (.abort "can't get max speed hz")
  say (.stdout ("spi mode: 0x" ++ String.ofList (Nat.toDigits 16 host.mode) ++ "\n"))
  say (.stdout ("bits per word: " ++ toString host.bits ++ "\n"))
  say (.stdout ("max speed: " ++ toString host.speed ++ " Hz (" ++
    toString (host.speed / 1000) ++ " KHz)\n"))
  say (.stdout ("transfer_type: " ++ transferTypeName options.transferType ++ "\n"))
  check (options.inputTx.isSome ∧ options.inputFile.isSome)
    (.abort "only one of -p and --input may be selected")

def selectPath (options : Options) (host : Host) : Program Unit :=
  match options.inputTx, options.inputFile with
  | some str, _ => transferEscapedString options host str
  | none, some filename => transferFile options host filename
  | none, none =>
      if options.transferSize ≠ 0 then
        transferSized options host options.transferSize
      else transferDefault options host

def main (options : Options) (host : Host) : Program Int := do
  configure options host
  selectPath options host
  pure (host.setting .rdMaxSpeedHz)

end AmebaTests.Spi
