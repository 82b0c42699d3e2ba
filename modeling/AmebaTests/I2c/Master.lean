/-
The master side of the I2C test, from its parsed options on.

The length of a transfer is an `int` or the size of a file and stays as wide as
that in the dump, the output file and the counters; the message has a field of
16 bits for it.  No option sets `input_tx`, so the path for an escaped string is
never taken and left out.
-/

import AmebaTests.Foundation.Bytes
import AmebaTests.Foundation.Report
import AmebaTests.Bus.HexDump
import AmebaTests.I2c.Slave

namespace AmebaTests.I2c.Master

open Foundation Report Bus

inductive TransferType
  | unset
  | txOnly
  | rxOnly
  deriving DecidableEq, Repr

/-- `I2C_M_TEN`. -/
def tenBitFlag : BitVec 16 := 0x10

def defaultTx : List UInt8 :=
  [0xFF, 0xFF, 0xFF, 0xFF, 0xFF, 0xFF,
   0x40, 0x00, 0x00, 0x00, 0x00, 0x95,
   0xFF, 0xFF, 0xFF, 0xFF, 0xFF, 0xFF,
   0xFF, 0xFF, 0xFF, 0xFF, 0xFF, 0xFF,
   0xFF, 0xFF, 0xFF, 0xFF, 0xFF, 0xFF,
   0xF0, 0x0D]

def defaultRx : List UInt8 :=
  List.replicate defaultTx.length 0

structure Options where
  device : String := "/dev/i2c-0"
  address : BitVec 16 := 0x23
  transferType : TransferType := .unset
  inputFile : Option String := none
  outputFile : Option String := none
  verbose : Bool := false
  transferSize : Int := 0
  tenBitMode : Bool := false

/-- `struct i2c_msg` without its buffer. -/
structure Msg where
  addr : BitVec 16
  flags : BitVec 16
  len : BitVec 16
  deriving DecidableEq

/-- What the driver, the file system and the allocator answer.  `delivered` is what
the slave sends if it is read from, one byte after the other. -/
structure Host where
  openDevice : Int
  ioctl : Msg → Int
  delivered : Nat → UInt8
  txMemory : Option (Nat → UInt8)
  rxMemory : Option (Nat → UInt8)
  stat : Int
  contents : String → List UInt8
  openInput : Int
  readInput : Nat → Int
  openOutput : Int
  writeOutput : Nat → Int

/-- What a run leaves: its output, the message with the bytes it moves over the bus
if the driver accepts it, the dumps, the output file, and what `_write_count` and
`_read_count` are advanced by. -/
inductive Line
  | stdout (text : String)
  | message (msg : Msg) (moved : List UInt8)
  | dump (label : String) (bytes : List UInt8)
  | file (name : String) (bytes : List UInt8)
  | counted (written read : Nat)
  deriving DecidableEq

/-- The text of a line that is printed. -/
def Line.text : Line → Option String
  | .stdout text => some text
  | .dump label bytes => some (hexDump bytes 32 label)
  | _ => none

/-- `pabort`, with the message it prints. -/
structure Abort where
  message : String
  deriving DecidableEq

abbrev Program := Report Line Abort

def messageOf (options : Options) (len : Nat) : Msg where
  addr := options.address
  flags := (if options.transferType = .rxOnly then 1 else 0) |||
    (if options.tenBitMode then tenBitFlag else 0)
  len := BitVec.ofNat 16 len

/-- The bytes on the bus: as many as the message says, out of the transmit buffer or
from the slave. -/
def movedBytes (options : Options) (host : Host) (tx : List UInt8) (len : Nat) : List UInt8 :=
  let count := (messageOf options len).len.toNat
  if options.transferType = .rxOnly then (List.range count).map host.delivered else tx.take count

def saveOutput (options : Options) (host : Host) (rx : List UInt8) (len : Nat) : Program Unit :=
  match options.outputFile with
  | none => pure ()
  | some name => whenever (options.transferType ≠ .txOnly) do
      check (host.openOutput < 0) ⟨"could not open output file"⟩
      say (.file name (rx.take len))
      check (host.writeOutput len ≠ len) ⟨"not all bytes written to output file"⟩

def transfer (options : Options) (host : Host) (tx rx : List UInt8) (len : Nat) :
    Program Unit := do
  let msg := messageOf options len
  let moved := movedBytes options host tx len
  say (.message msg moved)
  check (host.ioctl msg < 1) ⟨"Call i2c transfer fail."⟩
  let rx := if options.transferType = .rxOnly then overlay moved rx else rx
  whenever (options.verbose ∧ options.transferType ≠ .rxOnly) do
    say (.stdout "I2C Master TX content:\n")
    say (.dump "TX" (tx.take len))
  saveOutput options host rx len
  whenever (options.verbose ∧ options.transferType ≠ .txOnly) do
    say (.stdout "I2C Master RX content: \n")
    say (.dump "RX" (rx.take len))

def allocate (memory : Nat → UInt8) (size : Nat) : List UInt8 :=
  (List.range size).map memory

def malloc (memory : Option (Nat → UInt8)) (size : Nat) (message : String) :
    Program (List UInt8) :=
  match memory with
  | none => halt ⟨message⟩
  | some memory => pure (allocate memory size)

def transferFile (options : Options) (host : Host) (filename : String) : Program Unit := do
  check (host.stat = -1) ⟨"can't stat input file"⟩
  check (host.openInput < 0) ⟨"can't open input file"⟩
  let size := (host.contents filename).length
  let tx ← malloc host.txMemory size "can't allocate tx buffer"
  let rx ← malloc host.rxMemory size "can't allocate rx buffer"
  check (host.readInput size ≠ size) ⟨"failed to read input file"⟩
  let tx := overlay (host.contents filename) tx
  transfer options host tx rx size

/-- A negative length is an allocation larger than any memory. -/
def transferBuf (options : Options) (host : Host) (length : Int) : Program Unit := do
  check (length < 0) ⟨"can't allocate tx buffer"⟩
  let len := length.toNat
  let tx ← malloc host.txMemory len "can't allocate tx buffer"
  let tx := fillTx len tx
  let rx ← malloc host.rxMemory len "can't allocate rx buffer"
  transfer options host tx rx len
  say (.counted len len)

def selectPath (options : Options) (host : Host) : Program Unit :=
  match options.inputFile with
  | some filename => transferFile options host filename
  | none =>
      if options.transferSize ≠ 0 then transferBuf options host options.transferSize
      else transfer options host defaultTx defaultRx defaultTx.length

def hexAddress (address : BitVec 16) : String :=
  String.ofList (Nat.toDigits 16 address.toNat)

def main (options : Options) (host : Host) : Program Int := do
  check (options.transferType = .unset) ⟨"Must assign TX or RX mode by using option -W or -R.\n"⟩
  say (.stdout ("Start I2C-Master " ++ (if options.transferType = .rxOnly then "RX" else "TX") ++
    " TEST on device " ++ options.device ++ " to slave address 0x" ++
    hexAddress options.address ++ ".\n"))
  whenever (options.verbose = false) (say (.stdout "Use -v to show TRX transfer buf.\n"))
  whenever (host.openDevice = -1) do
    say (.stdout ("open " ++ options.device ++ " test error\n"))
    halt ⟨"Can't open device"⟩
  selectPath options host
  pure 0

/-! ### What the lines of a run are about -/

/-- A line of a transfer of `len` bytes, given the bytes that are moved. -/
def Belongs (options : Options) (len : Nat) (moved : List UInt8) : Line → Prop
  | .stdout _ => True
  | .message msg bytes => msg = messageOf options len ∧ bytes = moved
  | .dump _ bytes => len < 2 ^ 16 → bytes = moved
  | .file _ bytes => len < 2 ^ 16 → bytes = moved
  | .counted written read => len < 2 ^ 16 → written = moved.length ∧ read = moved.length

theorem messageOf_len {options : Options} {len : Nat} (small : len < 2 ^ 16) :
    (messageOf options len).len.toNat = len := by
  rw [messageOf, BitVec.toNat_ofNat]
  exact Nat.mod_eq_of_lt small

section Transfer

variable {options : Options} {host : Host} {tx rx : List UInt8} {len : Nat}

theorem movedBytes_tx (sent : options.transferType ≠ .rxOnly) (small : len < 2 ^ 16) :
    movedBytes options host tx len = tx.take len := by
  rw [movedBytes, messageOf_len small, if_neg sent]

theorem length_movedBytes (sized : tx.length = len) (small : len < 2 ^ 16) :
    (movedBytes options host tx len).length = len := by
  rw [movedBytes, messageOf_len small]
  split
  · rw [List.length_map, List.length_range]
  · rw [List.length_take, sized, Nat.min_self]

theorem take_overlay_moved (sized : tx.length = len) (small : len < 2 ^ 16) (rx : List UInt8) :
    (overlay (movedBytes options host tx len) rx).take len = movedBytes options host tx len := by
  have size := @length_movedBytes options host tx len sized small
  rw [overlay, List.take_append_of_le_length (Nat.le_of_eq size.symm),
    List.take_of_length_le (Nat.le_of_eq size)]

theorem saveOutput_belongs {bytes : List UInt8}
    (received : options.transferType ≠ .txOnly → len < 2 ^ 16 → rx.take len = bytes) :
    EveryLine (Belongs options len bytes) (saveOutput options host rx len) := by
  unfold saveOutput
  split
  · exact EveryLine.pure ()
  · refine EveryLine.whenever ?_
    intro wanted
    refine EveryLine.bind (EveryLine.check _ _) ?_
    intro _opened _
    refine EveryLine.bind (EveryLine.say (received wanted)) ?_
    intro _written _
    exact EveryLine.check _ _

/-- Every line of `transfer` is about the bytes on the bus, as long as their number
fits the message. -/
theorem transfer_belongs (assigned : options.transferType ≠ .unset) (sized : tx.length = len) :
    EveryLine (Belongs options len (movedBytes options host tx len))
      (transfer options host tx rx len) := by
  have received (wanted : options.transferType ≠ .txOnly) (small : len < 2 ^ 16) :
      (if options.transferType = .rxOnly then overlay (movedBytes options host tx len) rx
        else rx).take len = movedBytes options host tx len := by
    have rxOnly : options.transferType = .rxOnly := by
      cases direction : options.transferType with
      | unset => exact absurd direction assigned
      | txOnly => exact absurd direction wanted
      | rxOnly => rfl
    rw [if_pos rxOnly, take_overlay_moved sized small]
  unfold transfer
  refine EveryLine.bind (EveryLine.say ⟨rfl, rfl⟩) ?_
  intro _sent _
  refine EveryLine.bind (EveryLine.check _ _) ?_
  intro _accepted _
  refine EveryLine.bind ?_ ?_
  · refine EveryLine.whenever ?_
    intro wanted
    refine EveryLine.bind (EveryLine.say trivial) ?_
    intro _announced _
    exact EveryLine.say fun small => (movedBytes_tx wanted.2 small).symm
  · intro _dumped _
    refine EveryLine.bind (saveOutput_belongs received) ?_
    intro _saved _
    refine EveryLine.whenever ?_
    intro wanted
    refine EveryLine.bind (EveryLine.say trivial) ?_
    intro _announced _
    exact EveryLine.say (received wanted.2)

end Transfer

theorem malloc_returned {memory : Option (Nat → UInt8)} {size : Nat} {message : String}
    {bytes : List UInt8} (returned : (malloc memory size message).result = .ok bytes) :
    bytes.length = size := by
  cases memory with
  | none => cases returned
  | some memory =>
      cases returned
      rw [allocate, List.length_map, List.length_range]

theorem malloc_belongs {options : Options} {len : Nat} {moved : List UInt8}
    (memory : Option (Nat → UInt8)) (size : Nat) (message : String) :
    EveryLine (Belongs options len moved) (malloc memory size message) := by
  cases memory with
  | none => exact EveryLine.halt _
  | some memory => exact EveryLine.pure _

/-- A whole buffer that is written over. -/
theorem overlay_all {chunk memory : List UInt8} (size : memory.length = chunk.length) :
    overlay chunk memory = chunk := by
  rw [overlay, ← size, List.drop_length, List.append_nil]

def ramp (len : Nat) : List UInt8 :=
  (List.range len).map UInt8.ofNat

theorem length_ramp (len : Nat) : (ramp len).length = len := by
  rw [ramp, List.length_map, List.length_range]

theorem fillTx_eq_ramp {len : Nat} {tx : List UInt8} (size : tx.length = len) :
    fillTx len tx = ramp len := by
  have filled := fillTx_append len tx [] size
  rw [List.append_nil, List.append_nil] at filled
  exact filled

section Paths

variable {options : Options} {host : Host}

theorem transferFile_belongs (assigned : options.transferType ≠ .unset) (filename : String) :
    EveryLine (Belongs options (host.contents filename).length
        (movedBytes options host (host.contents filename) (host.contents filename).length))
      (transferFile options host filename) := by
  unfold transferFile
  refine EveryLine.bind (EveryLine.check _ _) ?_
  intro _found _
  refine EveryLine.bind (EveryLine.check _ _) ?_
  intro _opened _
  refine EveryLine.bind (malloc_belongs _ _ _) ?_
  intro tx allocated
  refine EveryLine.bind (malloc_belongs _ _ _) ?_
  intro rx _allocated
  refine EveryLine.bind (EveryLine.check _ _) ?_
  intro _read _
  rw [overlay_all (malloc_returned allocated)]
  exact transfer_belongs assigned rfl

theorem transferBuf_belongs (assigned : options.transferType ≠ .unset) (len : Nat) :
    EveryLine (Belongs options len (movedBytes options host (ramp len) len))
      (transferBuf options host len) := by
  unfold transferBuf
  refine EveryLine.bind (EveryLine.check _ _) ?_
  intro _possible _
  refine EveryLine.bind (malloc_belongs _ _ _) ?_
  intro tx allocated
  refine EveryLine.bind (malloc_belongs _ _ _) ?_
  intro rx _allocated
  rw [fillTx_eq_ramp (malloc_returned allocated), Int.toNat_natCast]
  refine EveryLine.bind (transfer_belongs assigned (length_ramp len)) ?_
  intro _transferred _
  refine EveryLine.say fun small => ?_
  rw [length_movedBytes (length_ramp len) small]
  exact ⟨rfl, rfl⟩

/-- The number of bytes a run is told to transfer: the size of the input file, or
else the size given with `-l`. -/
def Given (options : Options) (host : Host) (n : Nat) : Prop :=
  (∃ filename, options.inputFile = some filename ∧ (host.contents filename).length = n) ∨
    (options.inputFile = none ∧ options.transferSize = n)

theorem selectPath_belongs (assigned : options.transferType ≠ .unset) {n : Nat}
    (positive : 0 < n) (given : Given options host n) :
    ∃ moved, EveryLine (Belongs options n moved) (selectPath options host) := by
  unfold selectPath
  rcases given with ⟨filename, chosen, size⟩ | ⟨noFile, size⟩
  · rw [chosen, ← size]
    exact ⟨_, transferFile_belongs assigned filename⟩
  · have nonzero : options.transferSize ≠ 0 := by omega
    rw [noFile]
    dsimp only
    rw [if_pos nonzero, size]
    exact ⟨_, transferBuf_belongs assigned n⟩

theorem main_belongs {n : Nat} (positive : 0 < n) (given : Given options host n) :
    ∃ moved, EveryLine (Belongs options n moved) (main options host) := by
  by_cases assigned : options.transferType = .unset
  · refine ⟨[], ?_⟩
    rw [main, check, if_pos assigned]
    exact EveryLine.halt _
  · obtain ⟨moved, path⟩ := selectPath_belongs assigned positive given
    refine ⟨moved, ?_⟩
    unfold main
    refine EveryLine.bind (EveryLine.check _ _) ?_
    intro _assigned _
    refine EveryLine.bind (EveryLine.say trivial) ?_
    intro _announced _
    refine EveryLine.bind (EveryLine.whenever fun _ => EveryLine.say trivial) ?_
    intro _hinted _
    refine EveryLine.bind (EveryLine.whenever fun _ => ?_) ?_
    · exact EveryLine.bind (EveryLine.say trivial) fun _ _ => EveryLine.halt _
    · intro _opened _
      exact EveryLine.bind path fun _ _ => EveryLine.pure _

/-- A line that shows, saves or counts bytes does so for the bytes on the bus. -/
def Line.About (moved : List UInt8) : Line → Prop
  | .dump _ bytes => bytes = moved
  | .file _ bytes => bytes = moved
  | .counted written read => written = moved.length ∧ read = moved.length
  | _ => True

/-- The message has the length the run was told, and every line is about the bytes
it moves, exactly if that length fits into 16 bits. -/
theorem moves_as_many_iff {n : Nat} (positive : 0 < n) (given : Given options host n) {msg : Msg}
    {moved : List UInt8} (sent : .message msg moved ∈ (main options host).lines) :
    (msg.len.toNat = n ∧ ∀ line ∈ (main options host).lines, line.About moved) ↔ n < 2 ^ 16 := by
  obtain ⟨bytes, belongs⟩ := main_belongs positive given
  obtain ⟨message, same⟩ := belongs _ sent
  constructor
  · intro faithful
    rw [← faithful.1]
    exact msg.len.isLt
  · intro small
    refine ⟨by rw [message, messageOf_len small], ?_⟩
    intro line member
    have here := belongs line member
    rw [same]
    cases line with
    | stdout text => trivial
    | message other others => trivial
    | dump label shown => exact here small
    | file name saved => exact here small
    | counted written read => exact here small

end Paths

/-- A host on which everything works; like the kernel, its driver takes messages of
up to 8192 bytes. -/
def workingHost : Host where
  openDevice := 3
  ioctl := fun msg => if msg.len.toNat ≤ 8192 then 1 else -1
  delivered := fun _ => 0
  txMemory := some fun _ => 0
  rxMemory := some fun _ => 0
  stat := 0
  contents := fun _ => []
  openInput := 4
  readInput := fun size => size
  openOutput := 5
  writeOutput := fun size => size

/-- `-W -l n`. -/
def writes (n : Nat) : Options where
  transferType := .txOnly
  transferSize := n

theorem writes_sent {n : Nat} (positive : 0 < n) :
    .message (messageOf (writes n) n) (movedBytes (writes n) workingHost (ramp n) n) ∈
      (main (writes n) workingHost).lines := by
  have nonzero : (writes n).transferSize ≠ 0 := by
    change (n : Int) ≠ 0
    omega
  have possible : ¬ (writes n).transferSize < 0 := Int.not_lt.mpr (Int.natCast_nonneg n)
  have filled : fillTx n (allocate (fun _ => 0) n) = ramp n := by
    apply fillTx_eq_ramp
    rw [allocate, List.length_map, List.length_range]
  have quiet : (writes n).verbose = false := rfl
  have opened : ¬ workingHost.openDevice = -1 := by decide
  rw [main, check_bind (by exact nofun), say_bind, whenever, if_pos quiet, say_bind, whenever,
    if_neg opened, pure_bind]
  refine List.mem_cons_of_mem _ (List.mem_cons_of_mem _ (mem_bind_of_mem ?_ _))
  change _ ∈ (if (writes n).transferSize ≠ 0 then transferBuf (writes n) workingHost _
    else _ : Program Unit).lines
  rw [if_pos nonzero, transferBuf, check_bind possible]
  change _ ∈ (transfer (writes n) workingHost (fillTx n (allocate (fun _ => 0) n)) _ n >>= _).lines
  rw [filled]
  exact mem_bind_of_mem List.mem_cons_self _

theorem moves_as_many_three_hundred :
    (messageOf (writes 300) 300).len.toNat = 300 ∧
      ∀ line ∈ (main (writes 300) workingHost).lines,
        line.About (movedBytes (writes 300) workingHost (ramp 300) 300) :=
  (moves_as_many_iff (by decide) (Or.inr ⟨rfl, rfl⟩) (writes_sent (by decide))).mpr
    (by decide)

/-- A message of one byte for 65537 of them, which the driver takes. -/
theorem moves_one_of_65537 :
    Given (writes 65537) workingHost 65537 ∧
      .message (messageOf (writes 65537) 65537)
        (movedBytes (writes 65537) workingHost (ramp 65537) 65537) ∈
          (main (writes 65537) workingHost).lines ∧
      1 ≤ workingHost.ioctl (messageOf (writes 65537) 65537) ∧
      (messageOf (writes 65537) 65537).len = 1 :=
  ⟨Or.inr ⟨rfl, rfl⟩, writes_sent (by decide), by decide, by decide⟩

end AmebaTests.I2c.Master
