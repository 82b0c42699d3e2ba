/-
When the verdict of the SPI test is the comparison of the data.

All four data paths transfer and then compare what was sent with what lies in
the receive buffer.  A tx-only message leaves that buffer alone: `transfer_buf`
and the default branch of `main` skip the comparison then, and
`transfer_escaped_string` and `transfer_file` make it against memory that nobody
has written.
-/

import AmebaTests.Spi.Transfer

namespace AmebaTests.Spi

open Foundation Bus
open Report (say halt check whenever)

/-! ### A host on which every call succeeds -/

structure Host.Works (host : Host) : Prop where
  opens : 0 ≤ host.openDevice
  settings : ∀ setting, host.setting setting ≠ -1
  transfers : 1 ≤ host.spiMessage
  allocates : host.txMemory.isSome = true
  stats : host.stat ≠ -1
  opensInput : 0 ≤ host.openInput
  reads : ∀ size : Nat, host.readInput size = size
  opensOutput : 0 ≤ host.openOutput
  writes : ∀ size : Nat, host.writeOutput size = size

def Host.answering (host : Host) (rx : Nat → UInt8) (delivered : List UInt8) : Host :=
  { host with rxMemory := some rx, delivered := delivered }

theorem Host.Works.answering {host : Host} (works : host.Works) (rx : Nat → UInt8)
    (delivered : List UInt8) : (host.answering rx delivered).Works where
  opens := works.opens
  settings := works.settings
  transfers := works.transfers
  allocates := works.allocates
  stats := works.stats
  opensInput := works.opensInput
  reads := works.reads
  opensOutput := works.opensOutput
  writes := works.writes

def workingHost : Host where
  openDevice := 3
  setting := fun _ => 0
  mode := 0
  bits := 8
  speed := 7000000
  spiMessage := 1
  delivered := []
  txMemory := some fun _ => 0
  rxMemory := some fun _ => 0
  uninitialisedCh := 0
  behindString := []
  stat := 0
  contents := fun _ => []
  openInput := 4
  readInput := fun size => size
  openOutput := 5
  writeOutput := fun size => size
  lastStat := 0
  current := 0

theorem workingHost_works : workingHost.Works where
  opens := by decide
  settings := fun _ => (by decide : (0 : Int) ≠ -1)
  transfers := by decide
  allocates := rfl
  stats := by decide
  opensInput := by decide
  reads := fun _ => rfl
  opensOutput := by decide
  writes := fun _ => rfl

/-! ### The lines of one transfer -/

def verboseLines (options : Options) (bytes : List UInt8) (label : String) : List Line :=
  [.stdout ("SPI-" ++ options.spiRole ++ "\n"), .stdout (hexDump bytes 32 label)]

def outputLines (options : Options) (seen : List UInt8) : List Line :=
  match options.outputFile with
  | none => []
  | some name => if options.transferType ≠ transferTxOnly then [.file name seen] else []

def transferLines (options : Options) (sent seen : List UInt8) (len : Nat) : List Line :=
  .message (if options.transferType = transferRxOnly then none else some sent)
      (options.transferType ≠ transferTxOnly) len ::
    ((if options.verbose ∧ options.transferType ≠ transferRxOnly then
        verboseLines options sent "TX" else []) ++
      (outputLines options seen ++
        (if options.verbose ∧ options.transferType ≠ transferTxOnly then
          verboseLines options seen "RX" else [])))

theorem saveOutput_eq {options : Options} {host : Host} (works : host.Works)
    (seen : List UInt8) :
    saveOutput options host seen =
      { lines := outputLines options seen, result := .ok () } := by
  have opens : ¬ host.openOutput < 0 := Int.not_lt.mpr works.opensOutput
  have writes : ¬ host.writeOutput seen.length ≠ seen.length :=
    not_not_intro (works.writes seen.length)
  unfold saveOutput outputLines
  cases options.outputFile with
  | none => rfl
  | some name =>
      apply Report.whenever_eq
      rw [Report.check_bind opens, Report.say_bind, check, if_neg writes]
      rfl

theorem transfer_eq {options : Options} {host : Host} (works : host.Works)
    (tx rx : List UInt8) (len : Nat) :
    transfer options host tx rx len =
      { lines := transferLines options (tx.take len)
          ((received options host rx).take len) len
        result := .ok (received options host rx) } := by
  have sends : ¬ host.spiMessage < 1 := Int.not_lt.mpr works.transfers
  have sent : dumpVerbose options (tx.take len) "TX" =
      { lines := verboseLines options (tx.take len) "TX", result := .ok () } := rfl
  have seen : dumpVerbose options ((received options host rx).take len) "RX" =
      { lines := verboseLines options ((received options host rx).take len) "RX"
        result := .ok () } := rfl
  unfold transfer
  rw [Report.say_bind, Report.check_bind sends]
  dsimp only
  rw [Report.whenever_eq _ sent, Report.mk_bind, saveOutput_eq works, Report.mk_bind,
    Report.whenever_eq _ seen, Report.mk_bind, Report.pure_lines, Report.pure_result,
    List.append_nil]
  rfl

theorem transferLines_txOnly {options : Options}
    (txOnly : options.transferType = transferTxOnly) (sent seen other : List UInt8)
    (len : Nat) : transferLines options sent seen len = transferLines options sent other len := by
  have output : outputLines options seen = outputLines options other := by
    unfold outputLines
    cases options.outputFile with
    | none => rfl
    | some name => simp only [txOnly, ne_eq, not_true_eq_false, if_false]
  unfold transferLines
  simp only [output, txOnly, ne_eq, not_true_eq_false, and_false, if_false]

/-! ### Reports that judge the data -/

def TransferError {Value : Type} (report : Program Value) : Prop :=
  .stderr "transfer error !\n" ∈ report.lines ∧ report.result = .error (.exit 1)

/-- The report is a transfer error under the condition and returns otherwise. -/
structure Judges {Value : Type} (report : Program Value) (differs : Prop) : Prop where
  reports : differs → TransferError report
  passes : ¬ differs → ∃ value, report.result = .ok value

namespace Judges

variable {Value Next : Type} {differs : Prop}

theorem transferError_iff {report : Program Value} (judges : Judges report differs) :
    TransferError report ↔ differs := by
  constructor
  · intro error
    by_contra same
    obtain ⟨value, returned⟩ := judges.passes same
    rw [error.2] at returned
    cases returned
  · exact judges.reports

theorem congr {report : Program Value} {other : Prop} (judges : Judges report differs)
    (same : differs ↔ other) : Judges report other := by
  rw [← same]
  exact judges

theorem after {first : Program Value} {value : Value} (returned : first.result = .ok value)
    {rest : Value → Program Next} (judges : Judges (rest value) differs) :
    Judges (first >>= rest) differs := by
  rw [Report.bind_of_ok returned]
  constructor
  · intro different
    obtain ⟨line, stopped⟩ := judges.reports different
    exact ⟨List.mem_append_right _ line, stopped⟩
  · exact judges.passes

theorem before {first : Program Value} (judges : Judges first differs)
    {rest : Value → Program Next}
    (returns : ∀ value, ∃ next, (rest value).result = .ok next) :
    Judges (first >>= rest) differs := by
  constructor
  · intro different
    obtain ⟨line, stopped⟩ := judges.reports different
    rw [Report.bind_of_error stopped]
    exact ⟨line, rfl⟩
  · intro same
    obtain ⟨value, returned⟩ := judges.passes same
    rw [Report.bind_of_ok returned]
    exact returns value

theorem whenever {report : Program Unit} (judges : Judges report differs)
    (condition : Prop) [Decidable condition] :
    Judges (Report.whenever condition report) (condition ∧ differs) := by
  unfold Report.whenever
  split
  · rename_i holds
    exact judges.congr (and_iff_right holds).symm
  · rename_i fails
    constructor
    · intro both
      exact absurd both.1 fails
    · intro _same
      exact ⟨(), rfl⟩

end Judges

theorem compareBuffers_judges (tx rx : List UInt8) (size : Nat) (success : String) :
    Judges (compareBuffers tx rx size success) (tx.take size ≠ rx.take size) := by
  constructor
  · intro different
    rw [compareBuffers, if_pos different, Report.say_bind, Report.say_bind, Report.say_bind]
    exact ⟨List.mem_cons_self, rfl⟩
  · intro same
    rw [compareBuffers, if_neg same]
    exact ⟨(), rfl⟩

theorem compareBuffers_congr (tx : List UInt8) {rx other : List UInt8} {size : Nat}
    (same : rx.take size = other.take size) (success : String) :
    compareBuffers tx rx size success = compareBuffers tx other size success := by
  unfold compareBuffers
  rw [same]

/-! ### Transfer and compare -/

/-- What all four paths come to once their buffers are filled. -/
def transferAndCompare (options : Options) (host : Host) (tx rx : List UInt8) (size : Nat)
    (compares : Prop) [Decidable compares] (success : String) : Program Unit := do
  let rx ← transfer options host tx rx size
  whenever compares (compareBuffers tx rx size success)

theorem transferAndCompare_judges (options : Options) {host : Host} (works : host.Works)
    (tx rx : List UInt8) (size : Nat) (compares : Prop) [Decidable compares]
    (success : String) :
    Judges (transferAndCompare options host tx rx size compares success)
      (compares ∧ tx.take size ≠ (received options host rx).take size) := by
  have returned : (transfer options host tx rx size).result =
      .ok (received options host rx) := by
    rw [transfer_eq works]
  exact Judges.after returned ((compareBuffers_judges _ _ _ _).whenever compares)

theorem transferAndCompare_congr {options : Options} {host other : Host} (works : host.Works)
    (worksOther : other.Works) (tx : List UInt8) {rx otherRx : List UInt8} {size : Nat}
    {compares : Prop} [Decidable compares] (success : String)
    (same : (options.transferType = transferTxOnly ∧ ¬ compares) ∨
      (received options host rx).take size = (received options other otherRx).take size) :
    transferAndCompare options host tx rx size compares success =
      transferAndCompare options other tx otherRx size compares success := by
  unfold transferAndCompare
  rw [transfer_eq works, transfer_eq worksOther, Report.mk_bind, Report.mk_bind]
  rcases same with ⟨txOnly, skips⟩ | seen
  · rw [transferLines_txOnly txOnly _ _ ((received options other otherRx).take size),
      whenever, whenever, if_neg skips, if_neg skips]
  · rw [seen, compareBuffers_congr tx seen]

theorem received_take {options : Options} {host : Host} (rx : Nat → UInt8)
    {delivered : List UInt8} (buffer : List UInt8) {size : Nat}
    (length : delivered.length = size) :
    (received options (host.answering rx delivered) buffer).take size =
      if options.transferType = transferTxOnly then buffer.take size else delivered := by
  unfold received
  split
  · rfl
  · rw [← length]
    exact List.take_left

theorem take_overlay (chunk memory : List UInt8) :
    (overlay chunk memory).take chunk.length = chunk :=
  List.take_left

theorem take_allocate (memory : Nat → UInt8) {size count : Nat} (fits : count ≤ size) :
    (allocate memory size).take count = allocate memory count := by
  rw [allocate, allocate, ← List.map_take, List.take_range, Nat.min_eq_left fits]

/-! ### The four paths -/

section Paths

variable {options : Options} {host : Host} {txMemory rxMemory : Nat → UInt8}

theorem transferEscapedString_eq (tx : host.txMemory = some txMemory)
    (rx : host.rxMemory = some rxMemory) {payload str : List UInt8}
    (escapes : Escapes payload str) :
    transferEscapedString options host str =
      transferAndCompare options host (overlay payload (allocate txMemory str.length))
        (allocate rxMemory str.length) payload.length True
        (toString payload.length ++ " bytes transfer success !\n") := by
  have written := unescape_escapes escapes host.uninitialisedCh host.behindString
  unfold transferEscapedString
  rw [tx, rx, written]
  rfl

theorem transferFile_eq (works : host.Works) (tx : host.txMemory = some txMemory)
    (rx : host.rxMemory = some rxMemory) (filename : String) :
    transferFile options host filename =
      transferAndCompare options host
        (overlay (host.contents filename)
          (allocate txMemory (host.contents filename).length))
        (allocate rxMemory (host.contents filename).length)
        (host.contents filename).length True
        (toString (host.contents filename).length ++ " bytes transfier success !\n") := by
  have opens : ¬ host.openInput < 0 := Int.not_lt.mpr works.opensInput
  have reads : ¬ host.readInput (host.contents filename).length ≠
      (host.contents filename).length :=
    not_not_intro (works.reads (host.contents filename).length)
  unfold transferFile
  rw [Report.check_bind works.stats, Report.check_bind opens, tx, rx]
  change (check _ _ >>= _) = _
  rw [Report.check_bind reads]
  rfl

theorem transferBuf_eq (tx : host.txMemory = some txMemory)
    (rx : host.rxMemory = some rxMemory) {length : Int} (positive : 0 < length) :
    transferBuf options host length =
      transferAndCompare options host
        (overlay (countingBytes length.toNat) (allocate txMemory length.toNat))
        (allocate rxMemory length.toNat) length.toNat (comparesBuf options)
        ("SPI-" ++ options.spiRole ++ " " ++ toString length.toNat ++
          " bytes transfer success !\n") := by
  have allocatable : ¬ length < 0 := by omega
  unfold transferBuf
  rw [Report.check_bind allocatable, tx, rx]
  rfl

end Paths

/-- The payload of the data path that the options choose. -/
inductive Selects (options : Options) (host : Host) : List UInt8 → Prop
  | default : options.inputTx = none → options.inputFile = none →
      options.transferSize = 0 → Selects options host defaultTx
  | size : options.inputTx = none → options.inputFile = none → 0 < options.transferSize →
      Selects options host (countingBytes options.transferSize.toNat)
  | escapedString {payload str : List UInt8} : options.inputTx = some str →
      options.inputFile = none → Escapes payload str → Selects options host payload
  | file {filename : String} : options.inputTx = none → options.inputFile = some filename →
      host.contents filename ≠ [] → Selects options host (host.contents filename)

/-- The path is one of the two that compare whatever the transfer type is. -/
def ComparesAlways (options : Options) : Prop :=
  options.inputTx.isSome = true ∨ options.inputFile.isSome = true

theorem comparesAlways_of_string {options : Options} {str : List UInt8}
    (isString : options.inputTx = some str) : ComparesAlways options := by
  apply Or.inl
  rw [isString]
  rfl

theorem comparesAlways_of_file {options : Options} {filename : String}
    (isFile : options.inputFile = some filename) : ComparesAlways options := by
  apply Or.inr
  rw [isFile]
  rfl

theorem not_comparesAlways {options : Options} (noString : options.inputTx = none)
    (noFile : options.inputFile = none) : ¬ ComparesAlways options := by
  intro always
  rw [ComparesAlways, noString, noFile] at always
  rcases always with impossible | impossible
  · cases impossible
  · cases impossible

def Differs (options : Options) (payload : List UInt8) (rx : Nat → UInt8)
    (delivered : List UInt8) : Prop :=
  if options.transferType = transferTxOnly then
    ComparesAlways options ∧ payload ≠ allocate rx payload.length
  else payload ≠ delivered

/-- One of the three transfer types. -/
def KnownType (options : Options) : Prop :=
  options.transferType = transferFullDuplex ∨ options.transferType = transferTxOnly ∨
    options.transferType = transferRxOnly

theorem comparesBuf_iff {options : Options}
    (known : KnownType options) :
    comparesBuf options ↔ options.transferType ≠ transferTxOnly := by
  unfold comparesBuf
  rcases known with same | same | same
  · rw [same]
    decide
  · rw [same]
    decide
  · rw [same]
    decide

section Verdict

variable {options : Options} {host : Host} {payload delivered : List UInt8}
  (rx : Nat → UInt8)

theorem always_judges (works : host.Works) (always : ComparesAlways options)
    (length : delivered.length = payload.length) {tx : List UInt8}
    (sent : tx.take payload.length = payload) {size : Nat} (fits : payload.length ≤ size)
    (success : String) :
    Judges
      (transferAndCompare options (host.answering rx delivered) tx (allocate rx size)
        payload.length True success)
      (Differs options payload rx delivered) := by
  have judges := transferAndCompare_judges options
    (works.answering rx delivered) tx (allocate rx size) payload.length True success
  apply judges.congr
  rw [true_and, sent, received_take rx _ length, take_allocate rx fits]
  unfold Differs
  split
  · exact (and_iff_right always).symm
  · exact Iff.rfl

theorem guarded_judges (works : host.Works) (never : ¬ ComparesAlways options)
    (known : KnownType options)
    (length : delivered.length = payload.length) {tx : List UInt8}
    (sent : tx.take payload.length = payload) (buffer : List UInt8) (success : String) :
    Judges
      (transferAndCompare options (host.answering rx delivered) tx buffer
        payload.length (comparesBuf options) success)
      (Differs options payload rx delivered) := by
  have judges := transferAndCompare_judges options
    (works.answering rx delivered) tx buffer payload.length (comparesBuf options) success
  apply judges.congr
  rw [comparesBuf_iff known, sent, received_take rx _ length]
  unfold Differs
  split
  · rename_i txOnly
    constructor
    · intro both
      exact absurd txOnly both.1
    · intro both
      exact absurd both.1 never
  · rename_i receives
    exact and_iff_right receives

theorem seen_same (compared : options.transferType = transferTxOnly → payload = [])
    (length : delivered.length = payload.length) (other : Nat → UInt8)
    (buffer otherBuffer : List UInt8) :
    (received options (host.answering rx delivered) buffer).take payload.length =
      (received options (host.answering other delivered) otherBuffer).take payload.length := by
  rw [received_take rx _ length, received_take other _ length]
  split
  · rename_i txOnly
    rw [compared txOnly]
    rfl
  · rfl

theorem length_countingBytes (len : Nat) : (countingBytes len).length = len := by
  rw [countingBytes, List.length_map, List.length_range]

theorem statistics_return (options : Options) (host : Host) (len : Nat) :
    ∃ next, (do
      whenever (host.current - host.lastStat > options.interval) (say (.rate len len))
      say (.total len len) : Program Unit).result = .ok next := by
  have said : (say (.rate len len) : Program Unit) =
      { lines := [.rate len len], result := .ok () } := rfl
  rw [Report.whenever_eq _ said, Report.mk_bind]
  exact ⟨(), rfl⟩

theorem selectPath_judges (works : host.Works)
    (known : KnownType options)
    (selects : Selects options host payload) (length : delivered.length = payload.length) :
    Judges (selectPath options (host.answering rx delivered))
      (Differs options payload rx delivered) := by
  obtain ⟨txMemory, tx⟩ := Option.isSome_iff_exists.mp works.allocates
  have working := works.answering rx delivered
  have sending : (host.answering rx delivered).txMemory = some txMemory := tx
  unfold selectPath
  cases selects with
  | default noString noFile noSize =>
      have never := not_comparesAlways noString noFile
      simp only [noString, noFile, noSize, ne_eq, not_true_eq_false, if_false]
      exact guarded_judges rx works never known length rfl defaultRx _
  | size noString noFile positive =>
      have never := not_comparesAlways noString noFile
      have nonzero : options.transferSize ≠ 0 := by omega
      have judged := guarded_judges rx works never known length
        (take_overlay _ (allocate txMemory options.transferSize.toNat))
        (allocate rx options.transferSize.toNat)
      rw [length_countingBytes] at judged
      simp only [noString, noFile, if_pos nonzero]
      unfold transferSized
      rw [transferBuf_eq sending rfl positive]
      apply Judges.before (judged _)
      intro value
      exact statistics_return options _ _
  | @escapedString payload str isString noFile escapes =>
      have always := comparesAlways_of_string isString
      simp only [isString]
      rw [transferEscapedString_eq sending rfl escapes]
      exact always_judges rx works always length (take_overlay _ _) escapes.length_le _
  | @file filename noString isFile nonempty =>
      have always := comparesAlways_of_file isFile
      simp only [noString, isFile]
      rw [transferFile_eq working sending rfl]
      exact always_judges rx works always length (take_overlay _ _) (Nat.le_refl _) _

theorem selectPath_congr (works : host.Works)
    (known : KnownType options)
    (selects : Selects options host payload) (length : delivered.length = payload.length)
    (compared : options.transferType = transferTxOnly → ComparesAlways options →
      payload = []) (other : Nat → UInt8) :
    selectPath options (host.answering rx delivered) =
      selectPath options (host.answering other delivered) := by
  obtain ⟨txMemory, tx⟩ := Option.isSome_iff_exists.mp works.allocates
  have working := works.answering rx delivered
  have workingOther := works.answering other delivered
  have sending : (host.answering rx delivered).txMemory = some txMemory := tx
  have sendingOther : (host.answering other delivered).txMemory = some txMemory := tx
  have guarded : ∀ buffer otherBuffer,
      (options.transferType = transferTxOnly ∧ ¬ comparesBuf options) ∨
        (received options (host.answering rx delivered) buffer).take payload.length =
          (received options (host.answering other delivered) otherBuffer).take
            payload.length := by
    intro buffer otherBuffer
    by_cases txOnly : options.transferType = transferTxOnly
    · refine Or.inl ⟨txOnly, ?_⟩
      rw [comparesBuf_iff known]
      exact not_not_intro txOnly
    · exact Or.inr (seen_same rx (fun same => absurd same txOnly) length other _ _)
  unfold selectPath
  cases selects with
  | default noString noFile noSize =>
      simp only [noString, noFile, noSize, ne_eq, not_true_eq_false, if_false]
      exact transferAndCompare_congr working workingOther _ _ (guarded _ _)
  | size noString noFile positive =>
      have nonzero : options.transferSize ≠ 0 := by omega
      rw [length_countingBytes] at guarded
      simp only [noString, noFile, if_pos nonzero]
      unfold transferSized
      rw [transferBuf_eq sending rfl positive, transferBuf_eq sendingOther rfl positive,
        transferAndCompare_congr working workingOther _ _ (guarded _ _)]
      rfl
  | @escapedString payload str isString noFile escapes =>
      have always := comparesAlways_of_string isString
      simp only [isString]
      rw [transferEscapedString_eq sending rfl escapes,
        transferEscapedString_eq sendingOther rfl escapes]
      exact transferAndCompare_congr working workingOther _ _
        (Or.inr (seen_same rx (fun txOnly => compared txOnly always) length other _ _))
  | @file filename noString isFile nonempty =>
      have always := comparesAlways_of_file isFile
      simp only [noString, isFile]
      rw [transferFile_eq working sending rfl, transferFile_eq workingOther sendingOther rfl]
      exact transferAndCompare_congr working workingOther _ _
        (Or.inr (seen_same rx (fun txOnly => compared txOnly always) length other _ _))

/-! ### The whole program -/

theorem configure_returns (works : host.Works)
    (role : options.spiRole = "MASTER" ∨ options.spiRole = "SLAVE")
    (single : ¬ (options.inputTx.isSome ∧ options.inputFile.isSome)) :
    (configure options host).result = .ok () := by
  have opens : ¬ host.openDevice < 0 := Int.not_lt.mpr works.opens
  have announces : (roleDevice options).result = .ok () := by
    unfold roleDevice
    rcases role with master | slave
    · rw [if_pos master]
      rfl
    · rw [slave]
      rfl
  unfold configure
  rw [Report.bind_of_ok announces, Report.check_bind opens,
    Report.check_bind (works.settings _), Report.check_bind (works.settings _),
    Report.check_bind (works.settings _), Report.check_bind (works.settings _),
    Report.check_bind (works.settings _), Report.check_bind (works.settings _),
    Report.say_bind, Report.say_bind, Report.say_bind, Report.say_bind, check,
    if_neg single]
  rfl

theorem Selects.single (selects : Selects options host payload) :
    ¬ (options.inputTx.isSome ∧ options.inputFile.isSome) := by
  cases selects with
  | default noString noFile noSize => simp [noString]
  | size noString noFile positive => simp [noString]
  | escapedString isString noFile escapes => simp [noFile]
  | file noString isFile nonempty => simp [noString]

theorem main_judges (works : host.Works)
    (role : options.spiRole = "MASTER" ∨ options.spiRole = "SLAVE")
    (known : KnownType options)
    (selects : Selects options host payload) (length : delivered.length = payload.length) :
    Judges (main options (host.answering rx delivered))
      (Differs options payload rx delivered) := by
  have configured : (configure options (host.answering rx delivered)).result = .ok () :=
    configure_returns (works.answering rx delivered) role selects.single
  unfold main
  apply Judges.after configured
  apply Judges.before (selectPath_judges rx works known selects length)
  intro _value
  exact ⟨_, rfl⟩

end Verdict

theorem exists_other_byte (byte : UInt8) : ∃ other, other ≠ byte := by
  by_cases zero : byte = 0
  · refine ⟨1, ?_⟩
    rw [zero]
    decide
  · exact ⟨0, fun same => zero same.symm⟩

/-- A tx-only transfer of a payload on a path that compares it all the same. -/
def ComparesUnreceived (options : Options) (payload : List UInt8) : Prop :=
  options.transferType = transferTxOnly ∧ ComparesAlways options ∧ payload ≠ []

/-- On every path, payload and transfer type the program reports a transfer error
exactly on received data that differ from the payload, independently of the
receive memory, if and only if it is not a tx-only transfer of a payload given by
a string or a file. -/
theorem verdict_is_comparison_iff {options : Options} {host : Host} {payload : List UInt8}
    (works : host.Works)
    (role : options.spiRole = "MASTER" ∨ options.spiRole = "SLAVE")
    (known : KnownType options)
    (selects : Selects options host payload) :
    ((∀ rx delivered, delivered.length = payload.length →
        (TransferError (main options (host.answering rx delivered)) ↔
          options.transferType ≠ transferTxOnly ∧ delivered ≠ payload)) ∧
      (∀ rx other delivered, delivered.length = payload.length →
        main options (host.answering rx delivered) =
          main options (host.answering other delivered))) ↔
      ¬ ComparesUnreceived options payload := by
  constructor
  · intro verdict unreceived
    obtain ⟨txOnly, always, nonempty⟩ := unreceived
    obtain ⟨first, rest, shape⟩ := List.exists_cons_of_ne_nil nonempty
    obtain ⟨filler, other⟩ := exists_other_byte first
    have differs : Differs options payload (fun _ => filler) payload := by
      rw [Differs, if_pos txOnly]
      refine ⟨always, ?_⟩
      intro same
      have head := congrArg List.head? same
      rw [shape, allocate, List.length_cons, List.range_succ_eq_map] at head
      exact other (Option.some.inj head).symm
    have judges := main_judges (fun _ => filler) works role known selects rfl
    have error := (verdict.1 (fun _ => filler) payload rfl).mp (judges.reports differs)
    exact error.1 txOnly
  · intro received
    have compared : options.transferType = transferTxOnly → ComparesAlways options →
        payload = [] := by
      intro txOnly always
      by_contra nonempty
      exact received ⟨txOnly, always, nonempty⟩
    constructor
    · intro rx delivered length
      rw [(main_judges rx works role known selects length).transferError_iff, Differs]
      split
      · rename_i txOnly
        constructor
        · intro both
          have empty := compared txOnly both.1
          rw [empty] at both
          exact absurd rfl both.2
        · intro both
          exact absurd txOnly both.1
      · rename_i receives
        constructor
        · intro different
          exact ⟨receives, different.symm⟩
        · intro both
          exact both.2.symm
    · intro rx other delivered length
      unfold main
      rw [selectPath_congr rx works known selects length compared other]
      rfl

theorem verdict_of_default_buffer :
    Selects {} workingHost defaultTx ∧
      (((∀ rx delivered, delivered.length = defaultTx.length →
          (TransferError (main {} (workingHost.answering rx delivered)) ↔
            ({} : Options).transferType ≠ transferTxOnly ∧ delivered ≠ defaultTx)) ∧
        (∀ rx other delivered, delivered.length = defaultTx.length →
          main {} (workingHost.answering rx delivered) =
            main {} (workingHost.answering other delivered))) ↔
        ¬ ComparesUnreceived {} defaultTx) :=
  ⟨.default rfl rfl rfl, verdict_is_comparison_iff workingHost_works (Or.inl rfl)
    (Or.inl rfl) (.default rfl rfl rfl)⟩

/-- `-T 1 -p A`: the byte `A` is compared with whatever `malloc` returned. -/
theorem tx_only_string_reports_error :
    Selects { transferType := transferTxOnly, inputTx := some [65] } workingHost [65] ∧
      TransferError
        (main { transferType := transferTxOnly, inputTx := some [65] }
          (workingHost.answering (fun _ => 0) [65])) := by
  have escapes : Escapes [65] [65] := .literal (by decide) (by decide) .nil
  have selects : Selects { transferType := transferTxOnly, inputTx := some [65] }
      workingHost [65] := .escapedString rfl rfl escapes
  have length : ([65] : List UInt8).length = ([65] : List UInt8).length := rfl
  have judges := main_judges (fun _ => 0) workingHost_works (Or.inl rfl)
    (Or.inr (Or.inl rfl)) selects length
  refine ⟨selects, judges.reports ?_⟩
  rw [Differs, if_pos rfl]
  exact ⟨Or.inl rfl, by decide⟩

end AmebaTests.Spi
