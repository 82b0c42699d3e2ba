/-
The five functions of the crypto test, on any driver.

A driver may finish an operation within the call that starts it, or return
-EINPROGRESS and finish it later.  The functions pass no callback and wait for
nothing: whatever a call returns besides 0 is an error to them, and the label
`fail` frees the request and the transform.
-/

import AmebaTests.Foundation.InFlight

namespace AmebaTests.Crypto

open Foundation

def EINVAL : Int := 22
def ENOMEM : Int := 12
def EINPROGRESS : Int := 115

/-- What `PTR_ERR` gives for a pointer that `IS_ERR` holds of. -/
structure ErrPtr where
  code : Int
  lower : -4095 ≤ code
  upper : code ≤ -1

/-- The answer to an operation: finished at once with a status and what it wrote, or
under way, with what it will finish with. -/
inductive Answer (Output : Type)
  | finished (status : Int) (output : Output)
  | inProgress (status : Int) (output : Output)

namespace Answer

variable {Output : Type}

def ret : Answer Output → Int
  | .finished status _ => status
  | .inProgress _ _ => -EINPROGRESS

def status : Answer Output → Int
  | .finished status _ => status
  | .inProgress status _ => status

def output : Answer Output → Output
  | .finished _ output => output
  | .inProgress _ output => output

def isInProgress : Answer Output → Bool
  | .finished _ _ => false
  | .inProgress _ _ => true

theorem ret_of_finished {answer : Answer Output} (finished : answer.isInProgress = false) :
    answer.ret = answer.status := by
  cases answer with
  | finished status output => rfl
  | inProgress status output => cases finished

theorem ret_ne_zero_of_inProgress {answer : Answer Output}
    (underWay : answer.isInProgress = true) : answer.ret ≠ 0 := by
  cases answer with
  | finished status output => cases underWay
  | inProgress status output => exact (by decide : (-EINPROGRESS : Int) ≠ 0)

end Answer

/-- Sixteen bytes, as the block cipher sees them, and a key of 32 bytes. -/
abbrev Block := BitVec 128
abbrev Key := BitVec 256

/-- The answers of the crypto API.  A digest of `size` bytes depends on the key, if
one was set, and the message; a cipher request on the key, the bytes of the `iv`
buffer and the source, and it leaves its result and the `iv` buffer. -/
structure Driver where
  allocTransform : Option ErrPtr
  driverName : String
  allocRequest : Bool
  setKey : Int
  digest : (size : Nat) → Option (List UInt8) → List UInt8 → Answer (BitVec (8 * size))
  encrypt : Key → Block → List Block → Answer (List Block × Block)
  decrypt : Key → Block → List Block → Answer (List Block × Block)

inductive Act
  | print (text : String)
  | allocTransform (name : String)
  | allocRequest
  | setKey
  | clearFlags
  | start (inProgress : Bool)
  | freeRequest
  | freeTransform
  deriving DecidableEq

structure Returned where
  acts : List Act
  ret : Int

/-- The label `fail`, which the successful way reaches too. -/
def fail (acts : List Act) (ret : Int) : Returned where
  acts := acts ++ [.freeRequest, .freeTransform]
  ret := ret

/-- Allocate the transform and the request, and go on behind them. -/
def withRequest (driver : Driver) (name label : String) (greeting : List Act)
    (rest : List Act → Returned) : Returned :=
  match driver.allocTransform with
  | some error =>
      { acts :=
          [.allocTransform name,
            .print ("Error: Failed to allocate transform for " ++ label ++ ": " ++
              toString error.code ++ "\n")]
        ret := error.code }
  | none =>
      if driver.allocRequest = false then
        fail (.allocTransform name :: greeting ++
          [.allocRequest, .print ("Error: Failed to allocate request for " ++ label ++ "\n")])
          (-ENOMEM)
      else rest (.allocTransform name :: greeting ++ [.allocRequest])

def driverGreeting (driver : Driver) : List Act :=
  [.print ("Allocated driver name: " ++ driver.driverName)]

/-! ### The digests -/

/-- The constants of a test: the algorithm, its name in the messages, the message and
the digest it should have. -/
structure DigestTest where
  name : String
  label : String
  size : Nat
  message : List UInt8
  digest : BitVec (8 * size)

/-- From `ahash_request_set_callback` to the end. -/
def doDigest (test : DigestTest) (driver : Driver) (key : Option (List UInt8))
    (acts : List Act) : Returned :=
  let answer := driver.digest test.size key test.message
  let acts := acts ++ [.start answer.isInProgress]
  if answer.ret ≠ 0 then
    fail (acts ++ [.print ("Error: Failed to do digest for " ++ test.label ++ "\n")]) answer.ret
  else if answer.output ≠ test.digest then fail acts (-EINVAL)
  else fail acts 0

def digestTest (test : DigestTest) (driver : Driver) : Returned :=
  withRequest driver test.name test.label (driverGreeting driver) (doDigest test driver none)

def md5 : DigestTest where
  name := "md5"
  label := "md5"
  size := 16
  message := "The quick brown fox jumps over the lazy dog".toUTF8.toList
  digest := 0x9e107d9d372bb6826bd81d3542a419d6

def sha256 : DigestTest where
  name := "sha256"
  label := "sha256"
  size := 32
  message := "abcdefg".toUTF8.toList
  digest := 0x7D1A54127B222502F5B79B5FB0803061152A44F92B37E23C6527BAF665D4DA9A

def sha512 : DigestTest where
  name := "sha512"
  label := "sha512"
  size := 64
  message :=
    [0x0f, 0xda, 0x56, 0x1a, 0x2b, 0x3b, 0xac, 0xf0, 0xd7, 0x47, 0xf3, 0x75, 0x12, 0x54, 0xe9, 0xe9,
     0x9c, 0x38, 0xbe, 0xf1, 0x70, 0xdb, 0xed, 0xe5, 0x4e, 0x68, 0x13, 0x8b, 0xe7, 0xbb, 0xd5, 0xa8,
     0xcb, 0xde, 0xb9, 0x6d, 0x5a, 0xf6, 0x0e, 0xad, 0xe8, 0x00, 0x1b, 0x67, 0xd4, 0xc3, 0xe9, 0x2f,
     0x40, 0xe0, 0xf5, 0xf3, 0xa8, 0xe1, 0x22, 0xfa, 0xc9, 0x4b, 0x6d, 0xf0, 0x1f, 0x3a, 0x97, 0xe1,
     0x19, 0x49, 0x7a, 0xc0, 0xfa, 0x40, 0x85, 0xe7, 0x1f, 0x34, 0xaf, 0x93, 0xb8, 0x78, 0xc6, 0x2c,
     0x49, 0xaa, 0x9f, 0x85, 0x7c, 0x4d, 0x81, 0x8f, 0xfa, 0x96, 0x1c, 0x97, 0x09, 0x62, 0xc2, 0xa3,
     0x2e, 0x88, 0xa1, 0x0e, 0x6d, 0xf2, 0x0a, 0xd3, 0x0e, 0x36, 0xe6, 0x4a, 0x67, 0x18, 0x8e, 0xd3,
     0xe3, 0x63, 0x73, 0x30, 0x73, 0x5b, 0x84, 0x18, 0xa3, 0x15, 0xef, 0xe2, 0x60, 0x04, 0x4d, 0xeb]
  digest := 0xA1F8807913A32C7BD889059CB0BC14028749024D844B454C7D39F4BC839AF8A71AB53B335C4844EB629EF07CC54ABFA584B33850C2D5D38326FEFE7F2BB0F833

def hmacSha512 : DigestTest where
  name := "hmac(sha512)"
  label := "hmac-sha512"
  size := 64
  message := "The quick brown fox jumps over the lazy dog".toUTF8.toList
  digest := 0xb42af09057bac1e2d41708e48a902e09b5ff7f12ab428a4fe86653c73dd248fb82f948a549f7b791a5b41915ee4d1ec3935357e4e2317250d0372afa2ebeeb3a

def rtkMd5Test := digestTest md5
def rtkSha256Test := digestTest sha256
def rtkSha512Test := digestTest sha512

/-- The only digest with a key, which is `key`. -/
def hmacKey : List UInt8 := [107, 101, 121]

def rtkHmacSha512Test (driver : Driver) : Returned :=
  withRequest driver hmacSha512.name hmacSha512.label (driverGreeting driver) fun acts =>
    if driver.setKey ≠ 0 then
      fail (acts ++ [.setKey, .print "Error: Failed to setkey for hmac-sha512\n"]) driver.setKey
    else doDigest hmacSha512 driver (some hmacKey) (acts ++ [.setKey])

/-! ### The cipher -/

/-- The request for the ciphertext, and the one that decrypts what it has left in
`ciphertext`, with what it has left in `iv`. -/
def encrypted (plaintext : Block) (key : Key) (iv : Block) (driver : Driver) :
    Answer (List Block × Block) :=
  driver.encrypt key iv [plaintext]

def decrypted (plaintext : Block) (key : Key) (iv : Block) (driver : Driver) :
    Answer (List Block × Block) :=
  let ciphertext := (encrypted plaintext key iv driver).output
  driver.decrypt key ciphertext.2 ciphertext.1

/-- From the second `crypto_skcipher_clear_flags` to the end. -/
def decryptAndCompare (plaintext : Block) (key : Key) (iv : Block) (driver : Driver)
    (acts : List Act) : Returned :=
  let answer := decrypted plaintext key iv driver
  let acts := acts ++ [.clearFlags] ++ [.start answer.isInProgress]
  if answer.ret ≠ 0 then
    fail (acts ++ [.print "Error: Failed to encrypt for aes-cbc\n"]) answer.ret
  else if [plaintext] ≠ answer.output.1 then fail acts (-EINVAL)
  else fail acts 0

/-- `rtk_aes_test` with its constants as parameters; the debug output of the
ciphertext is left out. -/
def aesTest (plaintext : Block) (key : Key) (iv : Block) (driver : Driver) : Returned :=
  withRequest driver "cbc(aes)" "aes-cbc" [] fun acts =>
    let acts := acts ++ [.clearFlags, .setKey]
    if driver.setKey ≠ 0 then
      fail (acts ++ [.print "Error: Failed to setkey for aes-cbc\n"]) driver.setKey
    else
      let answer := encrypted plaintext key iv driver
      let acts := acts ++ [.start answer.isInProgress]
      if answer.ret ≠ 0 then
        fail (acts ++ [.print "Error: Failed to encrypt for aes-cbc\n"]) answer.ret
      else decryptAndCompare plaintext key iv driver acts

def aesPlaintext : Block := 0x6bc1bee22e409f96e93d7e117393172a
def aesKey : Key := 0x603deb1015ca71be2b73aef0857d77811f352c073b6108d72d9810a30914dff4
def aesIv : Block := 0x000102030405060708090A0B0C0D0E0F

def rtkAesTest := aesTest aesPlaintext aesKey aesIv

inductive CryptoTest
  | md5
  | sha256
  | sha512
  | hmacSha512
  | aes
  deriving DecidableEq, Repr

def CryptoTest.run : CryptoTest → Driver → Returned
  | .md5 => rtkMd5Test
  | .sha256 => rtkSha256Test
  | .sha512 => rtkSha512Test
  | .hmacSha512 => rtkHmacSha512Test
  | .aes => rtkAesTest

/-! ### What the tests should do -/

def Act.starts : Act → Bool
  | .start inProgress => inProgress
  | _ => false

def Act.frees : Act → Bool
  | .freeRequest => true
  | .freeTransform => true
  | _ => false

/-- Nothing is freed under an operation in flight, however the operations and the
function interleave, and the function returns 0 exactly if the test has passed. -/
def Treats (returned : Returned) (passed : Prop) : Prop :=
  AlwaysIdle Act.starts Act.frees returned.acts ∧ (returned.ret = 0 ↔ passed)

def Requested (driver : Driver) : Prop :=
  driver.allocTransform = none ∧ driver.allocRequest = true

/-- The digest succeeds in the end and is the expected one. -/
def DigestPassed (test : DigestTest) (driver : Driver) (key : Option (List UInt8)) : Prop :=
  (driver.digest test.size key test.message).status = 0 ∧
    (driver.digest test.size key test.message).output = test.digest

/-- Both requests succeed in the end, and the second gives the plaintext back. -/
def AesPassed (plaintext : Block) (key : Key) (iv : Block) (driver : Driver) : Prop :=
  (encrypted plaintext key iv driver).status = 0 ∧ (decrypted plaintext key iv driver).status = 0 ∧
    [plaintext] = (decrypted plaintext key iv driver).output.1

/-- Every operation of the test succeeds in the end, and the last output is the
expected one. -/
def CryptoTest.Passed (driver : Driver) : CryptoTest → Prop
  | .md5 => Requested driver ∧ DigestPassed Crypto.md5 driver none
  | .sha256 => Requested driver ∧ DigestPassed Crypto.sha256 driver none
  | .sha512 => Requested driver ∧ DigestPassed Crypto.sha512 driver none
  | .hmacSha512 =>
      Requested driver ∧ driver.setKey = 0 ∧
        DigestPassed Crypto.hmacSha512 driver (some hmacKey)
  | .aes =>
      Requested driver ∧ driver.setKey = 0 ∧ AesPassed aesPlaintext aesKey aesIv driver

def DigestInProgress (test : DigestTest) (driver : Driver) (key : Option (List UInt8)) : Prop :=
  (driver.digest test.size key test.message).isInProgress = true

/-- The second request is made only if the first one has returned 0. -/
def AesInProgress (plaintext : Block) (key : Key) (iv : Block) (driver : Driver) : Prop :=
  (encrypted plaintext key iv driver).isInProgress = true ∨
    ((encrypted plaintext key iv driver).ret = 0 ∧
      (decrypted plaintext key iv driver).isInProgress = true)

/-- A call that the test makes returns -EINPROGRESS. -/
def CryptoTest.InProgress (driver : Driver) : CryptoTest → Prop
  | .md5 => Requested driver ∧ DigestInProgress Crypto.md5 driver none
  | .sha256 => Requested driver ∧ DigestInProgress Crypto.sha256 driver none
  | .sha512 => Requested driver ∧ DigestInProgress Crypto.sha512 driver none
  | .hmacSha512 =>
      Requested driver ∧ driver.setKey = 0 ∧
        DigestInProgress Crypto.hmacSha512 driver (some hmacKey)
  | .aes =>
      Requested driver ∧ driver.setKey = 0 ∧ AesInProgress aesPlaintext aesKey aesIv driver

/-! ### One way out -/

/-- Acts that start nothing which is still under way behind them. -/
def Settled (acts : List Act) : Prop :=
  ∀ act ∈ acts, act.starts = false

theorem Settled.append {first second : List Act} (front : Settled first) (back : Settled second) :
    Settled (first ++ second) :=
  List.forall_mem_append.mpr ⟨front, back⟩

theorem settled_of_all {acts : List Act} (all : acts.all (fun act => !act.starts) = true) :
    Settled acts := by
  intro act member
  have here := List.all_eq_true.mp all act member
  rw [Bool.not_eq_true'] at here
  exact here

theorem alwaysIdle_of_settled {acts : List Act} (settled : Settled acts) :
    AlwaysIdle Act.starts Act.frees acts := by
  rw [alwaysIdle_iff]
  intro before act rest split _frees other member
  apply settled
  rw [split]
  exact List.mem_append_left _ member

theorem treats_fail {acts : List Act} {ret : Int} {passed : Prop} (settled : Settled acts)
    (verdict : ret = 0 ↔ passed) : Treats (fail acts ret) passed := by
  refine ⟨alwaysIdle_of_settled (settled.append (settled_of_all ?_)), verdict⟩
  rfl

/-- An operation under way is not waited for before the request is freed. -/
theorem not_treats_fail {acts : List Act} (started : .start true ∈ acts) (ret : Int)
    (passed : Prop) : ¬ Treats (fail acts ret) passed := by
  intro treats
  have quiet := (alwaysIdle_iff _).mp treats.1 acts .freeRequest [.freeTransform] rfl rfl
  cases quiet (.start true) started

theorem withRequest_treats {driver : Driver} {name label : String} {greeting : List Act}
    {rest : List Act → Returned} {passed inProgress : Prop} (polite : Settled greeting)
    (inner : ∀ acts, Settled acts → (Treats (rest acts) passed ↔ ¬ inProgress)) :
    Treats (withRequest driver name label greeting rest) (Requested driver ∧ passed) ↔
      ¬ (Requested driver ∧ inProgress) := by
  unfold withRequest
  cases transform : driver.allocTransform with
  | some error =>
      have refused : ¬ Requested driver := by
        intro requested
        rw [requested.1] at transform
        cases transform
      have nonzero : error.code ≠ 0 := by
        have upper := error.upper
        omega
      refine iff_of_true ⟨alwaysIdle_of_settled (settled_of_all rfl), ?_⟩ fun both => refused both.1
      exact iff_of_false nonzero fun both => refused both.1
  | none =>
      have opened : Settled (.allocTransform name :: greeting) :=
        List.forall_mem_cons.mpr ⟨rfl, polite⟩
      dsimp only
      split
      · rename_i missing
        have refused : ¬ Requested driver := by
          intro requested
          rw [requested.2] at missing
          cases missing
        refine iff_of_true (treats_fail (opened.append (settled_of_all rfl)) ?_)
          fun both => refused both.1
        exact iff_of_false (by decide) fun both => refused both.1
      · rename_i allocated
        have requested : Requested driver := ⟨transform, (Bool.not_eq_false _).mp allocated⟩
        rw [and_iff_right requested, and_iff_right requested]
        exact inner _ (opened.append (settled_of_all rfl))

/-- The last operation of a test and the comparison behind it. -/
theorem verdict_treats {Output : Type} {answer : Answer Output} {acts : List Act} (message : String)
    {wrong : Prop} [Decidable wrong] (settled : answer.isInProgress = false → Settled acts)
    (started : answer.isInProgress = true → .start true ∈ acts) :
    Treats
      (if answer.ret ≠ 0 then fail (acts ++ [.print message]) answer.ret
        else if wrong then fail acts (-EINVAL)
        else fail acts 0)
      (answer.status = 0 ∧ ¬ wrong) ↔ ¬ answer.isInProgress = true := by
  cases underWay : answer.isInProgress with
  | false =>
      refine iff_of_true ?_ Bool.false_ne_true
      have done := settled underWay
      rw [← Answer.ret_of_finished underWay]
      split
      · rename_i failed
        exact treats_fail (done.append (settled_of_all rfl))
          (iff_of_false failed fun both => failed both.1)
      · rename_i succeeded
        split
        · rename_i different
          exact treats_fail done (iff_of_false (by decide) fun both => both.2 different)
        · rename_i same
          exact treats_fail done (iff_of_true rfl ⟨Classical.not_not.mp succeeded, same⟩)
  | true =>
      refine iff_of_false ?_ fun settled => settled rfl
      rw [if_pos (Answer.ret_ne_zero_of_inProgress underWay)]
      apply not_treats_fail
      exact List.mem_append_left _ (started underWay)

theorem settled_start {acts : List Act} (settled : Settled acts) {inProgress : Bool}
    (finished : inProgress = false) : Settled (acts ++ [.start inProgress]) := by
  rw [finished]
  exact settled.append (settled_of_all rfl)

theorem start_mem {inProgress : Bool} (acts : List Act) (underWay : inProgress = true) :
    .start true ∈ acts ++ [.start inProgress] := by
  rw [underWay]
  exact List.mem_append_right _ List.mem_cons_self

theorem doDigest_treats (test : DigestTest) (driver : Driver) (key : Option (List UInt8))
    {acts : List Act} (settled : Settled acts) :
    Treats (doDigest test driver key acts) (DigestPassed test driver key) ↔
      ¬ DigestInProgress test driver key := by
  have verdict := @verdict_treats _ (driver.digest test.size key test.message) _
    ("Error: Failed to do digest for " ++ test.label ++ "\n")
    ((driver.digest test.size key test.message).output ≠ test.digest) _
    (settled_start settled) (start_mem acts)
  rw [not_not] at verdict
  exact verdict

theorem digestTest_treats (test : DigestTest) (driver : Driver) :
    Treats (digestTest test driver) (Requested driver ∧ DigestPassed test driver none) ↔
      ¬ (Requested driver ∧ DigestInProgress test driver none) :=
  withRequest_treats (settled_of_all rfl) fun _ settled => doDigest_treats test driver none settled

/-- A rejected key ends a test before its first operation. -/
theorem setKey_treats {driver : Driver} {acts : List Act} {rest : Returned}
    {passed inProgress : Prop} (settled : Settled acts)
    (inner : Treats rest passed ↔ ¬ inProgress) :
    Treats (if driver.setKey ≠ 0 then fail acts driver.setKey else rest)
        (driver.setKey = 0 ∧ passed) ↔ ¬ (driver.setKey = 0 ∧ inProgress) := by
  split
  · rename_i rejected
    refine iff_of_true (treats_fail settled ?_) fun both => rejected both.1
    exact iff_of_false rejected fun both => rejected both.1
  · rename_i accepted
    have keyed : driver.setKey = 0 := Classical.not_not.mp accepted
    rw [and_iff_right keyed, and_iff_right keyed]
    exact inner

theorem hmac_treats (driver : Driver) :
    Treats (rtkHmacSha512Test driver) (CryptoTest.hmacSha512.Passed driver) ↔
      ¬ CryptoTest.hmacSha512.InProgress driver := by
  refine withRequest_treats (settled_of_all rfl) fun acts settled => ?_
  apply setKey_treats (settled.append (settled_of_all rfl))
  exact doDigest_treats hmacSha512 driver _ (settled.append (settled_of_all rfl))

theorem decryptAndCompare_treats (plaintext : Block) (key : Key) (iv : Block) (driver : Driver)
    {acts : List Act} (settled : Settled acts) :
    Treats (decryptAndCompare plaintext key iv driver acts)
        ((decrypted plaintext key iv driver).status = 0 ∧
          [plaintext] = (decrypted plaintext key iv driver).output.1) ↔
      ¬ (decrypted plaintext key iv driver).isInProgress = true := by
  have ready : Settled (acts ++ [.clearFlags]) := settled.append (settled_of_all rfl)
  have verdict := @verdict_treats _ (decrypted plaintext key iv driver) _
    "Error: Failed to encrypt for aes-cbc\n"
    ([plaintext] ≠ (decrypted plaintext key iv driver).output.1) _
    (settled_start ready) (start_mem (acts ++ [.clearFlags]))
  rw [not_not] at verdict
  exact verdict

/-- The two requests one after the other. -/
theorem encrypted_treats (plaintext : Block) (key : Key) (iv : Block) (driver : Driver)
    {acts : List Act} (settled : Settled acts) (message : String) :
    Treats
        (if (encrypted plaintext key iv driver).ret ≠ 0 then
          fail (acts ++ [.start (encrypted plaintext key iv driver).isInProgress] ++
            [.print message]) (encrypted plaintext key iv driver).ret
        else decryptAndCompare plaintext key iv driver
          (acts ++ [.start (encrypted plaintext key iv driver).isInProgress]))
        (AesPassed plaintext key iv driver) ↔ ¬ AesInProgress plaintext key iv driver := by
  unfold AesPassed AesInProgress
  cases underWay : (encrypted plaintext key iv driver).isInProgress with
  | true =>
      rw [if_pos (Answer.ret_ne_zero_of_inProgress underWay)]
      refine iff_of_false ?_ fun finished => finished (Or.inl rfl)
      exact not_treats_fail (List.mem_append_left _ (start_mem acts rfl)) _ _
  | false =>
      have done := settled_start settled (rfl : false = false)
      rw [← Answer.ret_of_finished underWay, or_iff_right Bool.false_ne_true]
      split
      · rename_i failed
        refine iff_of_true (treats_fail (done.append (settled_of_all rfl)) ?_)
          fun both => failed both.1
        exact iff_of_false failed fun both => failed both.1
      · rename_i returned
        have succeeded := Classical.not_not.mp returned
        rw [and_iff_right succeeded, and_iff_right succeeded]
        exact decryptAndCompare_treats plaintext key iv driver done

theorem aesTest_treats (plaintext : Block) (key : Key) (iv : Block) (driver : Driver) :
    Treats (aesTest plaintext key iv driver)
        (Requested driver ∧ driver.setKey = 0 ∧ AesPassed plaintext key iv driver) ↔
      ¬ (Requested driver ∧ driver.setKey = 0 ∧ AesInProgress plaintext key iv driver) := by
  refine withRequest_treats (settled_of_all rfl) fun acts settled => ?_
  have ready : Settled (acts ++ [.clearFlags, .setKey]) := settled.append (settled_of_all rfl)
  apply setKey_treats (ready.append (settled_of_all rfl))
  exact encrypted_treats plaintext key iv driver ready _

/-- A test frees nothing under an operation in flight, in whatever order the driver
and the function go on, and returns 0 exactly if it has passed, if and only if no
call that it makes returns -EINPROGRESS. -/
theorem treats_driver_iff (test : CryptoTest) (driver : Driver) :
    Treats (test.run driver) (test.Passed driver) ↔ ¬ test.InProgress driver := by
  cases test with
  | md5 => exact digestTest_treats md5 driver
  | sha256 => exact digestTest_treats sha256 driver
  | sha512 => exact digestTest_treats sha512 driver
  | hmacSha512 => exact hmac_treats driver
  | aes => exact aesTest_treats aesPlaintext aesKey aesIv driver

/-- A driver that queues the digest and computes it correctly later. -/
def queueingDriver : Driver where
  allocTransform := none
  driverName := "queueing"
  allocRequest := true
  setKey := 0
  digest := fun size _ _ => .inProgress 0 (BitVec.ofNat (8 * size) md5.digest.toNat)
  encrypt := fun _ iv source => .inProgress 0 (source, iv)
  decrypt := fun _ iv source => .inProgress 0 (source, iv)

/-- Its digest is right in the end, but `rtk_md5_test` has returned an error by then,
and may have freed the request first. -/
theorem queued_digest_freed_in_flight :
    CryptoTest.md5.Passed queueingDriver ∧ (CryptoTest.md5.run queueingDriver).ret = -115 ∧
      ¬ AlwaysIdle Act.starts Act.frees (CryptoTest.md5.run queueingDriver).acts := by
  refine ⟨⟨⟨rfl, rfl⟩, rfl, rfl⟩, rfl, ?_⟩
  intro always
  have quiet := (alwaysIdle_iff _).mp always
    [.allocTransform "md5", .print ("Allocated driver name: " ++ "queueing"), .allocRequest,
      .start true, .print ("Error: Failed to do digest for " ++ "md5" ++ "\n")]
    .freeRequest [.freeTransform] rfl rfl
  have started := quiet (.start true)
    (List.mem_of_mem_drop (i := 3) List.mem_cons_self)
  cases started

end AmebaTests.Crypto
