/-
The round trip of `rtk_aes_test` on a driver that computes CBC.

The block cipher is any permutation of the blocks for each key.  The driver leaves
the last ciphertext block in the `iv` buffer when it finishes, and the function hands
the same buffer to the decryption.
-/

import AmebaTests.Crypto.Tests
import AmebaTests.Foundation.Chaining
import Mathlib.Logic.Equiv.Basic

namespace AmebaTests.Crypto

open Foundation

section Cbc

variable (cipher : Key → Equiv.Perm Block)

/-- The output and the `iv` buffer behind an encryption. -/
def cbcEncryption (key : Key) (iv : Block) (source : List Block) : List Block × Block :=
  let output := cbcEncrypt (· ^^^ ·) (cipher key) iv source
  (output, output.getLastD iv)

def cbcDecryption (key : Key) (iv : Block) (source : List Block) : List Block × Block :=
  (cbcDecrypt (· ^^^ ·) (cipher key).symm iv source, source.getLastD iv)

/-- The requests are granted, the key is accepted, and each operation finishes within
its call with what CBC gives. -/
structure ComputesCbc (driver : Driver) : Prop where
  requested : Requested driver
  setKey : driver.setKey = 0
  encrypt : ∀ key iv source,
    driver.encrypt key iv source = .finished 0 (cbcEncryption cipher key iv source)
  decrypt : ∀ key iv source,
    driver.decrypt key iv source = .finished 0 (cbcDecryption cipher key iv source)

end Cbc

theorem xor_xor_cancel (left right : Block) : left ^^^ right ^^^ right = left := by
  rw [BitVec.xor_assoc, BitVec.xor_self, BitVec.xor_zero]

/-- What the `iv` buffer holds when the decryption starts. -/
def ivOfDecryption (plaintext : Block) (key : Key) (iv : Block) (driver : Driver) : Block :=
  (encrypted plaintext key iv driver).output.2

variable {cipher : Key → Equiv.Perm Block} {driver : Driver}

theorem ComputesCbc.encrypted (computes : ComputesCbc cipher driver) (plaintext : Block)
    (key : Key) (iv : Block) :
    Crypto.encrypted plaintext key iv driver =
      .finished 0 ([cipher key (plaintext ^^^ iv)], cipher key (plaintext ^^^ iv)) :=
  computes.encrypt key iv [plaintext]

theorem ComputesCbc.ivOfDecryption (computes : ComputesCbc cipher driver) (plaintext : Block)
    (key : Key) (iv : Block) :
    Crypto.ivOfDecryption plaintext key iv driver = cipher key (plaintext ^^^ iv) := by
  unfold Crypto.ivOfDecryption
  rw [computes.encrypted]
  rfl

/-- The ciphertext is decrypted with itself as the initial value. -/
theorem ComputesCbc.decrypted (computes : ComputesCbc cipher driver) (plaintext : Block)
    (key : Key) (iv : Block) :
    ∃ left, Crypto.decrypted plaintext key iv driver =
      .finished 0 ([plaintext ^^^ iv ^^^ cipher key (plaintext ^^^ iv)], left) := by
  refine ⟨cipher key (plaintext ^^^ iv), ?_⟩
  have undone : ∀ block, (cipher key).symm (cipher key block) = block :=
    (cipher key).symm_apply_apply
  have recovered := cbcDecrypt_of_other_iv undone xor_xor_cancel iv
    (cipher key (plaintext ^^^ iv)) plaintext []
  unfold Crypto.decrypted
  rw [computes.encrypted]
  refine (computes.decrypt key _ _).trans ?_
  exact congrArg (fun output => Answer.finished 0 (output, _)) recovered

theorem ComputesCbc.not_aesInProgress (computes : ComputesCbc cipher driver) (plaintext : Block)
    (key : Key) (iv : Block) : ¬ AesInProgress plaintext key iv driver := by
  obtain ⟨left, second⟩ := computes.decrypted plaintext key iv
  unfold AesInProgress
  rw [computes.encrypted, second]
  rintro (started | ⟨_returned, started⟩)
  · cases started
  · cases started

/-- The function passes exactly if the two initial values cancel. -/
theorem ComputesCbc.aesPassed_iff (computes : ComputesCbc cipher driver) (plaintext : Block)
    (key : Key) (iv : Block) :
    AesPassed plaintext key iv driver ↔ cipher key (plaintext ^^^ iv) = iv := by
  obtain ⟨left, second⟩ := computes.decrypted plaintext key iv
  unfold AesPassed
  rw [computes.encrypted, second]
  constructor
  · rintro ⟨_first, _second, same⟩
    have blocks : plaintext = plaintext ^^^ iv ^^^ cipher key (plaintext ^^^ iv) :=
      List.head_eq_of_cons_eq same
    rw [BitVec.xor_assoc] at blocks
    have cancelled : iv ^^^ cipher key (plaintext ^^^ iv) = 0#128 := by
      rw [← BitVec.xor_right_inj plaintext, ← blocks, BitVec.xor_zero]
    exact (BitVec.xor_eq_zero_iff.mp cancelled).symm
  · intro fixed
    refine ⟨rfl, rfl, ?_⟩
    rw [fixed, xor_xor_cancel]
    rfl

theorem ComputesCbc.ret_eq_zero_iff (computes : ComputesCbc cipher driver) (plaintext : Block)
    (key : Key) (iv : Block) :
    (aesTest plaintext key iv driver).ret = 0 ↔ cipher key (plaintext ^^^ iv) = iv := by
  have treated := (aesTest_treats plaintext key iv driver).mpr fun both =>
    computes.not_aesInProgress plaintext key iv both.2.2
  rw [treated.2, and_iff_right computes.requested, and_iff_right computes.setKey]
  exact computes.aesPassed_iff plaintext key iv

/-- The function returns 0, and runs the decryption with the initial value of the
encryption, if and only if the plaintext is the one whose ciphertext is that value. -/
theorem roundTrip_iff (cipher : Key → Equiv.Perm Block) (driver : Driver)
    (computes : ComputesCbc cipher driver) (plaintext : Block) (key : Key) (iv : Block) :
    ((aesTest plaintext key iv driver).ret = 0 ∧ ivOfDecryption plaintext key iv driver = iv) ↔
      plaintext = (cipher key).symm iv ^^^ iv := by
  rw [computes.ret_eq_zero_iff, computes.ivOfDecryption, and_self_iff, ← Equiv.eq_symm_apply]
  constructor
  · intro block
    rw [← block, xor_xor_cancel]
  · intro block
    rw [block, xor_xor_cancel]

def cbcDriver (cipher : Key → Equiv.Perm Block) : Driver where
  allocTransform := none
  driverName := "cbc"
  allocRequest := true
  setKey := 0
  digest := fun _ _ _ => .finished 0 0
  encrypt := fun key iv source => .finished 0 (cbcEncryption cipher key iv source)
  decrypt := fun key iv source => .finished 0 (cbcDecryption cipher key iv source)

theorem cbcDriver_computesCbc (cipher : Key → Equiv.Perm Block) :
    ComputesCbc cipher (cbcDriver cipher) where
  requested := ⟨rfl, rfl⟩
  setKey := rfl
  encrypt := fun _ _ _ => rfl
  decrypt := fun _ _ _ => rfl

/-- A permutation that agrees with AES-256 under `aesKey` on two blocks: the one that
the function encrypts, and the one whose ciphertext is `aesIv`. -/
def aesOnTwoBlocks : Key → Equiv.Perm Block :=
  fun _ =>
    (Equiv.swap (aesPlaintext ^^^ aesIv) 0xf58c4c04d6e5f1ba779eabfb5f7bfbd6).trans
      (Equiv.swap 0x393e4e6cdf9b1fc836120fa2a3d8f140 aesIv)

/-- A plaintext whose ciphertext is the initial value makes the round trip. -/
theorem roundTrip_of_ciphertext_iv :
    (aesTest 0x393f4c6fdb9e19cf3e1b05a9afd5ff4f aesKey aesIv (cbcDriver aesOnTwoBlocks)).ret = 0 ∧
      ivOfDecryption 0x393f4c6fdb9e19cf3e1b05a9afd5ff4f aesKey aesIv (cbcDriver aesOnTwoBlocks) =
        aesIv :=
  (roundTrip_iff aesOnTwoBlocks (cbcDriver aesOnTwoBlocks) (cbcDriver_computesCbc aesOnTwoBlocks)
    0x393f4c6fdb9e19cf3e1b05a9afd5ff4f aesKey aesIv).mpr (by decide)

/-- The constants of the function do not: the decryption starts from the ciphertext. -/
theorem aes_constants_rejected :
    ComputesCbc aesOnTwoBlocks (cbcDriver aesOnTwoBlocks) ∧
      ivOfDecryption aesPlaintext aesKey aesIv (cbcDriver aesOnTwoBlocks) =
        0xf58c4c04d6e5f1ba779eabfb5f7bfbd6 ∧
      (rtkAesTest (cbcDriver aesOnTwoBlocks)).ret = -22 := by
  refine ⟨cbcDriver_computesCbc aesOnTwoBlocks, ?_, ?_⟩
  · decide
  · decide

end AmebaTests.Crypto
