/-
Cipher block chaining over any type of blocks.

Each block is combined with the ciphertext block before it, the first one with an
initial value.  Combining twice with one block is to give back what it was.
-/

import Mathlib.Init

namespace AmebaTests.Foundation

variable {Block : Type} (combine : Block → Block → Block)

def cbcEncrypt (encrypt : Block → Block) : Block → List Block → List Block
  | _, [] => []
  | iv, block :: rest =>
      let ciphertext := encrypt (combine block iv)
      ciphertext :: cbcEncrypt encrypt ciphertext rest

def cbcDecrypt (decrypt : Block → Block) : Block → List Block → List Block
  | _, [] => []
  | iv, ciphertext :: rest =>
      combine (decrypt ciphertext) iv :: cbcDecrypt decrypt ciphertext rest

variable {combine} {encrypt decrypt : Block → Block}

theorem cbcDecrypt_cbcEncrypt (undone : ∀ block, decrypt (encrypt block) = block)
    (cancels : ∀ left right, combine (combine left right) right = left) (iv : Block)
    (blocks : List Block) :
    cbcDecrypt combine decrypt iv (cbcEncrypt combine encrypt iv blocks) = blocks := by
  induction blocks generalizing iv with
  | nil => rfl
  | cons block rest ih =>
      rw [cbcEncrypt, cbcDecrypt, undone, cancels, ih]

/-- Another initial value changes the first block only. -/
theorem cbcDecrypt_of_other_iv (undone : ∀ block, decrypt (encrypt block) = block)
    (cancels : ∀ left right, combine (combine left right) right = left) (iv other block : Block)
    (rest : List Block) :
    cbcDecrypt combine decrypt other (cbcEncrypt combine encrypt iv (block :: rest)) =
      combine (combine block iv) other :: rest := by
  rw [cbcEncrypt, cbcDecrypt, undone, cbcDecrypt_cbcEncrypt undone cancels]

end AmebaTests.Foundation
