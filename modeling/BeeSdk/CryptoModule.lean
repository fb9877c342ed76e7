import BeeSdk.RingMemory

/-! The ciphers of `crypto.cpp` and the choice `LuaCryptoModule` makes among them. The
library that does the arithmetic is a parameter, with RC4 as one call and AES as a
context that is fed and then closed; what is modelled is whose memory the bytes end up
in. `none` stands for undefined: an access outside a block or an overflowing length. -/
namespace BeeSdk.Crypto
open RingMemory

abbrev Bytes := List UInt8

/-- What a pointer leads to, nothing for `NULL`. -/
abbrev Pointer := Option Bytes

inductive AlgoType where
  | aes
  | rc4
  | xxtea
  deriving DecidableEq

def aesBlockSize : Nat := 16
def kAESBlockSizeMask : Nat := 0xF

/-- The calls into the library and the bytes each puts out; `none` where one fails. -/
structure OpenSsl (Context : Type) where
  rc4 (key input : Bytes) : Bytes
  ctxNew : Option Context
  encryptInit (ctx : Context) (key : Bytes) : Option Context
  encryptUpdate (ctx : Context) (input : Bytes) : Option (Bytes × Context)
  encryptFinal (ctx : Context) : Option Bytes
  decryptInit (ctx : Context) (key : Bytes) : Option Context
  decryptUpdate (ctx : Context) (input : Bytes) : Option (Bytes × Context)
  decryptFinal (ctx : Context) : Option Bytes

/-- What a cipher returns, with the caller's buffer and length behind it. -/
structure Ciphered where
  ret : Bool
  output : Pointer
  outputLen : Nat
  deriving DecidableEq

/-- The length of an input with its padding, a whole block where it fills its blocks. -/
def outBufferLen (inputLen : Nat) : Nat :=
  inputLen + (aesBlockSize - (inputLen &&& kAESBlockSizeMask))

section
variable {Context : Type} (ssl : OpenSsl Context)

def rc4 (input : Pointer) (key : Bytes) (output : Pointer) : Option Ciphered :=
  input.bind fun input => output.bind fun output =>
  (copyIn output 0 (ssl.rc4 key input)).map fun output => ⟨true, some output, input.length⟩

/-- The cipher is initialised with the sixteen bytes from `key` on, whatever length is passed. -/
def aesEncryptEcb (input : Pointer) (key : Bytes) (output : Pointer) (outputLen : Nat) :
    Option Ciphered :=
  input.bind fun input =>
  if key.length < aesBlockSize ∨ 2 ^ 31 ≤ outBufferLen input.length then none
  else match ssl.ctxNew.bind (ssl.encryptInit · (key.take aesBlockSize)) with
    | none => some ⟨false, output, outputLen⟩
    | some ctx => match ssl.encryptUpdate ctx input with
      | none => some ⟨false, output, outputLen⟩
      | some (first, ctx) =>
        (copyIn (List.replicate (outBufferLen input.length) 0) 0 first).bind fun encOut =>
        match ssl.encryptFinal ctx with
        | none => some ⟨false, output, first.length⟩
        | some last =>
          -- `output = enc_out` moves the function's own pointer, not the caller's bytes
          (copyIn encOut first.length last).map fun _ =>
            ⟨true, output, first.length + last.length⟩

def aesDecryptEcb (input : Pointer) (key : Bytes) (output : Pointer) (outputLen : Nat) :
    Option Ciphered :=
  match input, output with
  | some input, some output =>
    if key.length < aesBlockSize then none
    else match ssl.ctxNew.bind (ssl.decryptInit · (key.take aesBlockSize)) with
      | none => some ⟨false, some output, outputLen⟩
      | some ctx => match ssl.decryptUpdate ctx input with
        | none => some ⟨false, some output, outputLen⟩
        | some (first, ctx) =>
          (copyIn output 0 first).bind fun output =>
          match ssl.decryptFinal ctx with
          | none => some ⟨false, some output, first.length⟩
          | some last => (copyIn output first.length last).map fun output =>
            ⟨true, some output, first.length + last.length⟩
  | _, _ => some ⟨false, output, outputLen⟩

/-- `LuaCryptoModule::encrypt`. -/
def encrypt (algo : AlgoType) (input : Pointer) (key : Bytes) (output : Pointer)
    (outputLen : Nat) : Option Ciphered :=
  match algo with
  | .aes => aesEncryptEcb ssl input key output outputLen
  | .rc4 => rc4 ssl input key output
  | .xxtea => some ⟨false, output, outputLen⟩

/-- `LuaCryptoModule::decrypt`. -/
def decrypt (algo : AlgoType) (input : Pointer) (key : Bytes) (output : Pointer)
    (outputLen : Nat) : Option Ciphered :=
  match algo with
  | .aes => aesDecryptEcb ssl input key output outputLen
  | .rc4 => rc4 ssl input key output
  | .xxtea => some ⟨false, output, outputLen⟩

/-! ### What the ciphers are for -/

/-- What the library puts out for a text, first call to last. -/
def OpenSsl.sealed (key input : Bytes) : Option Bytes :=
  (ssl.ctxNew.bind (ssl.encryptInit · key)).bind fun ctx =>
  (ssl.encryptUpdate ctx input).bind fun (first, ctx) =>
  (ssl.encryptFinal ctx).map (first ++ ·)

def OpenSsl.unsealed (key input : Bytes) : Option Bytes :=
  (ssl.ctxNew.bind (ssl.decryptInit · key)).bind fun ctx =>
  (ssl.decryptUpdate ctx input).bind fun (first, ctx) =>
  (ssl.decryptFinal ctx).map (first ++ ·)

def OpenSsl.cipherText (algo : AlgoType) (key input : Bytes) : Option Bytes :=
  match algo with
  | .aes => ssl.sealed key input
  | .rc4 => some (ssl.rc4 key input)
  | .xxtea => none

/-- What the library promises under a key of sixteen bytes: the stream cipher undoes
itself and keeps the length, the block cipher fills the last block and is undone. -/
structure OpenSsl.Inverse : Prop where
  streamed : ∀ key input : Bytes, key.length = aesBlockSize →
    (ssl.rc4 key input).length = input.length ∧ ssl.rc4 key (ssl.rc4 key input) = input
  blocked : ∀ key input : Bytes, key.length = aesBlockSize → outBufferLen input.length < 2 ^ 31 →
    ∃ text, ssl.sealed key input = some text ∧ text.length = outBufferLen input.length ∧
      ssl.unsealed key text = some input

/-- The ciphertext lands in whatever buffer the caller has for it, and decrypting what
lies there gives the input back. -/
def Restores (algo : AlgoType) (key input : Bytes) : Prop :=
  ∀ (output : Bytes) (outputLen : Nat), outBufferLen input.length ≤ output.length →
    ∃ text sent, ssl.cipherText algo key input = some text ∧
      encrypt ssl algo (some input) key (some output) outputLen = some ⟨true, some sent, text.length⟩ ∧
      sent.take text.length = text ∧
      ∀ (plain : Bytes) (plainLen : Nat), text.length ≤ plain.length → ∃ shown count,
        decrypt ssl algo (some (sent.take text.length)) key (some plain) plainLen =
          some ⟨true, some shown, count⟩ ∧ shown.take count = input

end

/-! ### The stream cipher -/

section
variable {Context : Type} {ssl : OpenSsl Context} {key input : Bytes}

theorem copyIn_front {block items : Bytes} (fits : items.length ≤ block.length) :
    copyIn block 0 items = some (items ++ block.drop items.length) := by
  rw [copyIn, if_pos (by omega)]
  simp

theorem rc4_written (inverse : ssl.Inverse) (key_size : key.length = aesBlockSize)
    (output : Bytes) (room : input.length ≤ output.length) :
    rc4 ssl (some input) key (some output) =
      some ⟨true, some (ssl.rc4 key input ++ output.drop input.length), input.length⟩ := by
  have size := (inverse.streamed key input key_size).1
  rw [rc4, Option.bind_some, Option.bind_some, copyIn_front (by omega), size]
  rfl

theorem rc4_restores (inverse : ssl.Inverse) (key_size : key.length = aesBlockSize) :
    Restores ssl .rc4 key input := by
  intro output outputLen room
  obtain ⟨size, undone⟩ := inverse.streamed key input key_size
  have held : input.length ≤ outBufferLen input.length := Nat.le_add_right _ _
  refine ⟨ssl.rc4 key input, ssl.rc4 key input ++ output.drop input.length, rfl, ?_, ?_, ?_⟩
  · rw [encrypt, rc4_written inverse key_size output (by omega), size]
  · rw [List.take_left]
  · intro plain plainLen fits
    have again := @rc4_written _ ssl key (ssl.rc4 key input) inverse key_size plain fits
    rw [List.take_left, decrypt, again, undone]
    exact ⟨_, _, rfl, by rw [size, List.take_left]⟩

/-! ### The block cipher -/

/-- Whatever the library does, the caller's bytes stay as they were. -/
theorem aesEncryptEcb_output {output : Pointer} {outputLen : Nat} {ciphered : Ciphered}
    (done : aesEncryptEcb ssl (some input) key output outputLen = some ciphered) :
    ciphered.output = output := by
  rw [aesEncryptEcb, Option.bind_some] at done
  split at done
  · cases done
  · split at done
    · cases done
      rfl
    · split at done
      · cases done
        rfl
      · obtain ⟨encOut, _, done⟩ := Option.bind_eq_some_iff.mp done
        split at done
        · cases done
          rfl
        · obtain ⟨_, _, rfl⟩ := Option.map_eq_some_iff.mp done
          rfl

theorem outBufferLen_pos (inputLen : Nat) : 0 < outBufferLen inputLen := by
  have mask : inputLen &&& kAESBlockSizeMask ≤ kAESBlockSizeMask := Nat.and_le_right
  simp only [outBufferLen, aesBlockSize, kAESBlockSizeMask] at *
  omega

/-- One of two buffers that agree in no byte cannot hold the ciphertext already. -/
theorem aes_not_restores (inverse : ssl.Inverse) (key_size : key.length = aesBlockSize) :
    ¬ Restores ssl .aes key input := by
  intro restores
  have kept : ∀ byte : UInt8, ∃ text, ssl.sealed key input = some text ∧
      text = List.replicate text.length byte := by
    intro byte
    obtain ⟨text, sent, cipher, encrypted, placed, _⟩ :=
      restores (List.replicate (outBufferLen input.length) byte) 0 (by simp)
    rw [encrypt] at encrypted
    have untouched := aesEncryptEcb_output encrypted
    cases untouched
    refine ⟨text, cipher, ?_⟩
    rw [List.take_replicate] at placed
    have size := congrArg List.length placed
    rw [List.length_replicate] at size
    rw [size] at placed
    exact placed.symm
  have counted : outBufferLen input.length < 2 ^ 31 := by
    obtain ⟨text, sent, _, encrypted, _⟩ :=
      restores (List.replicate (outBufferLen input.length) 0) 0 (by simp)
    by_contra large
    rw [encrypt, aesEncryptEcb, Option.bind_some, if_pos (Or.inr (by omega))] at encrypted
    cases encrypted
  obtain ⟨text, cipher, size, _⟩ := inverse.blocked key input key_size counted
  obtain ⟨zeros, cipher_zeros, zeros_eq⟩ := kept 0
  obtain ⟨ones, cipher_ones, ones_eq⟩ := kept 1
  cases cipher.symm.trans cipher_zeros
  cases cipher.symm.trans cipher_ones
  have positive := outBufferLen_pos input.length
  have same := congrArg List.head? (zeros_eq.symm.trans ones_eq)
  rw [List.head?_replicate, List.head?_replicate, if_neg (by omega), if_neg (by omega)] at same
  cases same

/-- Encryption into the caller's buffer is undone by decryption exactly for the stream
cipher. -/
theorem cipher_restores_iff (inverse : ssl.Inverse) (key_size : key.length = aesBlockSize)
    (algo : AlgoType) : Restores ssl algo key input ↔ algo = .rc4 := by
  cases algo with
  | aes => exact iff_of_false (aes_not_restores inverse key_size) (by simp)
  | rc4 => exact iff_of_true (rc4_restores inverse key_size) rfl
  | xxtea =>
    refine iff_of_false (fun restores => ?_) (by simp)
    obtain ⟨text, _, cipher, _⟩ :=
      restores (List.replicate (outBufferLen input.length) 0) 0 (by simp)
    cases cipher

end

/-! ### A library to run with -/

namespace Library

def swap (state : Bytes) (i j : Nat) : Bytes :=
  (state.set i (state.getD j 0)).set j (state.getD i 0)

/-- The permutation of all bytes that the key makes. -/
def schedule (key : Bytes) : Bytes :=
  ((List.range 256).foldl (fun (state, j) i =>
    let j := (j + (state.getD i 0).toNat + (key.getD (i % key.length) 0).toNat) % 256
    (swap state i j, j)) ((List.range 256).map UInt8.ofNat, 0)).1

/-- The bytes the text is combined with. -/
def keyStream : Nat → Bytes → Nat → Nat → Bytes
  | 0, _, _, _ => []
  | count + 1, state, i, j =>
    let i := (i + 1) % 256
    let j := (j + (state.getD i 0).toNat) % 256
    let state := swap state i j
    state.getD (((state.getD i 0).toNat + (state.getD j 0).toNat) % 256) 0 ::
      keyStream count state i j

def combine (text stream : Bytes) : Bytes := List.zipWith (· ^^^ ·) text stream

def pad (input : Bytes) : Bytes :=
  input ++ List.replicate (outBufferLen input.length - input.length)
    (UInt8.ofNat (outBufferLen input.length - input.length))

def unpad (text : Bytes) : Bytes := text.take (text.length - (text.getLastD 0).toNat)

/-- RC4, and for the block cipher one that combines every block with the key. The
context holds the key and the bytes fed so far. -/
def openSsl : OpenSsl (Bytes × Bytes) where
  rc4 key input := combine input (keyStream input.length (schedule key) 0 0)
  ctxNew := some ([], [])
  encryptInit _ key := some (key, [])
  encryptUpdate ctx input := some ([], (ctx.1, ctx.2 ++ input))
  encryptFinal ctx := some (combine (pad ctx.2) (List.replicate (pad ctx.2).length ctx.1).flatten)
  decryptInit _ key := some (key, [])
  decryptUpdate ctx input := some ([], (ctx.1, ctx.2 ++ input))
  decryptFinal ctx := some (unpad (combine ctx.2 (List.replicate ctx.2.length ctx.1).flatten))

theorem keyStream_length (count : Nat) (state : Bytes) (i j : Nat) :
    (keyStream count state i j).length = count := by
  induction count generalizing state i j with
  | zero => rfl
  | succ count ih => rw [keyStream, List.length_cons, ih]

theorem combine_length {text stream : Bytes} (covered : text.length ≤ stream.length) :
    (combine text stream).length = text.length := by
  rw [combine, List.length_zipWith, Nat.min_eq_left covered]

/-- Combining twice with the same stream is combining with none. -/
theorem combine_combine {text stream : Bytes} (covered : text.length ≤ stream.length) :
    combine (combine text stream) stream = text := by
  induction text generalizing stream with
  | nil => simp [combine]
  | cons symbol rest ih =>
    cases stream with
    | nil => cases covered
    | cons byte others =>
      have tail := ih (Nat.le_of_succ_le_succ covered)
      simp only [combine, List.zipWith_cons_cons] at tail ⊢
      rw [tail, UInt8.xor_assoc, UInt8.xor_self, UInt8.xor_zero]

theorem pad_length (input : Bytes) : (pad input).length = outBufferLen input.length := by
  rw [pad, List.length_append, List.length_replicate, outBufferLen]
  omega

theorem padding_small (inputLen : Nat) :
    0 < outBufferLen inputLen - inputLen ∧ outBufferLen inputLen - inputLen ≤ 16 := by
  have mask : inputLen &&& kAESBlockSizeMask ≤ kAESBlockSizeMask := Nat.and_le_right
  simp only [outBufferLen, aesBlockSize, kAESBlockSizeMask] at *
  omega

theorem unpad_pad (input : Bytes) : unpad (pad input) = input := by
  obtain ⟨positive, small⟩ := padding_small input.length
  have last : (pad input).getLastD 0 = UInt8.ofNat (outBufferLen input.length - input.length) := by
    rw [pad, List.getLastD_eq_getLast?, List.getLast?_append, List.getLast?_replicate,
      if_neg (by omega)]
    rfl
  have byte : (UInt8.ofNat (outBufferLen input.length - input.length)).toNat =
      outBufferLen input.length - input.length := UInt8.toNat_ofNat_of_lt
      (show outBufferLen input.length - input.length < 256 by omega)
  have held : outBufferLen input.length - (outBufferLen input.length - input.length) = input.length := by
    omega
  rw [unpad, last, byte, pad_length, held, pad, List.take_left]

theorem covered {key : Bytes} (key_size : key.length = aesBlockSize) (text : Bytes) :
    text.length ≤ (List.replicate text.length key).flatten.length := by
  rw [List.length_flatten, List.map_replicate, List.sum_replicate_nat, key_size, aesBlockSize]
  omega

theorem openSsl_inverse : openSsl.Inverse where
  streamed key input key_size := by
    have cover : input.length ≤ (keyStream input.length (schedule key) 0 0).length := by
      rw [keyStream_length]
    have size := combine_length cover
    refine ⟨size, ?_⟩
    simp only [openSsl, size]
    exact combine_combine cover
  blocked key input key_size counted := by
    have cover := covered key_size (pad input)
    have size := combine_length cover
    refine ⟨combine (pad input) (List.replicate (pad input).length key).flatten, rfl, ?_, ?_⟩
    · rw [size, pad_length]
    · show some ([] ++ unpad (combine ([] ++ combine (pad input) _) _)) = some input
      rw [List.nil_append, List.nil_append, size, combine_combine cover, unpad_pad]

end Library

theorem stream_restored : Restores Library.openSsl .rc4 "0123456789abcdef".toUTF8.toList [1, 2, 3] :=
  (cipher_restores_iff Library.openSsl_inverse (by decide +kernel) .rc4).mpr rfl

/-- The ciphertext of one byte fills a block, and the caller's block is as it was. -/
theorem block_not_placed :
    encrypt Library.openSsl .aes (some [1]) (List.replicate 16 7) (some (List.replicate 16 0)) 0 =
        some ⟨true, some (List.replicate 16 0), 16⟩ ∧
      Library.openSsl.cipherText .aes (List.replicate 16 7) [1] ≠ some (List.replicate 16 0) ∧
      ¬ Restores Library.openSsl .aes (List.replicate 16 7) [1] := by
  refine ⟨by decide +kernel, by decide +kernel, fun restores => ?_⟩
  obtain ⟨text, sent, cipher, encrypted, placed, _⟩ := restores (List.replicate 16 0) 0 (by decide)
  have text_is : Library.openSsl.cipherText .aes (List.replicate 16 7) [1] =
      some (6 :: List.replicate 15 8) := by decide +kernel
  cases text_is.symm.trans cipher
  rw [encrypt] at encrypted
  have untouched := aesEncryptEcb_output encrypted
  cases untouched
  exact absurd placed (by decide +kernel)

end BeeSdk.Crypto
