import BeeSdk.CryptoModule
import BeeSdk.IOBuffer
import BeeSdk.VideoCache
import BeeSdk.Runs

/-! The decryption of what a video cache holds: `LuaCryptoModule` takes a block out of the
cache, puts the plain text into a buffer it keeps and hands it out in pieces. `none`
stands for undefined: a write behind a buffer or a read through `NULL`. -/
namespace BeeSdk.DecryptCache
open Crypto VideoCache RingMemory Runs

structure LuaCryptoModule where
  decInput : Option IOBuffer := none
  decOutput : Option IOBuffer := none

/-- The buffer as it is where its capacity covers the size, else a new one. -/
def allocated (buff : Option IOBuffer) (size : Nat) : IOBuffer :=
  match buff with
  | none => .ofCapacity size
  | some buff => if buff.capacity < size then .ofCapacity size else buff

def allocateDecryptCache (crypto : LuaCryptoModule) (size : Nat) : Bool × LuaCryptoModule :=
  if size = 0 then (false, crypto)
  else (true, ⟨some (allocated crypto.decInput size), some (allocated crypto.decOutput size)⟩)

/-- `fill_dec_input`. The cache counts in `uint32_t`. -/
def fillDecInput (decInput : IOBuffer) (cache : Option LuaVideoCache) (size : Nat) :
    Option (Bool × IOBuffer × Option LuaVideoCache) :=
  match cache with
  | none => some (false, decInput, none)
  | some cache =>
    if size = 0 then some (false, decInput, some cache)
    else
      let decInput := decInput.resize size
      (cache.readData (UInt32.ofNat size)).bind fun (bytes, cache) =>
      (copyIn decInput.buffer decInput.beginOffset bytes).map fun buffer =>
        (size = bytes.length, { decInput with buffer }, some cache)

/-- What `decrypt_cache` leaves: the module, the cache and `output_len`. -/
structure Decrypted where
  ret : Bool
  crypto : LuaCryptoModule
  cache : Option LuaVideoCache
  outputLen : Nat

section
variable {Context : Type} (ssl : OpenSsl Context)

def decryptCache (algo : AlgoType) (crypto : LuaCryptoModule) (cache : Option LuaVideoCache)
    (size : Nat) (key : Bytes) (outputLen : Nat) : Option Decrypted :=
  match allocateDecryptCache crypto size with
  | (false, crypto) => some ⟨false, crypto, cache, outputLen⟩
  | (true, crypto) =>
    match crypto.decInput, crypto.decOutput with
    | some decInput, some decOutput =>
      (fillDecInput decInput cache size).bind fun (filled, decInput, cache) =>
      if filled = false then some ⟨false, ⟨some decInput, some decOutput⟩, cache, outputLen⟩
      else
        (decrypt ssl algo (some decInput.data) key
          (some (decOutput.buffer.drop decOutput.beginOffset)) outputLen).map fun ciphered =>
        let buffer := decOutput.buffer.take decOutput.beginOffset ++ ciphered.output.getD []
        let decOutput := { decOutput with buffer }
        if ciphered.ret then
          ⟨true, ⟨some decInput, some (decOutput.resize ciphered.outputLen)⟩, cache,
            ciphered.outputLen⟩
        else ⟨false, ⟨some decInput, some decOutput⟩, cache, ciphered.outputLen⟩
    | _, _ => some ⟨false, crypto, cache, outputLen⟩

end

/-- `read_dec_cache`, the bytes as they come to lie in the caller's buffer. -/
def readDecCache (crypto : LuaCryptoModule) (len : Nat) :
    Option (Bool × Bytes × LuaCryptoModule) :=
  if len = 0 then some (false, [], crypto)
  else crypto.decOutput.bind fun decOutput =>
    let readLen := min len decOutput.size
    (copyOut decOutput.buffer decOutput.beginOffset readLen).map fun bytes =>
      (true, bytes, { crypto with decOutput := some (decOutput.consume readLen) })

/-! ### What the calls are for -/

/-- A cache with enough data for a block of a size that `lua_decrypt_cache` lets
through: a positive `int32_t`. -/
structure Supply where
  cache : LuaVideoCache
  size : Nat
  positive : 0 < size
  counted : size < 2 ^ 31
  block : Bytes
  after : LuaVideoCache
  read : cache.readData (UInt32.ofNat size) = some (block, after)
  enough : block.length = size

/-- The calls of a script. The cache is not the module's, so each call finds it as
others have left it. -/
inductive Call where
  | decryptCache (algo : AlgoType) (supply : Supply) (key : Bytes)
  | readDecCache (len : UInt32)

/-- The module beside the decryption of the last block, nothing where that failed, and
the bytes read since. -/
structure History where
  crypto : LuaCryptoModule := {}
  plain : Bytes := []
  told : Bytes := []

section
variable {Context : Type} (ssl : OpenSsl Context)

/-- What the library makes of a block, `none` where it fails. -/
def plainText (algo : AlgoType) (key block : Bytes) : Option Bytes :=
  match algo with
  | .aes => ssl.unsealed (key.take aesBlockSize) block
  | .rc4 => some (ssl.rc4 key block)
  | .xxtea => none

def step (history : History) : Call → Option (Bytes × History)
  | .decryptCache algo supply key =>
    (decryptCache ssl algo history.crypto (some supply.cache) supply.size key 0).map fun done =>
      ([], ⟨done.crypto, (plainText ssl algo key supply.block).getD [], []⟩)
  | .readDecCache len =>
    (readDecCache history.crypto len.toNat).map fun (_, bytes, crypto) =>
      (bytes, ⟨crypto, history.plain, history.told ++ bytes⟩)

/-- What a cipher puts out before it ends, and whether it ends well. An AES key is read
over sixteen bytes, `none` where it is shorter. -/
def putOut (algo : AlgoType) (key block : Bytes) : Option (Bool × Bytes) :=
  match algo with
  | .aes =>
    if key.length < aesBlockSize then none
    else match ssl.ctxNew.bind (ssl.decryptInit · (key.take aesBlockSize)) with
      | none => some (false, [])
      | some ctx => match ssl.decryptUpdate ctx block with
        | none => some (false, [])
        | some (first, ctx) => match ssl.decryptFinal ctx with
          | none => some (false, first)
          | some last => some (true, first ++ last)
  | .rc4 => some (true, ssl.rc4 key block)
  | .xxtea => some (false, [])

/-- The plain text has room behind what was read of the buffer, and no bytes are read
where there are none of the last block. -/
def Fits (history : History) : Call → Prop
  | .decryptCache algo supply key =>
    let decOutput := allocated history.crypto.decOutput supply.size
    ∃ ok bytes, putOut ssl algo key supply.block = some (ok, bytes) ∧
      decOutput.beginOffset + bytes.length ≤ decOutput.capacity
  | .readDecCache len => len.toNat ≠ 0 → ∃ decOutput, history.crypto.decOutput = some decOutput ∧
    (history.plain = [] → decOutput.size = 0)

instance (history : History) : ∀ call, Decidable (Fits ssl history call)
  | .decryptCache algo supply key =>
    let decOutput := allocated history.crypto.decOutput supply.size
    decidable_of_iff ((putOut ssl algo key supply.block).any fun put =>
      decide (decOutput.beginOffset + put.2.length ≤ decOutput.capacity)) (by
        simp [Fits, Option.any_eq_true, decOutput])
  | .readDecCache len =>
    decidable_of_iff (len.toNat ≠ 0 → (history.crypto.decOutput.any fun decOutput =>
      decide (history.plain = [] → decOutput.size = 0)) = true) (by
        simp only [Option.any_eq_true, decide_eq_true_eq, Fits])

end

/-! ### What the ciphers put out -/

section
variable {Context : Type} {ssl : OpenSsl Context} {algo : AlgoType} {key block : Bytes}

theorem copyIn_large {out items : Bytes} (large : out.length < items.length) :
    copyIn out 0 items = none :=
  if_neg (by omega)

/-- Two pieces one after the other are put where the whole is. -/
theorem copyIn_pieces (out first last : Bytes) :
    (copyIn out 0 first).bind (copyIn · first.length last) = copyIn out 0 (first ++ last) := by
  by_cases room : first.length ≤ out.length
  · rw [copyIn_front room, Option.bind_some, copyIn, copyIn]
    simp only [List.length_append, List.length_drop, Nat.zero_add]
    by_cases fits : first.length + last.length ≤ out.length
    · rw [if_pos (by omega), if_pos fits]
      simp [List.drop_append, List.drop_drop]
    · rw [if_neg (by omega), if_neg fits]
  · rw [copyIn_large (by omega), copyIn_large (by rw [List.length_append]; omega)]
    rfl

/-- A decryption is the copy of what the cipher puts out to the front of the output. -/
theorem decrypt_putOut (streamed : ∀ key input, (ssl.rc4 key input).length = input.length)
    (algo : AlgoType) (key block out : Bytes) (outputLen : Nat) :
    (putOut ssl algo key block = none ∧ decrypt ssl algo (some block) key (some out) outputLen = none) ∨
    ∃ ok bytes count, putOut ssl algo key block = some (ok, bytes) ∧
      (ok = true → count = bytes.length) ∧
      decrypt ssl algo (some block) key (some out) outputLen =
        (copyIn out 0 bytes).map fun out => ⟨ok, some out, count⟩ := by
  have nothing : copyIn out 0 [] = some out := by
    rw [copyIn_front (Nat.zero_le _)]
    rfl
  cases algo with
  | xxtea =>
    refine Or.inr ⟨false, [], outputLen, rfl, by simp, ?_⟩
    rw [nothing]
    rfl
  | rc4 =>
    refine Or.inr ⟨true, ssl.rc4 key block, block.length, rfl, fun _ => (streamed key block).symm, ?_⟩
    rfl
  | aes =>
    rw [putOut, decrypt, aesDecryptEcb]
    by_cases short : key.length < aesBlockSize
    · rw [if_pos short, if_pos short]
      exact Or.inl ⟨rfl, rfl⟩
    rw [if_neg short, if_neg short]
    right
    cases ssl.ctxNew.bind (ssl.decryptInit · (key.take aesBlockSize)) with
    | none => exact ⟨false, [], outputLen, rfl, by simp, by rw [nothing]; rfl⟩
    | some ctx =>
      simp only
      cases ssl.decryptUpdate ctx block with
      | none => exact ⟨false, [], outputLen, rfl, by simp, by rw [nothing]; rfl⟩
      | some update =>
        obtain ⟨first, ctx⟩ := update
        simp only
        cases ssl.decryptFinal ctx with
        | none =>
          refine ⟨false, first, first.length, rfl, by simp, ?_⟩
          rw [Option.map_eq_bind]
          rfl
        | some last =>
          refine ⟨true, first ++ last, first.length + last.length, rfl, by simp, ?_⟩
          rw [← copyIn_pieces, Option.map_bind]
          rfl

/-- What a cipher that ends well puts out is the decryption; otherwise there is none. -/
theorem plainText_putOut (puts : putOut ssl algo key block = some (ok, bytes)) :
    plainText ssl algo key block = if ok then some bytes else none := by
  cases algo with
  | xxtea =>
    cases puts
    rfl
  | rc4 =>
    cases puts
    rfl
  | aes =>
    rw [putOut] at puts
    split at puts
    · cases puts
    · rw [plainText, OpenSsl.unsealed]
      split at puts
      · next failed =>
        cases puts
        rw [failed]
        rfl
      · next ctx begun =>
        rw [begun, Option.bind_some]
        split at puts
        · next failed =>
          cases puts
          rw [failed]
          rfl
        · next first ctx fed =>
          rw [fed, Option.bind_some]
          split at puts
          · next failed =>
            cases puts
            simp [failed]
          · next last closed =>
            cases puts
            simp [closed]

end

/-! ### The buffers -/

theorem allocated_capacity (buff : Option IOBuffer) (size : Nat) :
    size ≤ (allocated buff size).capacity := by
  cases buff with
  | none => exact Nat.le_of_eq (IOBuffer.ofCapacity_capacity size).symm
  | some old =>
    rw [allocated]
    split
    · exact Nat.le_of_eq (IOBuffer.ofCapacity_capacity size).symm
    · omega

/-- What holds of new buffers and of the one kept holds of the one allocated. -/
theorem allocated_keeps {buff : Option IOBuffer} {size : Nat} (holds : IOBuffer → Prop)
    (kept : ∀ old, buff = some old → holds old) (new : holds (.ofCapacity size)) :
    holds (allocated buff size) := by
  cases buff with
  | none => exact new
  | some old =>
    rw [allocated]
    split
    · exact new
    · exact kept old rfl

/-- A buffer nothing is taken out of, written over from the front. -/
theorem filled_data {decInput : IOBuffer} {size : Nat} {block : Bytes}
    (front : decInput.beginOffset = 0) (room : size ≤ decInput.capacity) (counted : size < 2 ^ 31)
    (enough : block.length = size) :
    ∃ buffer, copyIn (decInput.resize size).buffer (decInput.resize size).beginOffset block =
        some buffer ∧ IOBuffer.data { decInput.resize size with buffer } = block ∧
      buffer.length = decInput.capacity := by
  have length : decInput.buffer.length = decInput.capacity := rfl
  have resized : decInput.resize size = ⟨0, size, decInput.buffer⟩ := by
    rw [IOBuffer.resize, front, if_pos (by omega), Nat.zero_add]
  refine ⟨block ++ decInput.buffer.drop block.length, ?_, ?_, ?_⟩
  · rw [resized]
    exact copyIn_front (by rw [length, enough]; exact room)
  · rw [resized, IOBuffer.data, IOBuffer.size]
    simp only [List.drop_zero, Nat.sub_zero, Nat.add_mod_right]
    rw [Nat.mod_eq_of_lt (by omega), ← enough, List.take_left]
  · rw [List.length_append, List.length_drop, length]
    omega

/-- A plain text written where the unread bytes begin is what is unread after. -/
theorem landed_data {decOutput : IOBuffer} {bytes : Bytes} (valid : decOutput.Valid)
    (room : decOutput.beginOffset + bytes.length ≤ decOutput.capacity) :
    let buffer := decOutput.buffer.take decOutput.beginOffset ++
      (bytes ++ (decOutput.buffer.drop decOutput.beginOffset).drop bytes.length)
    buffer.length = decOutput.capacity ∧
      (IOBuffer.resize { decOutput with buffer } bytes.length).Valid ∧
      (IOBuffer.resize { decOutput with buffer } bytes.length).data = bytes := by
  have addressed := valid.addressed
  have length : decOutput.buffer.length = decOutput.capacity := rfl
  intro buffer
  have size : buffer.length = decOutput.capacity := by
    simp only [buffer, List.length_append, List.length_take, List.length_drop, length]
    omega
  have resized : IOBuffer.resize { decOutput with buffer } bytes.length =
      ⟨decOutput.beginOffset, decOutput.beginOffset + bytes.length, buffer⟩ :=
    if_pos (show decOutput.beginOffset + bytes.length ≤ buffer.length by omega)
  have landed : IOBuffer.Valid ⟨decOutput.beginOffset, decOutput.beginOffset + bytes.length, buffer⟩ :=
    ⟨Nat.le_add_right _ _, show decOutput.beginOffset + bytes.length ≤ buffer.length by omega,
      show buffer.length < 2 ^ 64 by omega⟩
  rw [resized]
  refine ⟨size, landed, ?_⟩
  rw [IOBuffer.data, landed.size_eq]
  simp only [buffer]
  rw [List.drop_left' (by rw [List.length_take]; omega), Nat.add_sub_cancel_left, List.take_left]

/-- Taking bytes out of a buffer leaves the ones behind them. -/
theorem consumed_data {buff : IOBuffer} (valid : buff.Valid) (held : count ≤ buff.size) :
    copyOut buff.buffer buff.beginOffset count = some (buff.data.take count) ∧
      (buff.consume count).data = buff.data.drop count := by
  have ordered := valid.ordered
  have inside := valid.inside
  have addressed := valid.addressed
  have size := valid.size_eq
  have length : buff.buffer.length = buff.capacity := rfl
  constructor
  · rw [copyOut, if_pos (by omega), IOBuffer.data, List.take_take, Nat.min_eq_left held]
  · have rest := (valid.consume held).size_eq
    rw [IOBuffer.consume, Nat.mod_eq_of_lt (by omega)] at rest ⊢
    split
    · next emptied =>
      simp only [IOBuffer.empty, decide_eq_true_eq] at emptied
      have all : buff.data.length ≤ count := by
        rw [valid.data_length]
        omega
      rw [List.drop_eq_nil_of_le all]
      simp [IOBuffer.clear, IOBuffer.data, IOBuffer.size]
    · next left =>
      rw [if_neg left] at rest
      rw [IOBuffer.data, rest, IOBuffer.data, List.drop_take, List.drop_drop, size]
      simp only
      rw [show buff.endOffset - (buff.beginOffset + count) =
        buff.endOffset - buff.beginOffset - count by omega]

/-! ### Calls -/

/-- The input is never read from elsewhere than its front, and of a block that was
decrypted the output holds what was not read yet. -/
structure Books (history : History) : Prop where
  input : ∀ buff, history.crypto.decInput = some buff → buff.beginOffset = 0
  output : ∀ buff, history.crypto.decOutput = some buff → buff.Valid
  unread : ∀ buff, history.crypto.decOutput = some buff → history.plain ≠ [] →
    buff.data = history.plain.drop history.told.length
  told : history.told <+: history.plain

section
variable {Context : Type} {ssl : OpenSsl Context} {history next : History}

theorem allocated_valid (books : Books history) (supply : Supply) :
    (allocated history.crypto.decOutput supply.size).Valid := by
  have counted := supply.counted
  refine allocated_keeps IOBuffer.Valid books.output (IOBuffer.ofBytes_valid ?_)
  rw [List.length_replicate]
  omega

/-- With enough data a call comes down to the decryption of the block to where the unread
bytes begin. -/
theorem decryptCache_eq (books : Books history) (algo : AlgoType) (supply : Supply) (key : Bytes) :
    let decOutput := allocated history.crypto.decOutput supply.size
    ∃ decInput, decInput.beginOffset = 0 ∧
      decryptCache ssl algo history.crypto (some supply.cache) supply.size key 0 =
        (decrypt ssl algo (some supply.block) key
          (some (decOutput.buffer.drop decOutput.beginOffset)) 0).map fun ciphered =>
        let buffer := decOutput.buffer.take decOutput.beginOffset ++ ciphered.output.getD []
        let decOutput := { decOutput with buffer }
        if ciphered.ret then
          ⟨true, ⟨some decInput, some (decOutput.resize ciphered.outputLen)⟩, some supply.after,
            ciphered.outputLen⟩
        else ⟨false, ⟨some decInput, some decOutput⟩, some supply.after, ciphered.outputLen⟩ := by
  have positive := supply.positive
  have front : (allocated history.crypto.decInput supply.size).beginOffset = 0 :=
    allocated_keeps (fun buff => buff.beginOffset = 0) books.input rfl
  have room := allocated_capacity history.crypto.decInput supply.size
  obtain ⟨buffer, copied, data, _⟩ := filled_data front room supply.counted supply.enough
  refine ⟨{ (allocated history.crypto.decInput supply.size).resize supply.size with buffer }, ?_, ?_⟩
  · rw [IOBuffer.resize]
    split
    · exact front
    · rfl
  · rw [decryptCache, allocateDecryptCache, if_neg (by omega)]
    simp only [fillDecInput, if_neg (show ¬ supply.size = 0 by omega), supply.read, Option.bind_some,
      copied, Option.map_some, supply.enough, decide_true, Bool.true_eq_false, if_false, data]

/-- A call that fits is defined and leaves the books in order. -/
theorem step_fits (streamed : ∀ key input, (ssl.rc4 key input).length = input.length)
    (books : Books history) (call : Call) (fits : Fits ssl history call) :
    ∃ reply next, step ssl history call = some (reply, next) ∧ Books next := by
  cases call with
  | decryptCache algo supply key =>
    obtain ⟨ok, bytes, puts, room⟩ := fits
    have valid := allocated_valid books supply
    obtain ⟨decInput, front, called⟩ := @decryptCache_eq _ ssl _ books algo supply key
    obtain ⟨size, resized, data⟩ := landed_data valid room
    have plain := plainText_putOut puts
    obtain ⟨none_put, _⟩ | ⟨ok', bytes', count, puts', counts, decrypted⟩ :=
      decrypt_putOut streamed algo key supply.block ((allocated history.crypto.decOutput
        supply.size).buffer.drop (allocated history.crypto.decOutput supply.size).beginOffset) 0
    · rw [puts] at none_put
      cases none_put
    rw [puts] at puts'
    cases puts'
    have length : (allocated history.crypto.decOutput supply.size).buffer.length =
      (allocated history.crypto.decOutput supply.size).capacity := rfl
    rw [copyIn_front (by rw [List.length_drop]; omega)] at decrypted
    rw [step, called, decrypted]
    refine ⟨_, _, rfl, ?_⟩
    cases ok with
    | true =>
      cases counts rfl
      constructor
      · intro buff held
        cases held
        exact front
      · intro buff held
        cases held
        exact resized
      · intro buff held _
        cases held
        rw [plain]
        exact data
      · exact List.nil_prefix
    | false =>
      constructor
      · intro buff held
        cases held
        exact front
      · intro buff held
        cases held
        refine ⟨valid.ordered, ?_, ?_⟩
        · rw [IOBuffer.capacity]
          simp only [Option.getD_some, size]
          exact valid.inside
        · rw [IOBuffer.capacity]
          simp only [Option.getD_some, size]
          exact valid.addressed
      · intro _ _ some_plain
        rw [plain] at some_plain
        exact absurd rfl some_plain
      · exact List.nil_prefix
  | readDecCache len =>
    rw [step, readDecCache]
    by_cases nothing : len.toNat = 0
    · rw [if_pos nothing]
      refine ⟨_, _, rfl, books.input, books.output, ?_, ?_⟩
      · simp only [List.append_nil]
        exact books.unread
      · simp only [List.append_nil]
        exact books.told
    · obtain ⟨decOutput, held, spent⟩ := fits nothing
      have valid := books.output _ held
      have size := valid.data_length
      have within : min len.toNat decOutput.size ≤ decOutput.size := Nat.min_le_right _ _
      obtain ⟨copied, left⟩ := consumed_data valid within
      rw [if_neg nothing, held, Option.bind_some]
      simp only [copied, Option.map_some]
      refine ⟨_, _, rfl, books.input, ?_, ?_, ?_⟩
      · intro buff same
        cases same
        exact valid.consume within
      · intro buff same some_plain
        cases same
        rw [left, books.unread _ held some_plain, List.length_append, List.length_take, List.drop_drop]
        have unread := congrArg List.length (books.unread _ held some_plain)
        congr 2
        omega
      · by_cases no_plain : history.plain = []
        · have empty := spent no_plain
          have prior := books.told
          rw [empty, Nat.min_zero, List.take_zero, List.append_nil]
          exact prior
        · obtain ⟨rest, whole⟩ := books.told
          rw [books.unread _ held no_plain, ← whole, List.drop_left]
          exact (List.prefix_append_right_inj _).mpr (List.take_prefix _ _)

/-- A call that is defined and keeps to the last block fits. -/
theorem fits_of_step (streamed : ∀ key input, (ssl.rc4 key input).length = input.length)
    (books : Books history) (call : Call) (taken : step ssl history call = some (reply, next))
    (reads : next.told <+: next.plain) : Fits ssl history call := by
  cases call with
  | decryptCache algo supply key =>
    have valid := allocated_valid books supply
    obtain ⟨decInput, _, called⟩ := @decryptCache_eq _ ssl _ books algo supply key
    rw [step, called] at taken
    obtain ⟨none_put, undefined⟩ | ⟨ok, bytes, count, puts, _, decrypted⟩ :=
      decrypt_putOut streamed algo key supply.block ((allocated history.crypto.decOutput
        supply.size).buffer.drop (allocated history.crypto.decOutput supply.size).beginOffset) 0
    · rw [undefined] at taken
      cases taken
    · refine ⟨ok, bytes, puts, ?_⟩
      rw [decrypted] at taken
      cases copied : copyIn ((allocated history.crypto.decOutput supply.size).buffer.drop
          (allocated history.crypto.decOutput supply.size).beginOffset) 0 bytes with
      | none =>
        rw [copied] at taken
        cases taken
      | some out =>
        have inside := (copyIn_inside copied).1
        have ordered := valid.ordered
        have offset := valid.inside
        rw [List.length_drop] at inside
        rw [IOBuffer.capacity] at offset ⊢
        omega
  | readDecCache len =>
    intro some_len
    rw [step, readDecCache, if_neg some_len] at taken
    cases held : history.crypto.decOutput with
    | none =>
      rw [held] at taken
      cases taken
    | some decOutput =>
      refine ⟨decOutput, rfl, fun no_plain => ?_⟩
      have valid := books.output _ held
      obtain ⟨copied, _⟩ := consumed_data valid (Nat.min_le_right len.toNat decOutput.size)
      rw [held, Option.bind_some] at taken
      simp only [copied, Option.map_some] at taken
      cases taken
      have size := valid.data_length
      simp only [no_plain, List.prefix_nil, List.append_eq_nil_iff] at reads
      have none_read := congrArg List.length reads.2
      rw [List.length_take, size, List.length_nil] at none_read
      omega

/-- In every run with enough data the decryption stays inside its buffer and what is read
is a prefix of the decryption of the last block, exactly when every call fits. -/
theorem reads_last_block_iff (streamed : ∀ key input, (ssl.rc4 key input).length = input.length)
    (calls : List Call) :
    AllTaken (step ssl) (fun _ _ _ next => next.told <+: next.plain) {} calls ↔
      AllSteps (step ssl) (Fits ssl) {} calls := by
  apply all_taken_iff Books
  · intro history call books
    constructor
    · rintro ⟨reply, next, taken, reads⟩
      exact fits_of_step streamed books call taken reads
    · intro fits
      obtain ⟨reply, next, taken, after⟩ := step_fits streamed books call fits
      exact ⟨reply, next, taken, after.told⟩
  · intro history call reply next books fits taken
    obtain ⟨reply', next', taken', after⟩ := step_fits streamed books call fits
    rw [taken] at taken'
    cases taken'
    exact after
  · exact ⟨fun _ none => absurd none (by simp), fun _ none => absurd none (by simp),
      fun _ none => absurd none (by simp), List.nil_prefix⟩

end

theorem openSsl_streamed (key input : Bytes) : (Library.openSsl.rc4 key input).length = input.length :=
  Library.combine_length (Nat.le_of_eq (Library.keyStream_length _ _ _ _).symm)

/-- Four bytes of a small cache. -/
def fourBytes : Supply where
  cache := ⟨[1, 2, 3, 4, 0, 0, 0, 0], 0, 4, 8⟩
  size := 4
  positive := by decide
  counted := by decide
  block := [1, 2, 3, 4]
  after := ⟨[1, 2, 3, 4, 0, 0, 0, 0], 4, 4, 8⟩
  read := rfl
  enough := rfl

/-- A block read whole makes room for the next. -/
theorem read_whole_reads :
    AllTaken (step Library.openSsl) (fun _ _ _ next => next.told <+: next.plain) {}
      [.decryptCache .rc4 fourBytes [7], .readDecCache 3, .readDecCache 9,
        .decryptCache .rc4 fourBytes [7], .readDecCache 2] :=
  (reads_last_block_iff openSsl_streamed _).mpr (by decide +kernel)

/-- With one byte read of the first block the second is written behind the buffer. -/
theorem second_block_outside :
    run (step Library.openSsl) {} [.decryptCache .rc4 fourBytes [7], .readDecCache 1,
      .decryptCache .rc4 fourBytes [7]] = none ∧
    ¬ AllTaken (step Library.openSsl) (fun _ _ _ next => next.told <+: next.plain) {}
      [.decryptCache .rc4 fourBytes [7], .readDecCache 1, .decryptCache .rc4 fourBytes [7]] := by
  have undefined : run (step Library.openSsl) {} [.decryptCache .rc4 fourBytes [7], .readDecCache 1,
      .decryptCache .rc4 fourBytes [7]] = none := by
    have none_left : (run (step Library.openSsl) {} [.decryptCache .rc4 fourBytes [7], .readDecCache 1,
        .decryptCache .rc4 fourBytes [7]]).isNone = true := by decide +kernel
    exact Option.isNone_iff_eq_none.mp none_left
  refine ⟨undefined, ?_⟩
  rintro ⟨_, _, first, _, _, _, second, _, _, _, third, _⟩
  rw [run_cons_some first (run_cons_some second (run_cons_some third rfl))] at undefined
  cases undefined

end BeeSdk.DecryptCache
