import BeeSdk.ByteOrder
import BeeSdk.RingRounds

/-! XXTEA: the words of a text in a ring, each changed by its neighbours and the key in
round after round, and the same rounds taken back. The machine is little-endian, memory
suffices, and a text to encrypt has fewer than 2^32 words. -/
namespace BeeSdk.Xxtea
open ByteOrder

def DELTA : UInt32 := 0x9e3779b9

/-- The macro `MX`. -/
def MX (key : List UInt32) (sum e p z y : UInt32) : UInt32 :=
  (((z >>> 5) ^^^ (y <<< 2)) + ((y >>> 3) ^^^ (z <<< 4))) ^^^
    ((sum ^^^ y) + (key.getD ((p &&& 3) ^^^ e).toNat 0 ^^^ z))

/-- The macro `FIXED_KEY`: of the sixteen bytes at the key, those behind the first zero
become zero. -/
def fixedKey (key : Vector UInt8 16) : List UInt8 :=
  let kept := key.toList.takeWhile (· ≠ 0)
  kept ++ List.replicate (16 - kept.length) 0

/-- Words of four bytes, the last filled up with zeros, and the length behind them if it
is asked for. -/
def xxteaToUintArray (data : List UInt8) (incLen : Bool) : List UInt32 :=
  let n := if data.length % 4 = 0 then data.length / 4 else data.length / 4 + 1
  let out := (List.range n).map fun i => UInt32.ofNat (loadLittle ((data.drop (4 * i)).take 4))
  if incLen then out ++ [UInt32.ofNat data.length] else out

/-- The bytes of the words. Where the last word is a length, it has to be one the other
words can have; there are other words, or `n - 3` is beyond every length. -/
def xxteaToUbyteArray (data : List UInt32) (incLen : Bool) : Option (List UInt8) :=
  let bytes := data.flatMap fun word => storeLittle 4 word.toNat
  let n := 4 * data.length
  if incLen then
    let m := (data.getD (data.length - 1) 0).toNat
    let n := n - 4
    if n = 0 ∨ m < n - 3 ∨ n < m then none else some (bytes.take m)
  else some (bytes.take n)

/-- One turn of the inner loop of `xxtea_uint_encrypt`. -/
def encryptStep (key : List UInt32) (sum e : UInt32) (state : List UInt32 × UInt32) (p : Nat) :
    List UInt32 × UInt32 :=
  let (data, z) := state
  let y := data.getD (p + 1) 0
  let z := data.getD p 0 + MX key sum e (UInt32.ofNat p) z y
  (data.set p z, z)

/-- One turn of the outer loop of `xxtea_uint_encrypt`. -/
def encryptRound (key : List UInt32) (n : Nat) (sum : UInt32) (state : List UInt32 × UInt32) :
    List UInt32 × UInt32 :=
  let e := (sum >>> 2) &&& 3
  let (data, z) := (List.range n).foldl (encryptStep key sum e) state
  let y := data.getD 0 0
  let z := data.getD n 0 + MX key sum e (UInt32.ofNat n) z y
  (data.set n z, z)

def encryptLoop (key : List UInt32) (n : Nat) :
    Nat → UInt32 → List UInt32 × UInt32 → List UInt32
  | 0, _, state => state.1
  | q + 1, sum, state =>
    let sum := sum + DELTA
    encryptLoop key n q sum (encryptRound key n sum state)

def xxteaUintEncrypt (data key : List UInt32) : List UInt32 :=
  let n := data.length - 1
  let q := 6 + 52 / (n + 1)
  if n < 1 then data else encryptLoop key n q 0 (data, data.getD n 0)

/-- One turn of the inner loop of `xxtea_uint_decrypt`, where `p` is not zero. -/
def decryptStep (key : List UInt32) (sum e : UInt32) (state : List UInt32 × UInt32) (p : Nat) :
    List UInt32 × UInt32 :=
  let (data, y) := state
  let z := data.getD (p - 1) 0
  let y := data.getD p 0 - MX key sum e (UInt32.ofNat p) z y
  (data.set p y, y)

/-- One turn of the outer loop of `xxtea_uint_decrypt`. -/
def decryptRound (key : List UInt32) (n : Nat) (sum : UInt32) (state : List UInt32 × UInt32) :
    List UInt32 × UInt32 :=
  let e := (sum >>> 2) &&& 3
  let (data, y) := ((List.range n).map (· + 1)).reverse.foldl (decryptStep key sum e) state
  let z := data.getD n 0
  let y := data.getD 0 0 - MX key sum e 0 z y
  (data.set 0 y, y)

/-- Goes on until the sum is zero, and is undefined where the fuel does not reach. -/
def decryptLoop (key : List UInt32) (n : Nat) :
    Nat → UInt32 → List UInt32 × UInt32 → Option (List UInt32)
  | 0, _, _ => none
  | fuel + 1, sum, state =>
    if sum = 0 then some state.1
    else decryptLoop key n fuel (sum - DELTA) (decryptRound key n sum state)

/-- `n` has 32 bits, and `52 / (n + 1)` is undefined where it is the last of them. -/
def xxteaUintDecrypt (data key : List UInt32) : Option (List UInt32) :=
  let n := (data.length + 2 ^ 32 - 1) % 2 ^ 32
  if (n + 1) % 2 ^ 32 = 0 then none
  else
    let q := 6 + 52 / (n + 1)
    if n < 1 then some data
    else decryptLoop key n (q + 1) (UInt32.ofNat q * DELTA) (data, data.getD 0 0)

def xxteaUbyteEncrypt (data key : List UInt8) : Option (List UInt8) :=
  if data = [] then none
  else xxteaToUbyteArray
    (xxteaUintEncrypt (xxteaToUintArray data true) (xxteaToUintArray key false)) false

def xxteaUbyteDecrypt (data key : List UInt8) : Option (List UInt8) :=
  if data = [] then none
  else (xxteaUintDecrypt (xxteaToUintArray data false) (xxteaToUintArray key false)).bind
    (xxteaToUbyteArray · true)

def xxteaEncrypt (data : List UInt8) (key : Vector UInt8 16) : Option (List UInt8) :=
  xxteaUbyteEncrypt data (fixedKey key)

def xxteaDecrypt (data : List UInt8) (key : Vector UInt8 16) : Option (List UInt8) :=
  xxteaUbyteDecrypt data (fixedKey key)

end BeeSdk.Xxtea
