import Mathlib.Algebra.Group.Nat.Defs

/-! `gz_compress` and `gz_decompress`. zlib is a parameter: one call takes some of the
input and puts out some bytes. `uInt` has 32 bits and `uLong` 64; `none` stands for a
read behind `dummy_head` or a loop that has not ended. -/
namespace BeeSdk.Gz

abbrev Bytes := List UInt8

inductive ZCode where
  | ok
  | streamEnd
  | bufError
  | dataError
  | other
  deriving DecidableEq

/-- What one call returns, takes of its input and puts out. -/
structure Moved (State : Type) where
  code : ZCode
  taken : Nat
  put : Bytes
  state : State

/-- The calls into zlib with their `next_in`, `avail_in` and `avail_out`; `deflate` is told
whether to finish. -/
structure Zlib (Deflate Inflate : Type) where
  deflateInit : Option Deflate
  deflate (state : Deflate) (finish : Bool) (input : Bytes) (availOut : Nat) : Moved Deflate
  deflateEnd (state : Deflate) : Bool
  inflateInit : Option Inflate
  inflate (state : Inflate) (input : Bytes) (availOut : Nat) : Moved Inflate
  inflateEnd (state : Inflate) : Bool

/-- A `z_stream`: the bytes `next_in` leads to, the room left and what was put out. -/
structure ZStream (State : Type) where
  state : State
  nextIn : Bytes
  totalIn : Nat := 0
  availOut : Nat
  output : Bytes := []

/-- The stream after a call. -/
def ZStream.after {State : Type} (stream : ZStream State) (moved : Moved State) : ZStream State where
  state := moved.state
  nextIn := stream.nextIn.drop moved.taken
  totalIn := stream.totalIn + moved.taken
  availOut := stream.availOut - moved.put.length
  output := stream.output ++ moved.put

/-- What `gz_compress` returns and leaves in `zdata` and `*nzdata`. -/
structure Compressed where
  ret : Bool
  zdata : Bytes
  nzdata : Nat

/-- What `gz_decompress` returns and leaves in `data` and `*ndata`. -/
structure Decompressed where
  ret : Int
  data : Bytes
  ndata : Nat

def dummyHead : Bytes := [0x78, 0x01]

section
variable {Deflate Inflate : Type} (lib : Zlib Deflate Inflate)

/-- The loop that feeds the input; `false` where `deflate` failed. -/
def feed (nzdata : Nat) : Nat → ZStream Deflate → Option (Bool × ZStream Deflate)
  | 0, _ => none
  | fuel + 1, stream =>
    if stream.nextIn ≠ [] ∧ stream.output.length < nzdata then
      let moved := lib.deflate stream.state false stream.nextIn stream.availOut
      if moved.code ≠ .ok then some (false, stream.after moved)
      else feed nzdata fuel (stream.after moved)
    else some (true, stream)

/-- The loop that finishes the stream. -/
def finish : Nat → ZStream Deflate → Option (Bool × ZStream Deflate)
  | 0, _ => none
  | fuel + 1, stream =>
    let moved := lib.deflate stream.state true stream.nextIn stream.availOut
    match moved.code with
    | .streamEnd => some (true, stream.after moved)
    | .ok => finish fuel (stream.after moved)
    | _ => some (false, stream.after moved)

def gzCompress (data : Option Bytes) (nzdata : Nat) : Option Compressed :=
  match data with
  | none => some ⟨false, [], nzdata⟩
  | some data =>
    if data.length = 0 then some ⟨false, [], nzdata⟩
    else match lib.deflateInit with
      | none => some ⟨false, [], nzdata⟩
      | some state =>
        let stream : ZStream Deflate :=
          { state, nextIn := data.take (data.length % 2 ^ 32), availOut := nzdata % 2 ^ 32 }
        (feed lib nzdata (data.length + nzdata + 2) stream).bind fun (fed, stream) =>
        if fed = false then some ⟨false, stream.output, nzdata⟩
        -- returns with `*nzdata` as it was passed
        else if stream.nextIn ≠ [] then some ⟨true, stream.output, nzdata⟩
        else (finish lib (stream.availOut + 2) stream).map fun (finished, stream) =>
          if finished = false then ⟨false, stream.output, nzdata⟩
          else if lib.deflateEnd stream.state = false then ⟨false, stream.output, nzdata⟩
          else ⟨true, stream.output, stream.output.length⟩

/-- The loop over single bytes; `false` where it returns -1. -/
def inflateLoop (nzdata ndata : Nat) : Nat → ZStream Inflate → Option (Bool × ZStream Inflate)
  | 0, _ => none
  | fuel + 1, stream =>
    if stream.output.length < ndata ∧ stream.totalIn < nzdata then
      match stream.nextIn with
      | [] => none
      | byte :: _ =>
        let moved := lib.inflate stream.state [byte] 1
        let stream := { stream with availOut := 1 }.after moved
        match moved.code with
        | .streamEnd => some (true, stream)
        | .ok => inflateLoop nzdata ndata fuel stream
        | .dataError =>
          let moved := lib.inflate stream.state dummyHead stream.availOut
          let stream := { stream with nextIn := dummyHead }.after moved
          if moved.code ≠ .ok then some (false, stream) else inflateLoop nzdata ndata fuel stream
        | _ => some (false, stream)
    else some (true, stream)

def gzDecompress (zdata : Bytes) (ndata : Nat) : Option Decompressed :=
  match lib.inflateInit with
  | none => some ⟨-1, [], ndata⟩
  | some state =>
    (inflateLoop lib zdata.length ndata (zdata.length + ndata + 1)
      { state, nextIn := zdata, availOut := 0 }).map fun (inflated, stream) =>
    if inflated = false then ⟨-1, stream.output, ndata⟩
    else if lib.inflateEnd stream.state = false then ⟨-1, stream.output, ndata⟩
    else ⟨0, stream.output, stream.output.length⟩

/-! ### What the two are for -/

/-- Success of the one is a complete stream for the input, and success of the other on it
the input. -/
def Restores (Complete : Bytes → Bytes → Prop) (x : Bytes) (nzdata ndata : Nat) : Prop :=
  ∃ zipped, gzCompress lib (some x) nzdata = some zipped ∧ (zipped.ret = true →
    zipped.nzdata = zipped.zdata.length ∧ Complete x zipped.zdata ∧
    ∃ plain, gzDecompress lib zipped.zdata ndata = some plain ∧
      (plain.ret = 0 → plain.ndata = plain.data.length ∧ plain.data = x))

/-- zlib as it is documented. `Complete x y` says that `y` is a stream for `x`, `Deflating`
what was fed and put out to a state that is not finished yet, `Inflating` how much of `y`
was taken and how much of `x` put out. -/
structure Correct (Complete : Bytes → Bytes → Prop) (Deflating : Deflate → Bytes → Bytes → Prop)
    (Inflating : Inflate → Bytes → Bytes → Nat → Nat → Prop) : Prop where
  /-- A stream is one for one text only. -/
  unique : Complete x y → Complete x' y → x = x'
  begins : ∃ state, lib.deflateInit = some state ∧ Deflating state [] []
  /-- `deflate` stops when the input is taken or the room full. -/
  feeds : Deflating state fed put → input ≠ [] → 0 < availOut →
    let moved := lib.deflate state false input availOut
    moved.code = .ok ∧ moved.put.length ≤ availOut ∧ moved.taken ≤ input.length ∧
      (moved.taken < input.length → moved.put.length = availOut) ∧
      Deflating moved.state (fed ++ input.take moved.taken) (put ++ moved.put)
  full : (lib.deflate state flush input 0).code = .bufError
  /-- Told to finish it ends the stream where the room is enough, else it fills the room. -/
  ends : Deflating state fed put → 0 < availOut →
    let moved := lib.deflate state true [] availOut
    (moved.code = .streamEnd ∧ Complete fed (put ++ moved.put) ∧
        lib.deflateEnd moved.state = true) ∨
      (moved.code = .ok ∧ moved.put.length = availOut)
  unfinished : Deflating state fed put → ¬ Complete x put
  starts : ∃ state, lib.inflateInit = some state ∧ ∀ x y, Complete x y → Inflating state x y 0 0
  /-- From one byte into room for one `inflate` takes it or puts one out, and it ends the
  stream when all is taken and put out. -/
  drips : Inflating state x y taken put → y.drop taken = byte :: rest →
    let moved := lib.inflate state [byte] 1
    moved.taken ≤ 1 ∧ moved.put.length ≤ 1 ∧ moved.put = (x.drop put).take moved.put.length ∧
      put + moved.put.length ≤ x.length ∧
      ((moved.code = .ok ∧ 0 < moved.taken + moved.put.length ∧
          Inflating moved.state x y (taken + moved.taken) (put + moved.put.length)) ∨
        (moved.code = .streamEnd ∧ put + moved.put.length = x.length))
  inflateEnds : lib.inflateEnd state = true

/-! ### When they do it -/

/-- What of the text `avail_in` covers. -/
def counted (x : Bytes) : Bytes := x.take (x.length % 2 ^ 32)

/-- The first call, not made without input. -/
def Zlib.fed (state : Deflate) (input : Bytes) (availOut : Nat) : Moved Deflate :=
  if input = [] then ⟨.ok, 0, [], state⟩ else lib.deflate state false input availOut

/-- The output buffer is full before the input is taken. -/
def Stalls (x : Bytes) (nzdata : Nat) : Prop :=
  counted x ≠ [] ∧ nzdata < 2 ^ 32 ∧ (nzdata = 0 ∨
    ∀ state, lib.deflateInit = some state →
      (lib.deflate state false (counted x) nzdata).taken < (counted x).length)

/-- The stream zlib makes of an input where it ends within the room. -/
def Zlib.stream (input : Bytes) (availOut : Nat) : Option Bytes :=
  lib.deflateInit.bind fun state =>
  let moved := lib.fed state input availOut
  let last := lib.deflate moved.state true [] (availOut - moved.put.length)
  if moved.code = .ok ∧ moved.taken = input.length ∧ last.code = .streamEnd then
    some (moved.put ++ last.put)
  else none

/-- How much `inflate` has put out when the last byte is taken, with one byte of input and
room for one a call; `none` where the stream ends before the next call. -/
def Zlib.dripped : Nat → Inflate → Bytes → Nat → Option Nat
  | 0, _, _, _ => none
  | _ + 1, _, [], put => some put
  | fuel + 1, state, byte :: rest, put =>
    let moved := lib.inflate state [byte] 1
    if moved.code = .ok then
      Zlib.dripped fuel moved.state ((byte :: rest).drop moved.taken) (put + moved.put.length)
    else none

/-- No output is pending when the last byte of the stream is taken. -/
def KeepsUp (y x : Bytes) : Prop :=
  ∀ state, lib.inflateInit = some state → ∀ fuel put, lib.dripped fuel state y 0 = some put →
    put = x.length

end

end BeeSdk.Gz
