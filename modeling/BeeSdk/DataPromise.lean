import BeeSdk.ByteOrder
import BeeSdk.Runs
import BeeSdk.VideoCache

/-! The promises of `LuaVideoCache`: a coroutine whose read finds too little data
leaves a promise in `data_promice_`, which a writer honors and the next waiting
call gives up. Both resume the coroutine on the stack of the call that does so,
and the script may call the cache again before that call goes on. -/
namespace BeeSdk.DataPromise
open VideoCache

inductive DataTypeId where
  | int8 | uint8 | int16 | uint16 | int32 | uint32 | int64 | uint64 | double | byteArray | string
  deriving DecidableEq

def kDataTypeSize : DataTypeId → Nat
  | .int8 | .uint8 | .byteArray | .string => 1
  | .int16 | .uint16 => 2
  | .int32 | .uint32 => 4
  | .int64 | .uint64 | .double => 8

structure DataField where
  type : DataTypeId := .int32
  length : Nat := 1
  hton : Bool := false
  deriving DecidableEq

/-- `READ_SOME`, `READ_EXACTLY` and `READ_ENOUGH`. -/
inductive DataCompletionCondition where
  | some
  | exactly (size : Nat)
  | enough (size : Nat)
  deriving DecidableEq

def DataCompletionCondition.holds : DataCompletionCondition → Nat → Bool
  | .some, len => 0 < len
  | .exactly size, len => len = size
  | .enough size, len => size ≤ len

/-- `DataCompCondFactory::create`. -/
def DataCompletionCondition.create (conditon : Int32) (len : Nat) : DataCompletionCondition :=
  if conditon = 0 then .some else if conditon = 1 then .exactly len else .enough len

/-! ### `Scanf` -/

/-- The lengths `Scanf` passes to `ReadData` for one field. -/
def readsOf (field : DataField) : List UInt32 :=
  match field.type with
  | .byteArray | .string => [UInt32.ofNat field.length]
  | type => List.replicate field.length (UInt32.ofNat (kDataTypeSize type))

def readAll (cache : LuaVideoCache) : List UInt32 → Option LuaVideoCache
  | [] => some cache
  | len :: rest => (cache.readData len).bind fun (_, cache) => readAll cache rest

/-- `LuaVideoCache::Scanf`: its result and what it leaves in the cache. -/
def scanf (cache : LuaVideoCache) (format : List DataField) : Option (Int32 × LuaVideoCache) :=
  if format = [] then some (-1, cache)
  else (readAll cache (format.flatMap readsOf)).map fun cache => (Int32.ofNat format.length, cache)

/-- The `total_size` of a format, an `int32_t`. -/
def totalSize (format : List DataField) : Int32 :=
  format.foldl (fun total field => total + Int32.ofNat (kDataTypeSize field.type * field.length)) 0

/-! ### Promises -/

/-- `LuaReadPromise` and the classes derived from it. -/
inductive Kind where
  | read
  | waitUntil
  | scanf (format : List DataField)
  deriving DecidableEq

/-- A promise, but for its `honored_`; `id` is the object the pointers share. -/
structure Promise where
  id : Nat
  kind : Kind
  length : Nat
  condition : DataCompletionCondition
  co : Nat
  deriving DecidableEq

def Promise.completed (promise : Promise) (cache : LuaVideoCache) : Bool :=
  promise.condition.holds cache.getDataSize.toNat

/-- `do_honor` up to its `lua_resume`, with whether it gets there. -/
def Promise.doHonor (promise : Promise) (cache : LuaVideoCache) : Option (Bool × LuaVideoCache) :=
  match promise.kind with
  | .read =>
    if promise.length = 0 then some (false, cache)
    else (cache.readData (UInt32.ofNat promise.length)).map fun (_, cache) => (true, cache)
  | .waitUntil => some (promise.length ≠ 0, cache)
  | .scanf format =>
    (DataPromise.scanf cache format).map fun (rs, cache) => (rs = Int32.ofNat format.length, cache)

/-- What stands on the stack: a coroutine that runs or waits for what it called,
and the two calls that go on when the coroutine they resumed is back. -/
inductive Frame where
  | coroutine (co : Nat)
  | promiseWriteData (promise : Promise)
  | makePromise (old promise : Promise) (yields : Bool)
  deriving DecidableEq

/-- The promise whose coroutine the call has resumed. -/
def Frame.resolving : Frame → Option Promise
  | .coroutine _ => none
  | .promiseWriteData promise => some promise
  | .makePromise old _ _ => some old

/-- The cache with its promise and the threads of the script. -/
structure Machine where
  cache : LuaVideoCache
  dataPromice : Option Promise := none
  honored : List Nat := []
  made : Nat := 0
  finished : List Nat := []
  stack : List Frame := []

/-- What a step tells: a promise was installed, by a call made inside the resume of
another one or not, and the coroutine of a promise was resumed. -/
inductive Event where
  | installed (promise : Promise) (nested : Bool)
  | resumed (promise : Promise)
  deriving DecidableEq

namespace Machine

/-- Only a coroutine that neither runs, nor waits for what it called, nor has
ended is resumed. -/
def suspended (machine : Machine) (co : Nat) : Bool :=
  co ∉ machine.finished ∧ .coroutine co ∉ machine.stack

/-- `lua_resume` called in the given frame; nothing but an error comes back where
the coroutine is not suspended. -/
def luaResume (machine : Machine) (co : Nat) (caller : Frame) : Option Machine :=
  if machine.suspended co then
    some { machine with stack := .coroutine co :: caller :: machine.stack }
  else none

def honor (machine : Machine) (promise : Promise) : Machine :=
  { machine with honored := promise.id :: machine.honored }

/-- Whether the running coroutine was resumed for a promise, at whatever depth. -/
def nested (machine : Machine) : Bool := machine.stack.any fun frame => frame.resolving.isSome

/-- The end of `MakePromise` and of the call it was made for: `SyncReadData` yields,
`Scanf` and `WaitUntil` return what `wait` gave them. -/
def install (machine : Machine) (promise : Promise) (yields : Bool) : List Event × Machine :=
  ([.installed promise machine.nested],
    { machine with
      dataPromice := some promise
      stack := if yields then machine.stack.drop 1 else machine.stack })

def makePromise (machine : Machine) (promise : Promise) (yields : Bool) : List Event × Machine :=
  match machine.dataPromice with
  | none => machine.install promise yields
  | some old =>
    if old.id ∈ machine.honored then machine.install promise yields
    else
      match machine.luaResume old.co (.makePromise old promise yields) with
      | some resumed => ([.resumed old], resumed)
      | none => (machine.honor old).install promise yields

def promiseWriteData (machine : Machine) (buf : Source) : Option (List Event × Machine) :=
  (machine.cache.writeData buf).bind fun (_, cache) =>
    let machine := { machine with cache }
    match machine.dataPromice with
    | none => some ([], machine)
    | some promise =>
      if ¬ promise.completed cache then some ([], machine)
      else if promise.id ∈ machine.honored then some ([], { machine with dataPromice := none })
      else
        (promise.doHonor cache).map fun (ready, cache) =>
          let machine := { machine with cache }
          if ¬ ready then ([], { machine with dataPromice := none })
          else
            match machine.luaResume promise.co (.promiseWriteData promise) with
            | some resumed => ([.resumed promise], resumed)
            | none => ([], { machine.honor promise with dataPromice := none })

/-- Behind the `lua_resume` of a call: `honored_` is set, and the call goes on. -/
def proceed (machine : Machine) : Option (List Event × Machine) :=
  match machine.stack with
  | .promiseWriteData promise :: stack =>
    let machine := { machine.honor promise with stack }
    if machine.dataPromice.map Promise.id = some promise.id then
      some ([], { machine with dataPromice := none })
    else some ([], machine)
  | .makePromise old promise yields :: stack =>
    some (({ machine.honor old with stack } : Machine).install promise yields)
  | _ => none

end Machine

/-! ### The calls of a coroutine -/

/-- What a call leaves of the cache, and the promise it has to wait for. -/
structure Asked where
  cache : LuaVideoCache
  waits : Option (Promise × Bool) := none

def luaSyncReadData (machine : Machine) (co : Nat) (len : UInt32) (cond : Int32) : Option Asked :=
  if len = 0 then some { cache := machine.cache }
  else
    let condition := DataCompletionCondition.create cond len.toNat
    let promise := ⟨machine.made, .read, len.toNat, condition, co⟩
    if condition.holds machine.cache.getDataSize.toNat then
      (machine.cache.readData len).map fun (bytes, cache) =>
        if 0 < (UInt32.ofNat bytes.length).toInt32 then { cache }
        else { cache, waits := some (promise, true) }
    else some { cache := machine.cache, waits := some (promise, true) }

def luaScanf (machine : Machine) (co : Nat) (format : List DataField) : Option Asked :=
  let size := ByteOrder.toSizeT (totalSize format)
  let promise := ⟨machine.made, .scanf format, size, .enough size, co⟩
  if (DataCompletionCondition.enough size).holds machine.cache.getDataSize.toNat then
    (scanf machine.cache format).map fun (ret, cache) =>
      if 0 < ret then { cache } else { cache, waits := some (promise, false) }
  else some { cache := machine.cache, waits := some (promise, false) }

def luaWaitUntil (machine : Machine) (co : Nat) (len : UInt64) : Option Asked :=
  let condition := DataCompletionCondition.enough len.toNat
  if condition.holds machine.cache.getDataSize.toNat then some { cache := machine.cache }
  else
    some { cache := machine.cache,
           waits := some (⟨machine.made, .waitUntil, len.toNat, condition, co⟩, false) }

inductive Ask where
  | syncReadData (len : UInt32) (cond : Int32)
  | scanf (format : List DataField)
  | waitUntil (len : UInt64)
  deriving DecidableEq

def Ask.asked (machine : Machine) (co : Nat) : Ask → Option Asked
  | .syncReadData len cond => luaSyncReadData machine co len cond
  | .scanf format => luaScanf machine co format
  | .waitUntil len => luaWaitUntil machine co len

/-- What may happen next. A producer may write and a call may be made to the cache
at any time the script or nobody runs, and so may a coroutine be resumed by the
script or the host; where a call has been resumed for, only it goes on. -/
inductive Request where
  | promiseWriteData (buf : Source)
  | call (call : VideoCache.Call)
  | resume (co : Nat)
  | ask (ask : Ask)
  | yields
  | finish
  | proceed

/-- One step, undefined where a call to the cache is and where the request cannot
come next. -/
def step (machine : Machine) (request : Request) : Option (List Event × Machine) :=
  match machine.stack, request with
  | _, .proceed => machine.proceed
  | .promiseWriteData _ :: _, _ => none
  | .makePromise _ _ _ :: _, _ => none
  | _, .promiseWriteData buf => machine.promiseWriteData buf
  | _, .call call => (VideoCache.step machine.cache call).map fun (_, cache) => ([], { machine with cache })
  | stack, .resume co =>
    if machine.suspended co then some ([], { machine with stack := .coroutine co :: stack })
    else some ([], machine)
  | [], _ => none
  | .coroutine co :: _, .ask ask =>
    (ask.asked machine co).map fun asked =>
      match asked.waits with
      | none => ([], { machine with cache := asked.cache })
      | some (promise, yields) =>
        { machine with cache := asked.cache, made := machine.made + 1 }.makePromise promise yields
  | .coroutine _ :: stack, .yields => some ([], { machine with stack })
  | .coroutine co :: stack, .finish =>
    some ([], { machine with stack, finished := co :: machine.finished })

/-- A cache nobody waits for, before any coroutine runs. -/
def start (cache : LuaVideoCache) : Machine × List Event := ({ cache }, [])

/-! ### What is promised -/

def Event.resumed? : Event → Option Promise
  | .installed _ _ => none
  | .resumed promise => some promise

def Event.installed? : Event → Option Promise
  | .installed promise _ => some promise
  | .resumed _ => none

/-- No promise is resolved twice, and a promise a nested call installed is still
installed unless it was resolved. -/
structure Kept (recorded : Machine × List Event) : Prop where
  once : (recorded.2.filterMap Event.resumed?).Nodup
  stays : ∀ promise, .installed promise true ∈ recorded.2 →
    .resumed promise ∈ recorded.2 ∨ recorded.1.dataPromice = some promise

/-- The promise can be resolved: it is not `honored_` and its coroutine can be
resumed. -/
def Machine.Resolvable (machine : Machine) (promise : Promise) : Prop :=
  promise.id ∉ machine.honored ∧ machine.suspended promise.co = true

/-- The ways an installed promise is taken out although nobody is resumed for it:
a write completes it and it cannot be resolved or `do_honor` fails, a call that
waits replaces it and it cannot be resolved, or it was installed while another
promise was given up and that `MakePromise` goes on. -/
def TakesOut (machine : Machine) (promise : Promise) : Request → Prop
  | .promiseWriteData buf => ∃ len cache, machine.cache.writeData buf = some (len, cache) ∧
    promise.completed cache = true ∧
      (¬ machine.Resolvable promise ∨ ∃ after, promise.doHonor cache = some (false, after))
  | .ask ask => ¬ machine.Resolvable promise ∧
    ∃ co asked, machine.stack.head? = some (.coroutine co) ∧
      ask.asked machine co = some asked ∧ asked.waits.isSome = true
  | .proceed => ∃ old next yields, machine.stack.head? = some (.makePromise old next yields)
  | _ => False

/-- A promise that a nested call installed and nobody was resumed for yet is not
taken out. -/
def Waits (recorded : Machine × List Event) (request : Request) : Prop :=
  ∀ promise, recorded.1.dataPromice = some promise → .installed promise true ∈ recorded.2 →
    .resumed promise ∉ recorded.2 → ¬ TakesOut recorded.1 promise request

end BeeSdk.DataPromise
