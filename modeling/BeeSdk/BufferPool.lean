import Mathlib.Data.List.AList
import BeeSdk.Runs

/-! The pool that packet buffers are taken from: a map that tells for every buffer of the
pool whether it is handed out, beside a list of those that are free. -/
namespace BeeSdk
open Runs

/-- The address of what `new char[PACKET_LEN]` returns. -/
abbrev Buffer := Nat

structure BufferPool where
  bufferMap : AList fun _ : Buffer => Bool := ∅
  freeBuffer : List Buffer := []

namespace BufferPool

/-- The pool, who holds its buffers, and what has gone through `new` and `delete`. An
address may be created again once it is deleted. -/
structure World where
  pool : BufferPool := {}
  /-- Handed out by `alloc` and not given back. -/
  allocated : List Buffer := []
  created : List Buffer := []
  deleted : List Buffer := []

inductive Request where
  /-- `fresh` is the address `new` would return. -/
  | alloc (fresh : Buffer)
  | free (buffer : Buffer)
  | reduceSpace

namespace World

/-- Created and not deleted since. -/
def Live (world : World) (buffer : Buffer) : Prop :=
  world.deleted.count buffer < world.created.count buffer

instance (world : World) (buffer : Buffer) : Decidable (world.Live buffer) :=
  inferInstanceAs (Decidable (_ < _))

/-- Undefined where `new` would return an address that is in use. -/
def alloc (world : World) (fresh : Buffer) : Option (Buffer × World) :=
  match world.pool.freeBuffer with
  | [] =>
    if world.Live fresh then none
    else some (fresh, { world with
      pool := { world.pool with bufferMap := world.pool.bufferMap.insert fresh true }
      allocated := fresh :: world.allocated
      created := world.created ++ [fresh] })
  | buffer :: rest =>
    some (buffer, { world with
      pool := { bufferMap := world.pool.bufferMap.insert buffer true, freeBuffer := rest }
      allocated := buffer :: world.allocated })

/-- Asked only of a buffer that is handed out. -/
def free (world : World) (buffer : Buffer) : Option World :=
  if buffer ∈ world.allocated then
    some { world with
      pool := { bufferMap := world.pool.bufferMap.insert buffer false
                freeBuffer := world.pool.freeBuffer ++ [buffer] }
      allocated := world.allocated.erase buffer }
  else none

def reduceSpace (world : World) : World :=
  { world with
    pool := { bufferMap := world.pool.freeBuffer.foldl (fun map buffer => map.erase buffer)
                world.pool.bufferMap
              freeBuffer := [] }
    deleted := world.deleted ++ world.pool.freeBuffer }

/-- `~BufferPool`: what the map has under a flag that is set is deleted. -/
def destroy (world : World) : World :=
  { world with
    pool := {}
    deleted := world.deleted ++
      (world.pool.bufferMap.entries.filter fun entry => entry.2).map fun entry => entry.1 }

/-- What is replied is the buffer `alloc` returns. -/
def step (world : World) : Request → Option (Option Buffer × World)
  | .alloc fresh => (world.alloc fresh).map fun (buffer, next) => (some buffer, next)
  | .free buffer => (world.free buffer).map fun next => (none, next)
  | .reduceSpace => some (none, world.reduceSpace)

/-- The buffers of the map are those that are free and those that are handed out, and none
is both or twice the same. -/
structure Parted (world : World) : Prop where
  tracked : ∀ buffer, buffer ∈ world.pool.bufferMap ↔
    buffer ∈ world.pool.freeBuffer ∨ buffer ∈ world.allocated
  once : (world.pool.freeBuffer ++ world.allocated).Nodup

/-- Every buffer has been deleted as often as it has been created. -/
def Balanced (world : World) : Prop :=
  ∀ buffer, world.deleted.count buffer = world.created.count buffer

end World

open World

/-- `alloc` returns nothing that is handed out, the pool is parted, and nothing has been
deleted that was not there. -/
structure Right (before : World) (request : Request) (reply : Option Buffer) (after : World) :
    Prop where
  fresh : ∀ buffer, reply = some buffer → buffer ∉ before.allocated
  parted : after.Parted
  deletes : ∀ buffer, after.deleted.count buffer ≤ after.created.count buffer

/-- The run is right, and every buffer it created has been deleted exactly once when the
pool is gone. -/
def Accounted (requests : List Request) (final : World) : Prop :=
  AllTaken step Right {} requests ∧ final.destroy.Balanced

/-- What the flags say of the lists, and how often each buffer has been deleted. -/
structure Booked (world : World) : Prop where
  allocated : ∀ buffer, world.pool.bufferMap.lookup buffer = some true ↔ buffer ∈ world.allocated
  free : ∀ buffer, world.pool.bufferMap.lookup buffer = some false ↔
    buffer ∈ world.pool.freeBuffer
  allocatedOnce : world.allocated.Nodup
  freeOnce : world.pool.freeBuffer.Nodup
  count : ∀ buffer, world.created.count buffer =
    world.deleted.count buffer + if buffer ∈ world.pool.bufferMap then 1 else 0

variable {world next : World}

theorem Booked.tracked (booked : Booked world) (buffer : Buffer) :
    buffer ∈ world.pool.bufferMap ↔ buffer ∈ world.pool.freeBuffer ∨ buffer ∈ world.allocated := by
  rw [← AList.lookup_isSome, ← booked.allocated, ← booked.free]
  cases world.pool.bufferMap.lookup buffer with
  | none => simp
  | some flag => cases flag <;> simp

theorem Booked.apart (booked : Booked world) {buffer : Buffer}
    (free : buffer ∈ world.pool.freeBuffer) : buffer ∉ world.allocated := by
  intro allocated
  have flagged := (booked.free buffer).mpr free
  rw [(booked.allocated buffer).mpr allocated] at flagged
  cases flagged

theorem Booked.parted (booked : Booked world) : world.Parted where
  tracked := booked.tracked
  once := booked.freeOnce.append booked.allocatedOnce fun _ => booked.apart

theorem Booked.live_iff (booked : Booked world) (buffer : Buffer) :
    world.Live buffer ↔ buffer ∈ world.pool.bufferMap := by
  have counted := booked.count buffer
  by_cases tracked : buffer ∈ world.pool.bufferMap
  · rw [if_pos tracked] at counted
    exact iff_of_true (by rw [Live, counted]; exact Nat.lt_succ_self _) tracked
  · rw [if_neg tracked] at counted
    exact iff_of_false (by rw [Live, counted]; exact Nat.lt_irrefl _) tracked

theorem Booked.deletes (booked : Booked world) (buffer : Buffer) :
    world.deleted.count buffer ≤ world.created.count buffer := by
  rw [booked.count]
  exact Nat.le_add_right _ _

private theorem lookup_flagged (map : AList fun _ : Buffer => Bool) (buffer other : Buffer)
    (flag : Bool) :
    (map.insert buffer flag).lookup other = if other = buffer then some flag else map.lookup other := by
  split
  · next same => rw [same, AList.lookup_insert]
  · next different => exact AList.lookup_insert_ne different

/-- A buffer nobody has, created and handed out. -/
theorem booked_created {fresh : Buffer} (booked : Booked world)
    (unused : ¬ world.Live fresh) :
    Booked { world with
      pool := { world.pool with bufferMap := world.pool.bufferMap.insert fresh true }
      allocated := fresh :: world.allocated
      created := world.created ++ [fresh] } := by
  have untracked : fresh ∉ world.pool.bufferMap := (booked.live_iff fresh).not.mp unused
  refine ⟨fun other => ?_, fun other => ?_, ?_, booked.freeOnce, fun other => ?_⟩
  · show (world.pool.bufferMap.insert fresh true).lookup other = some true ↔
      other ∈ fresh :: world.allocated
    rw [lookup_flagged, List.mem_cons, ← booked.allocated]
    split <;> simp [*]
  · show (world.pool.bufferMap.insert fresh true).lookup other = some false ↔
      other ∈ world.pool.freeBuffer
    rw [lookup_flagged]
    split
    · next same =>
      have unfree : other ∉ world.pool.freeBuffer := fun free =>
        untracked (same ▸ (booked.tracked other).mpr (.inl free))
      simp [unfree]
    · exact booked.free other
  · refine List.nodup_cons.mpr ⟨fun held => ?_, booked.allocatedOnce⟩
    exact untracked ((booked.tracked fresh).mpr (.inr held))
  · show (world.created ++ [fresh]).count other = world.deleted.count other +
      if other ∈ world.pool.bufferMap.insert fresh true then 1 else 0
    rw [List.count_append, booked.count other, List.count_singleton]
    by_cases same : other = fresh
    · rw [same, if_neg untracked, if_pos ((AList.mem_insert _).mpr (.inl rfl))]
      simp
    · simp [AList.mem_insert, same, Ne.symm same]

/-- The first of the free list, handed out again. -/
theorem booked_reused {buffer : Buffer} {rest : List Buffer} (booked : Booked world)
    (first : world.pool.freeBuffer = buffer :: rest) :
    Booked { world with
      pool := { bufferMap := world.pool.bufferMap.insert buffer true, freeBuffer := rest }
      allocated := buffer :: world.allocated } := by
  have free : buffer ∈ world.pool.freeBuffer := by rw [first]; exact List.mem_cons_self
  have tracked : buffer ∈ world.pool.bufferMap := (booked.tracked buffer).mpr (.inl free)
  obtain ⟨gone, once⟩ := List.nodup_cons.mp (first ▸ booked.freeOnce)
  refine ⟨fun other => ?_, fun other => ?_, ?_, once, fun other => ?_⟩
  · show (world.pool.bufferMap.insert buffer true).lookup other = some true ↔
      other ∈ buffer :: world.allocated
    rw [lookup_flagged, List.mem_cons, ← booked.allocated]
    split <;> simp [*]
  · show (world.pool.bufferMap.insert buffer true).lookup other = some false ↔ other ∈ rest
    rw [lookup_flagged]
    split
    · next same => simp [same, gone]
    · next different => rw [booked.free, first, List.mem_cons, or_iff_right different]
  · exact List.nodup_cons.mpr ⟨booked.apart free, booked.allocatedOnce⟩
  · show world.created.count other = world.deleted.count other +
      if other ∈ world.pool.bufferMap.insert buffer true then 1 else 0
    have same : other ∈ world.pool.bufferMap.insert buffer true ↔ other ∈ world.pool.bufferMap :=
      (AList.mem_insert _).trans (or_iff_right_of_imp fun here => here ▸ tracked)
    rw [booked.count other]
    simp only [same]

theorem booked_free {buffer : Buffer} (booked : Booked world) (held : buffer ∈ world.allocated) :
    Booked { world with
      pool := { bufferMap := world.pool.bufferMap.insert buffer false
                freeBuffer := world.pool.freeBuffer ++ [buffer] }
      allocated := world.allocated.erase buffer } := by
  have tracked : buffer ∈ world.pool.bufferMap := (booked.tracked buffer).mpr (.inr held)
  refine ⟨fun other => ?_, fun other => ?_, booked.allocatedOnce.erase _, ?_, fun other => ?_⟩
  · show (world.pool.bufferMap.insert buffer false).lookup other = some true ↔
      other ∈ world.allocated.erase buffer
    rw [lookup_flagged, booked.allocatedOnce.mem_erase_iff, ← booked.allocated]
    split <;> simp [*]
  · show (world.pool.bufferMap.insert buffer false).lookup other = some false ↔
      other ∈ world.pool.freeBuffer ++ [buffer]
    rw [lookup_flagged, List.mem_append, ← booked.free, List.mem_singleton]
    split <;> simp [*]
  · refine booked.freeOnce.append (List.nodup_singleton _) fun other free same => ?_
    cases List.mem_singleton.mp same
    exact booked.apart free held
  · show world.created.count other = world.deleted.count other +
      if other ∈ world.pool.bufferMap.insert buffer false then 1 else 0
    have same : other ∈ world.pool.bufferMap.insert buffer false ↔ other ∈ world.pool.bufferMap :=
      (AList.mem_insert _).trans (or_iff_right_of_imp fun here => here ▸ tracked)
    rw [booked.count other]
    simp only [same]

/-- What is left of a map when several buffers have been erased from it. -/
theorem lookup_erased (buffers : List Buffer) (map : AList fun _ : Buffer => Bool)
    (buffer : Buffer) :
    (buffers.foldl (fun map buffer => map.erase buffer) map).lookup buffer =
      if buffer ∈ buffers then none else map.lookup buffer := by
  induction buffers generalizing map with
  | nil => rfl
  | cons first rest ih =>
    rw [List.foldl_cons, ih]
    by_cases later : buffer ∈ rest
    · rw [if_pos later, if_pos (List.mem_cons_of_mem _ later)]
    · by_cases same : buffer = first
      · rw [if_neg later, same, AList.lookup_erase, if_pos List.mem_cons_self]
      · rw [if_neg later, AList.lookup_erase_ne same, if_neg (by simp [same, later])]

theorem booked_reduceSpace (booked : Booked world) : Booked world.reduceSpace := by
  have left : ∀ buffer, world.reduceSpace.pool.bufferMap.lookup buffer =
      if buffer ∈ world.pool.freeBuffer then none else world.pool.bufferMap.lookup buffer :=
    lookup_erased world.pool.freeBuffer world.pool.bufferMap
  refine ⟨fun buffer => ?_, fun buffer => ?_, booked.allocatedOnce, List.nodup_nil, fun buffer => ?_⟩
  · show _ ↔ buffer ∈ world.allocated
    rw [left, ← booked.allocated]
    split
    · next free => simp [(booked.free buffer).mpr free]
    · rfl
  · rw [left]
    split
    · simp [reduceSpace]
    · next used => simp [reduceSpace, booked.free, used]
  · show world.created.count buffer = (world.deleted ++ world.pool.freeBuffer).count buffer +
      if buffer ∈ world.reduceSpace.pool.bufferMap then 1 else 0
    rw [booked.count buffer, List.count_append]
    have tracked : buffer ∈ world.reduceSpace.pool.bufferMap ↔
        buffer ∉ world.pool.freeBuffer ∧ buffer ∈ world.pool.bufferMap := by
      rw [← AList.lookup_isSome, left, ← AList.lookup_isSome]
      split <;> simp [*]
    by_cases free : buffer ∈ world.pool.freeBuffer
    · rw [List.count_eq_one_of_mem booked.freeOnce free, if_neg fun here => (tracked.mp here).1 free,
        if_pos ((booked.tracked buffer).mpr (.inl free))]
    · rw [List.count_eq_zero_of_not_mem free]
      simp only [tracked, free, not_false_eq_true, true_and, Nat.add_zero]

theorem booked_step {request : Request} {reply : Option Buffer} (booked : Booked world)
    (taken : world.step request = some (reply, next)) : Booked next := by
  cases request with
  | alloc fresh =>
    simp only [step, alloc, Option.map_eq_some_iff] at taken
    obtain ⟨⟨buffer, after⟩, taken, same⟩ := taken
    cases same
    split at taken
    · split at taken
      · cases taken
      · next unused =>
        cases taken
        exact booked_created booked unused
    · next first =>
      cases taken
      exact booked_reused booked first
  | free buffer =>
    simp only [step, free, Option.map_eq_some_iff] at taken
    obtain ⟨after, taken, same⟩ := taken
    cases same
    split at taken
    · next held =>
      cases taken
      exact booked_free booked held
    · cases taken
  | reduceSpace =>
    cases taken
    exact booked_reduceSpace booked

/-- What `alloc` returns is not handed out. -/
theorem alloc_fresh {fresh buffer : Buffer} (booked : Booked world)
    (taken : world.alloc fresh = some (buffer, next)) : buffer ∉ world.allocated := by
  unfold alloc at taken
  split at taken
  · split at taken
    · cases taken
    · next unused =>
      cases taken
      exact fun held =>
        unused ((booked.live_iff fresh).mpr ((booked.tracked fresh).mpr (.inr held)))
  · next first =>
    cases taken
    exact booked.apart (by rw [first]; exact List.mem_cons_self)

theorem right_step {request : Request} {reply : Option Buffer} (booked : Booked world)
    (taken : world.step request = some (reply, next)) : Right world request reply next where
  fresh := by
    rintro buffer rfl
    cases request with
    | alloc fresh =>
      simp only [step, Option.map_eq_some_iff] at taken
      obtain ⟨⟨other, after⟩, taken, same⟩ := taken
      cases same
      exact alloc_fresh booked taken
    | free other => simp [step] at taken
    | reduceSpace => cases taken
  parted := (booked_step booked taken).parted
  deletes := (booked_step booked taken).deletes

theorem booked_start : Booked {} where
  allocated := by simp
  free := by simp
  allocatedOnce := List.nodup_nil
  freeOnce := List.nodup_nil
  count := by simp

/-- The destructor deletes what is handed out, each once. -/
theorem destroy_count (booked : Booked world) (buffer : Buffer) :
    world.destroy.deleted.count buffer =
      world.deleted.count buffer + if buffer ∈ world.allocated then 1 else 0 := by
  have once : ((world.pool.bufferMap.entries.filter fun entry => entry.2).map
      fun entry => entry.1).Nodup :=
    world.pool.bufferMap.keys_nodup.sublist (List.filter_sublist.map _)
  have flagged : buffer ∈ (world.pool.bufferMap.entries.filter fun entry => entry.2).map
      (fun entry => entry.1) ↔ buffer ∈ world.allocated := by
    rw [← booked.allocated, ← Option.mem_def, AList.mem_lookup_iff]
    simp only [List.mem_map, List.mem_filter]
    constructor
    · rintro ⟨⟨key, flag⟩, ⟨member, set⟩, rfl⟩
      cases set
      exact member
    · exact fun member => ⟨_, ⟨member, rfl⟩, rfl⟩
  show (world.deleted ++ _).count buffer = _
  rw [List.count_append]
  by_cases held : buffer ∈ world.allocated
  · rw [if_pos held, List.count_eq_one_of_mem once (flagged.mpr held)]
  · rw [if_neg held, List.count_eq_zero_of_not_mem (flagged.not.mpr held)]

/-- The destructor leaves the free buffers behind. -/
theorem balanced_iff (booked : Booked world) :
    world.destroy.Balanced ↔ world.pool.freeBuffer = [] := by
  have counted : ∀ buffer, world.destroy.deleted.count buffer = world.destroy.created.count buffer ↔
      buffer ∉ world.pool.freeBuffer := by
    intro buffer
    show _ = world.created.count buffer ↔ _
    rw [destroy_count booked, booked.count, Nat.add_left_cancel_iff]
    have tracked := booked.tracked buffer
    by_cases free : buffer ∈ world.pool.freeBuffer
    · simp [free, booked.apart free, tracked.mpr (.inl free)]
    · simp [free, tracked]
  rw [World.Balanced, forall_congr' counted, List.eq_nil_iff_forall_not_mem]

/-- In a run every buffer that was created is deleted exactly once, and all the rest is as
it should be, exactly when no buffer is free when the pool is destroyed. -/
theorem accounted_iff {requests : List Request} {replies : List (Option Buffer)} {final : World}
    (ran : run step {} requests = some (replies, final)) :
    Accounted requests final ↔ final.pool.freeBuffer = [] := by
  have met : AllSteps step (fun _ _ => True) {} requests := .of_forall fun _ _ _ => trivial
  have right : AllTaken step Right {} requests :=
    all_taken_of_defined Booked
      (fun _ _ _ _ booked _ taken => ⟨right_step booked taken, booked_step booked taken⟩)
      booked_start met ran
  have booked : Booked final :=
    run_preserves Booked (fun _ _ _ _ booked taken => booked_step booked taken) booked_start ran
  rw [Accounted, and_iff_right right, balanced_iff booked]

/-- One buffer is given back and deleted to reduce the space, the other is handed out still
when the pool goes. -/
theorem reduced_accounted :
    ∃ replies final,
      run step {} [.alloc 1, .alloc 2, .free 1, .reduceSpace] = some (replies, final) ∧
        Accounted [.alloc 1, .alloc 2, .free 1, .reduceSpace] final :=
  ⟨_, _, rfl, (accounted_iff rfl).mpr rfl⟩

/-- A buffer that has been given back is never deleted. -/
theorem free_buffer_stays :
    ¬ ∀ requests replies final, run step {} requests = some (replies, final) →
      Accounted requests final := by
  intro all
  have balanced := (all [.alloc 1, .free 1] _ _ rfl).2
  exact absurd (balanced 1) (by decide)

end BufferPool
end BeeSdk
