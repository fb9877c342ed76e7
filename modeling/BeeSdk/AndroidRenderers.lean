import BeeSdk.AndroidService
import Mathlib.Data.List.Nodup

/-! The renderers `connectInternal` opens, beside the service of the Android video room. They are
kept by user although it is streams that come and go: a remote leave releases what its user has
there, and nothing else releases anything. -/
namespace BeeSdk.AndroidRenderers
open AndroidService Runs

/-- A `BeeVideoRender` that is open, and the stream it was opened for; `id` tells the objects
apart. -/
structure Renderer where
  id : Nat
  uid : String
  streamName : String
  deriving DecidableEq

/-- `userTable` has one renderer for a uid. Beside it stand all that were opened, the calls of
their `dispose`, whether the room was disposed, and the renderers whose stream is not connected any
more. -/
structure Room where
  state : State
  userTable : List Renderer := []
  opened : List Renderer := []
  disposals : List Nat := []
  disposed : Bool := false
  gone : List Nat := []
  deriving DecidableEq

/-- A task of the executor runs: one that is called, a notification or the disposal. -/
inductive Request where
  | run (natives : Natives) (task : Task)
  | remoteMemberJoined (uid streamName : Option String) (success : Bool)
  | remoteMemberLeaved (uid streamName : Option String)
  | dispose
  deriving DecidableEq

namespace Room

/-- `userTable.get`. -/
def get (room : Room) (uid : String) : Option Renderer := room.userTable.find? (·.uid = uid)

/-- `userTable.put`. -/
def put (room : Room) (renderer : Renderer) : Room :=
  { room with userTable := renderer :: room.userTable.filter (·.uid ≠ renderer.uid) }

/-- `userTable.remove`. -/
def remove (room : Room) (uid : String) : Room :=
  { room with userTable := room.userTable.filter (·.uid ≠ uid) }

/-- The renderers that were opened for a stream. -/
def of (room : Room) (uid streamName : Option String) : List Nat :=
  (room.opened.filter fun renderer => some renderer.uid = uid ∧ some renderer.streamName = streamName).map
    Renderer.id

/-- What `connectInternal` does beside the service: it opens a renderer, which stays in the table
whether or not the command is executed. -/
def connects (room : Room) (uid streamName : String) (natives : Natives) : Room :=
  let renderer : Renderer := ⟨room.opened.length, uid, streamName⟩
  { room.put renderer with
    opened := room.opened ++ [renderer]
    gone := if natives.execute then room.gone else renderer.id :: room.gone }

def runTask (room : Room) (natives : Natives) (task : Task) : Room :=
  let state := (room.state.runTask natives task).2
  match task with
  | .connect (some uid) (some streamName) true true =>
    if room.state.isRegister then { room.connects uid streamName natives with state }
    else { room with state }
  | .leave _ =>
    if room.state.isRegister ∧ natives.execute then
      { room with state, gone := room.opened.map Renderer.id ++ room.gone }
    else { room with state }
  | _ => { room with state }

/-- `handleRemoteMemberJoined`; the sink is told, and that is all. -/
def handleRemoteMemberJoined (room : Room) (uid streamName : Option String) (success : Bool) : Room :=
  if success then room else { room with gone := room.of uid streamName ++ room.gone }

def handleRemoteMemberLeaved (room : Room) (uid streamName : Option String) : Room :=
  let room := { room with gone := room.of uid streamName ++ room.gone }
  match uid.bind room.get with
  | none => room
  | some renderer =>
    { room with disposals := room.disposals ++ [renderer.id] }.remove renderer.uid

/-- `disposeInternal`, which leaves the table as it is. -/
def disposeInternal (room : Room) : Room :=
  { room with disposed := true, state := { room.state with sink := false } }

/-- What the service and the sink have to say of it is left to the service. -/
def step (room : Room) : Request → Option (List Event × Room)
  | .run natives task => some ((room.state.runTask natives task).1, room.runTask natives task)
  | .remoteMemberJoined uid streamName success =>
    some (room.state.notify .onConnect, room.handleRemoteMemberJoined uid streamName success)
  | .remoteMemberLeaved uid streamName =>
    some (room.state.notify .onDisConnect, room.handleRemoteMemberLeaved uid streamName)
  | .dispose => some ([], room.disposeInternal)

end Room

/-- A new room. -/
def start : Room := { state := { service := .videoRoom } }

/-- No renderer is disposed twice, none whose stream is still connected, and all that were opened
are when the room is. -/
structure Owned (room : Room) : Prop where
  once : room.disposals.Nodup
  gone : ∀ id ∈ room.disposals, id ∈ room.gone
  atLast : room.disposed = true → ∀ renderer ∈ room.opened, renderer.id ∈ room.disposals

/-- Whom a task opens a renderer for, if the service is registered. -/
def opensFor : Task → Option String
  | .connect (some uid) (some _) true true => some uid
  | _ => none

/-- A stream is connected only where its user has no renderer, a user's renderer is that of the
stream that leaves, or of one that is gone, and none is left in the table when the room is
disposed. -/
def Kept (room : Room) : Request → Prop
  | .run _ task => ∀ uid ∈ opensFor task, room.state.isRegister = true →
    room.disposed = false ∧ ∀ renderer ∈ room.userTable, renderer.uid ≠ uid
  | .remoteMemberLeaved uid streamName => ∀ renderer ∈ room.userTable, some renderer.uid = uid →
    some renderer.streamName = streamName ∨ renderer.id ∈ room.gone
  | .dispose => room.userTable = []
  | .remoteMemberJoined .. => True

instance (room : Room) : ∀ request, Decidable (Kept room request)
  | .run _ task => inferInstanceAs (Decidable (∀ uid ∈ opensFor task, _ → _ ∧ _))
  | .remoteMemberJoined .. => isTrue trivial
  | .remoteMemberLeaved .. => inferInstanceAs (Decidable (∀ renderer ∈ room.userTable, _ → _ ∨ _))
  | .dispose => inferInstanceAs (Decidable (_ = _))

/-! ### Every renderer is in the table or disposed -/

/-- What is opened is numbered, what is in the table or disposed was opened, and it is in one of
them; and what the service is told takes nothing away. -/
structure Books (room : Room) : Prop where
  numbered : room.opened.map Renderer.id = List.range room.opened.length
  table : ∀ renderer ∈ room.userTable, renderer ∈ room.opened ∧ renderer.id ∉ room.disposals
  users : (room.userTable.map Renderer.uid).Nodup
  placed : ∀ renderer ∈ room.opened, renderer ∈ room.userTable ∨ renderer.id ∈ room.disposals
  disposals : ∀ id ∈ room.disposals, id < room.opened.length
  once : room.disposals.Nodup
  gone : ∀ id ∈ room.disposals, id ∈ room.gone
  empty : room.disposed = true → room.userTable = []

theorem Books.owned {room : Room} (books : Books room) : Owned room where
  once := books.once
  gone := books.gone
  atLast disposed renderer opened := by
    rcases books.placed renderer opened with held | disposed'
    · rw [books.empty disposed] at held
      cases held
    · exact disposed'

theorem books_start : Books start :=
  ⟨rfl, by simp [start], List.nodup_nil, by simp [start], by simp [start], List.nodup_nil,
    by simp [start], by simp [start]⟩

variable {room next : Room}

/-- Only more streams may be gone, and the service may be anything. -/
theorem Books.gone_grows (books : Books room) (state : State) {gone : List Nat}
    (grows : ∀ id ∈ room.gone, id ∈ gone) : Books { room with state, gone } :=
  ⟨books.numbered, books.table, books.users, books.placed, books.disposals, books.once,
    fun id disposed => grows id (books.gone id disposed), books.empty⟩

theorem Books.connects (books : Books room) {uid : String} (streamName : String) (natives : Natives)
    (undisposed : room.disposed = false) (free : ∀ renderer ∈ room.userTable, renderer.uid ≠ uid) :
    Books (room.connects uid streamName natives) := by
  have table : (room.connects uid streamName natives).userTable =
      ⟨room.opened.length, uid, streamName⟩ :: room.userTable := by
    have all : room.userTable.filter (·.uid ≠ uid) = room.userTable :=
      List.filter_eq_self.mpr fun renderer member => decide_eq_true (free renderer member)
    exact congrArg _ all
  have opened : (room.connects uid streamName natives).opened =
    room.opened ++ [⟨room.opened.length, uid, streamName⟩] := rfl
  refine ⟨?_, ?_, ?_, ?_, ?_, books.once, ?_, ?_⟩
  · rw [opened, List.map_append, books.numbered, List.length_append]
    exact (List.range_succ).symm
  · rw [table, opened]
    intro renderer member
    rcases List.mem_cons.mp member with rfl | member
    · exact ⟨List.mem_append_right _ List.mem_cons_self,
        fun disposed => absurd (books.disposals _ disposed) (Nat.lt_irrefl _)⟩
    · exact ⟨List.mem_append_left _ (books.table renderer member).1, (books.table renderer member).2⟩
  · rw [table, List.map_cons, List.nodup_cons]
    refine ⟨fun member => ?_, books.users⟩
    obtain ⟨renderer, held, same⟩ := List.mem_map.mp member
    exact free renderer held same
  · rw [table, opened]
    intro renderer member
    rcases List.mem_append.mp member with member | member
    · exact (books.placed renderer member).imp (List.mem_cons_of_mem _) id
    · rw [List.mem_singleton.mp member]
      exact .inl List.mem_cons_self
  · intro id disposed
    rw [opened, List.length_append]
    exact Nat.lt_add_right 1 (books.disposals id disposed)
  · intro id disposed
    have before := books.gone id disposed
    simp only [Room.connects]
    split
    · exact before
    · exact List.mem_cons_of_mem _ before
  · intro disposed
    exact absurd (undisposed.symm.trans disposed) (by decide)

/-- Of one number there is one renderer. -/
theorem Books.same (books : Books room) {first second : Renderer} (one : first ∈ room.opened)
    (other : second ∈ room.opened) (id : first.id = second.id) : first = second := by
  have distinct : (room.opened.map Renderer.id).Nodup := by
    rw [books.numbered]
    exact List.nodup_range
  exact List.inj_on_of_nodup_map distinct one other id

/-- A remote leave releases the renderer of its stream. -/
theorem Books.leaved (books : Books room) {uid streamName : Option String}
    (own : ∀ renderer ∈ room.userTable, some renderer.uid = uid →
      some renderer.streamName = streamName ∨ renderer.id ∈ room.gone) :
    Books (room.handleRemoteMemberLeaved uid streamName) := by
  have marked := books.gone_grows room.state (List.subset_append_right (room.of uid streamName) room.gone)
  rw [Room.handleRemoteMemberLeaved]
  cases found : uid.bind { room with gone := room.of uid streamName ++ room.gone }.get with
  | none => exact marked
  | some renderer =>
    obtain ⟨user, rfl, held⟩ := Option.bind_eq_some_iff.mp found
    rw [Room.get] at held
    have member : renderer ∈ room.userTable := List.mem_of_find?_eq_some held
    have same : renderer.uid = user := by simpa using List.find?_some held
    have opened := (books.table renderer member).1
    refine ⟨books.numbered, ?_, ?_, ?_, ?_, ?_, ?_, ?_⟩
    · intro other kept
      obtain ⟨kept, different⟩ := List.mem_filter.mp kept
      refine ⟨(books.table other kept).1, fun disposed => ?_⟩
      rcases List.mem_append.mp disposed with before | now
      · exact (books.table other kept).2 before
      · have one := books.same (books.table other kept).1 opened (List.mem_singleton.mp now)
        exact absurd (congrArg Renderer.uid one) (of_decide_eq_true different)
    · exact List.Nodup.sublist ((List.filter_sublist).map _) books.users
    · intro other made
      rcases books.placed other made with kept | disposed
      · by_cases one : other.uid = renderer.uid
        · have last := List.inj_on_of_nodup_map books.users kept member one
          rw [last]
          exact .inr (List.mem_append_right _ List.mem_cons_self)
        · exact .inl (List.mem_filter.mpr ⟨kept, decide_eq_true one⟩)
      · exact .inr (List.mem_append_left _ disposed)
    · intro id disposed
      rcases List.mem_append.mp disposed with before | now
      · exact books.disposals id before
      · rw [List.mem_singleton.mp now]
        have numbered : renderer.id ∈ room.opened.map Renderer.id := List.mem_map_of_mem opened
        rw [books.numbered] at numbered
        exact List.mem_range.mp numbered
    · exact List.nodup_append.mpr ⟨books.once, List.nodup_singleton _, fun id before other now => by
        rw [List.mem_singleton.mp now]
        rintro rfl
        exact (books.table renderer member).2 before⟩
    · intro id disposed
      rcases List.mem_append.mp disposed with before | now
      · exact List.mem_append_right _ (books.gone id before)
      · rw [List.mem_singleton.mp now]
        rcases own renderer member (congrArg some same) with stream | before
        · refine List.mem_append_left _ (List.mem_map_of_mem (List.mem_filter.mpr ⟨opened, ?_⟩))
          exact decide_eq_true ⟨congrArg some same, stream⟩
        · exact List.mem_append_right _ before
    · intro disposed
      exact List.filter_eq_nil_iff.mpr fun other kept => by
        rw [books.empty disposed] at kept
        cases kept

theorem Books.runTask (books : Books room) (natives : Natives) (task : Task)
    (kept : Kept room (.run natives task)) : Books (room.runTask natives task) := by
  unfold Room.runTask
  split
  · split
    · rename_i registered
      obtain ⟨undisposed, free⟩ := kept _ rfl registered
      exact (books.connects _ natives undisposed free).gone_grows _ (fun _ => id)
    · exact books.gone_grows _ (fun _ => id)
  · split
    · exact books.gone_grows _ (List.subset_append_right _ _)
    · exact books.gone_grows _ (fun _ => id)
  · exact books.gone_grows _ (fun _ => id)

theorem Books.step (books : Books room) {request : Request} {events : List Event}
    (kept : Kept room request) (taken : room.step request = some (events, next)) : Books next := by
  cases request with
  | run natives task =>
    cases taken
    exact books.runTask natives task kept
  | remoteMemberJoined uid streamName success =>
    cases taken
    unfold Room.handleRemoteMemberJoined
    split
    · exact books
    · exact books.gone_grows room.state (List.subset_append_right _ _)
  | remoteMemberLeaved uid streamName =>
    cases taken
    exact books.leaved kept
  | dispose =>
    cases taken
    exact ⟨books.numbered, books.table, books.users, books.placed, books.disposals, books.once, books.gone,
      fun _ => kept⟩

/-- In every run whose steps are kept the room owns its renderers, in every state reached. -/
theorem renderers_owned (requests : List Request) (events : List (List Event)) (final : Room)
    (kept : AllSteps Room.step Kept start requests)
    (ran : run Room.step start requests = some (events, final)) : Owned final :=
  (run_invariant Books (fun _ _ _ _ books kept taken => books.step kept taken) books_start kept ran).owned

/-- A room that is joined, connects one stream of a user after the other, and is disposed. -/
def oneByOne : List Request :=
  [.run {} (.join ⟨some "r", some "a", some "n", true, some 1⟩ ),
    .run {} (.connect (some "b") (some "s") true true), .remoteMemberJoined (some "b") (some "s") true,
    .run {} (.disconnect (some "b") (some "s")), .remoteMemberLeaved (some "b") (some "s"),
    .run {} (.connect (some "b") (some "t") true true), .remoteMemberLeaved (some "b") (some "t"),
    .run {} (.leave .application), .dispose]

theorem one_by_one_owned : ∃ events final, run Room.step start oneByOne = some (events, final) ∧
    final.opened.length = 2 ∧ Owned final := by
  have ran : run Room.step start oneByOne = some (_, _) := rfl
  exact ⟨_, _, ran, rfl, renderers_owned oneByOne _ _ (by decide) ran⟩

/-- With two streams of one user the leave of the first one releases the renderer of the second. -/
theorem second_stream_released : ¬ ∀ (requests : List Request) (events : List (List Event)) (final : Room),
    run Room.step start requests = some (events, final) → Owned final := by
  intro always
  have owned := always [.run {} (.join ⟨some "r", some "a", some "n", true, some 1⟩),
    .run {} (.connect (some "b") (some "s") true true), .run {} (.connect (some "b") (some "t") true true),
    .remoteMemberJoined (some "b") (some "s") true, .remoteMemberJoined (some "b") (some "t") true,
    .remoteMemberLeaved (some "b") (some "s")] _ _ rfl
  exact absurd (owned.gone 1 (by decide)) (by decide)

end BeeSdk.AndroidRenderers
