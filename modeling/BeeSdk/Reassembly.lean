import Mathlib.Data.List.Infix

/-! Messages put together again from pieces, by a test that tells whether what has come so
far is a whole message. Nothing is said of where one message ends and the next begins; it
is enough that no message begins like a whole one. -/
namespace BeeSdk.Reassembly

variable {α : Type} {accept : List α → Bool}

/-- One more piece behind what has been kept: the message, once it is whole, and what is
kept from then on. -/
def feed (accept : List α → Bool) (kept piece : List α) : List α × Option (List α) :=
  if accept (kept ++ piece) then ([], some (kept ++ piece)) else (kept ++ piece, none)

/-- What is kept in the end, and all messages that were whole on the way. -/
def feedAll (accept : List α → Bool) : List α → List (List α) → List α × List (List α)
  | kept, [] => (kept, [])
  | kept, piece :: rest =>
    let (kept, message) := feed accept kept piece
    let (kept, messages) := feedAll accept kept rest
    (kept, message.toList ++ messages)

/-- A message that the test takes for whole, and nothing that it begins with. -/
structure Whole (accept : List α → Bool) (message : List α) : Prop where
  nonempty : message ≠ []
  accepted : accept message = true
  begun : ∀ start, start <+: message → start ≠ message → accept start = false

instance [DecidableEq α] (accept : List α → Bool) (message : List α) :
    Decidable (Whole accept message) :=
  decidable_of_iff (message ≠ [] ∧ accept message = true ∧
      ∀ start ∈ message.inits, start ≠ message → accept start = false)
    ⟨fun ⟨nonempty, accepted, begun⟩ =>
      ⟨nonempty, accepted, fun start first => begun start ((List.mem_inits start message).mpr first)⟩,
    fun whole => ⟨whole.nonempty, whole.accepted,
      fun start first => whole.begun start ((List.mem_inits start message).mp first)⟩⟩

theorem feedAll_cons (kept piece : List α) (rest : List (List α)) :
    feedAll accept kept (piece :: rest) =
      ((feedAll accept (feed accept kept piece).1 rest).1,
        (feed accept kept piece).2.toList ++ (feedAll accept (feed accept kept piece).1 rest).2) :=
  rfl

theorem feedAll_append (kept : List α) (first second : List (List α)) :
    feedAll accept kept (first ++ second) =
      ((feedAll accept (feedAll accept kept first).1 second).1,
        (feedAll accept kept first).2 ++ (feedAll accept (feedAll accept kept first).1 second).2) := by
  induction first generalizing kept with
  | nil => rfl
  | cons piece rest ih => simp [feedAll_cons, ih]

/-- Empty pieces behind a message keep nothing and make nothing. -/
private theorem feedAll_empty (rejected : accept [] = false) (pieces : List (List α))
    (empty : pieces.flatten = []) : feedAll accept [] pieces = ([], []) := by
  induction pieces with
  | nil => rfl
  | cons piece rest ih =>
    obtain ⟨rfl, behind⟩ := List.append_eq_nil_iff.mp empty
    have kept : feed accept [] [] = ([], none) := by simp [feed, rejected]
    rw [feedAll_cons, kept, ih behind]
    rfl

/-- The rest of a message of which a part has been kept. -/
private theorem Whole.feedAll_rest {message kept : List α} (whole : Whole accept message)
    (pieces : List (List α)) (cut : kept ++ pieces.flatten = message) (short : kept ≠ message) :
    feedAll accept kept pieces = ([], [message]) := by
  induction pieces generalizing kept with
  | nil => exact absurd (by simpa using cut) short
  | cons piece rest ih =>
    rw [List.flatten_cons, ← List.append_assoc] at cut
    rw [feedAll_cons]
    by_cases ends : kept ++ piece = message
    · have behind : rest.flatten = [] := by
        rw [ends] at cut
        simpa using cut
      have rejected := whole.begun [] (List.nil_prefix) whole.nonempty.symm
      have fed : feed accept kept piece = ([], some message) := by
        simp [feed, ends, whole.accepted]
      rw [fed, feedAll_empty rejected rest behind]
      rfl
    · have rejected := whole.begun (kept ++ piece) ⟨rest.flatten, cut⟩ ends
      have fed : feed accept kept piece = (kept ++ piece, none) := by
        simp [feed, rejected]
      rw [fed, ih cut ends]
      rfl

/-- However a message is cut, empty pieces included, it comes out once and leaves nothing. -/
theorem Whole.feedAll_pieces {message : List α} (whole : Whole accept message)
    (pieces : List (List α)) (cut : pieces.flatten = message) :
    feedAll accept [] pieces = ([], [message]) :=
  whole.feedAll_rest pieces cut whole.nonempty.symm

/-- Messages cut one after the other come out one after the other. -/
theorem feedAll_messages (cuts : List (List (List α)))
    (whole : ∀ pieces ∈ cuts, Whole accept pieces.flatten) :
    feedAll accept [] cuts.flatten = ([], cuts.map List.flatten) := by
  induction cuts with
  | nil => rfl
  | cons pieces rest ih =>
    have first := (whole pieces (by simp)).feedAll_pieces pieces rfl
    have behind := ih fun pieces member => whole pieces (by simp [member])
    rw [List.flatten_cons, feedAll_append, first, behind]
    rfl

end BeeSdk.Reassembly
