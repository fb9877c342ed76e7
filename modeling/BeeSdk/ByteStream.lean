import Mathlib.Data.List.Infix

/-! A byte stream seen from the side that reads it: the bytes already received
and not yet consumed, and the arrivals still to come. How the stream is cut into
arrivals is arbitrary. A read operation takes arrivals in until its completion
condition holds; whether it holds in the end depends only on the bytes, never on
the cuts. -/
namespace BeeSdk.ByteStream

variable {α : Type}

/-- How a read operation ends: satisfied, with the end of the stream, or not
at all because the peer keeps the stream open and sends nothing more. -/
inductive Ending where
  | satisfied
  | closed
  | waiting
  deriving DecidableEq

structure Channel (α : Type) where
  received : List α
  arrivals : List (List α)
  closes : Bool

/-- How a read ends that has used the arrivals up. -/
def exhausted (closes : Bool) : Ending := if closes then .closed else .waiting

/-- Takes arrivals in until the condition accepts what has been received. -/
def receive (enough : List α → Bool) (closes : Bool) :
    List α → List (List α) → Ending × Channel α
  | received, [] =>
    (if enough received then .satisfied else exhausted closes, ⟨received, [], closes⟩)
  | received, arrival :: rest =>
    if enough received then (.satisfied, ⟨received, arrival :: rest, closes⟩)
    else receive enough closes (received ++ arrival) rest

/-- Takes `count` more items in, cutting the arrival where the count is reached. -/
def receiveExactly (closes : Bool) : Nat → List α → List (List α) → Ending × Channel α
  | count, received, [] =>
    (if count = 0 then .satisfied else exhausted closes, ⟨received, [], closes⟩)
  | count, received, arrival :: rest =>
    if count ≤ arrival.length then
      (.satisfied, ⟨received ++ arrival.take count, arrival.drop count :: rest, closes⟩)
    else receiveExactly closes (count - arrival.length) (received ++ arrival) rest

namespace Channel

/-- Everything that can still be read. -/
def bytes (channel : Channel α) : List α := channel.received ++ channel.arrivals.flatten

/-- Until the delimiter has been received. -/
def readUntil [DecidableEq α] (delim : List α) (channel : Channel α) : Ending × Channel α :=
  receive (fun received => delim <:+: received) channel.closes channel.received channel.arrivals

/-- Until at least `count` more items have been received. -/
def readAtLeast (count : Nat) (channel : Channel α) : Ending × Channel α :=
  receive (fun received => channel.received.length + count ≤ received.length) channel.closes
    channel.received channel.arrivals

def readExactly (count : Nat) (channel : Channel α) : Ending × Channel α :=
  receiveExactly channel.closes count channel.received channel.arrivals

end Channel

/-! ### Reads neither lose nor reorder -/

theorem exhausted_ne_satisfied (closes : Bool) : exhausted closes ≠ .satisfied := by
  cases closes <;> decide

theorem receive_conserves (enough : List α → Bool) (closes : Bool) (received : List α)
    (arrivals : List (List α)) :
    (receive enough closes received arrivals).2.bytes = received ++ arrivals.flatten := by
  induction arrivals generalizing received with
  | nil => simp [receive, Channel.bytes]
  | cons arrival rest ih =>
    rw [receive]
    split
    · rfl
    · simp [ih]

theorem receive_extends (enough : List α → Bool) (closes : Bool) (received : List α)
    (arrivals : List (List α)) :
    received <+: (receive enough closes received arrivals).2.received := by
  induction arrivals generalizing received with
  | nil => exact List.prefix_refl _
  | cons arrival rest ih =>
    rw [receive]
    split
    · exact List.prefix_refl _
    · exact (List.prefix_append _ _).trans (ih _)

theorem receive_keeps_closes (enough : List α → Bool) (closes : Bool) (received : List α)
    (arrivals : List (List α)) : (receive enough closes received arrivals).2.closes = closes := by
  induction arrivals generalizing received with
  | nil => rfl
  | cons arrival rest ih =>
    rw [receive]
    split
    · rfl
    · exact ih _

/-- A satisfied read leaves its condition true of what has been received. -/
theorem receive_enough (satisfied : (receive enough closes received arrivals).1 = .satisfied) :
    enough (receive enough closes received arrivals).2.received = true := by
  induction arrivals generalizing received with
  | nil =>
    by_cases holds : enough received = true
    · exact holds
    · rw [receive, if_neg holds] at satisfied
      exact absurd satisfied (exhausted_ne_satisfied closes)
  | cons arrival rest ih =>
    rw [receive] at satisfied ⊢
    split at satisfied
    · rename_i holds
      rwa [if_pos holds]
    · rename_i missing
      rw [if_neg missing]
      exact ih satisfied

/-- A read that is not satisfied has taken everything in. -/
theorem receive_exhausted (missed : (receive enough closes received arrivals).1 ≠ .satisfied) :
    receive enough closes received arrivals =
      (exhausted closes, ⟨received ++ arrivals.flatten, [], closes⟩) := by
  induction arrivals generalizing received with
  | nil =>
    rw [receive] at missed ⊢
    split at missed
    · exact absurd rfl missed
    · rename_i missing
      rw [if_neg missing, List.flatten_nil, List.append_nil]
  | cons arrival rest ih =>
    rw [receive] at missed ⊢
    split at missed
    · exact absurd rfl missed
    · rename_i missing
      rw [if_neg missing, ih missed, List.flatten_cons, List.append_assoc]

/-- A delimiter the stream does not contain is waited for until the stream ends. -/
theorem readUntil_missed [DecidableEq α] {delim : List α} {channel : Channel α}
    (missed : ¬ delim <:+: channel.bytes) :
    channel.readUntil delim =
      (exhausted channel.closes, ⟨channel.bytes, [], channel.closes⟩) := by
  apply receive_exhausted
  intro satisfied
  apply missed
  have found : delim <:+: (channel.readUntil delim).2.received :=
    of_decide_eq_true (receive_enough satisfied)
  have conserved : (channel.readUntil delim).2.bytes = channel.bytes := receive_conserves _ _ _ _
  rw [← conserved]
  exact found.trans (List.prefix_append _ _).isInfix

/-- More than the stream holds is waited for until it ends. -/
theorem readAtLeast_missed {count : Nat} {channel : Channel α}
    (missed : channel.bytes.length < channel.received.length + count) :
    channel.readAtLeast count =
      (exhausted channel.closes, ⟨channel.bytes, [], channel.closes⟩) := by
  apply receive_exhausted
  intro satisfied
  have long : channel.received.length + count ≤ (channel.readAtLeast count).2.received.length :=
    of_decide_eq_true (receive_enough satisfied)
  have conserved : (channel.readAtLeast count).2.bytes = channel.bytes := receive_conserves _ _ _ _
  rw [← conserved, Channel.bytes, List.length_append] at missed
  omega

/-- A condition the whole stream meets is met by some arrival. -/
theorem receive_satisfied (holds : enough (received ++ arrivals.flatten) = true) :
    (receive enough closes received arrivals).1 = .satisfied := by
  induction arrivals generalizing received with
  | nil =>
    rw [List.flatten_nil, List.append_nil] at holds
    rw [receive, if_pos holds]
  | cons arrival rest ih =>
    rw [receive]
    split
    · rfl
    · apply ih
      rwa [List.append_assoc, ← List.flatten_cons]

/-- A read whose condition the whole stream meets takes a first part of the
stream in that meets it. -/
theorem receive_takes (enough : List α → Bool) (channel : Channel α)
    (holds : enough channel.bytes = true) :
    ∃ received arrivals, receive enough channel.closes channel.received channel.arrivals =
        (.satisfied, ⟨received, arrivals, channel.closes⟩) ∧
      channel.received <+: received ∧ received ++ arrivals.flatten = channel.bytes ∧
      enough received = true := by
  have satisfied : (receive enough channel.closes channel.received channel.arrivals).1 =
      .satisfied := receive_satisfied holds
  have met := receive_enough satisfied
  have conserved := receive_conserves enough channel.closes channel.received channel.arrivals
  have extended := receive_extends enough channel.closes channel.received channel.arrivals
  have closes := receive_keeps_closes enough channel.closes channel.received channel.arrivals
  generalize receive enough channel.closes channel.received channel.arrivals = result at *
  obtain ⟨ending, received, arrivals, closed⟩ := result
  subst closes
  exact ⟨received, arrivals, Prod.ext satisfied rfl, extended, conserved, met⟩

theorem receiveExactly_cases (closes : Bool) (count : Nat) (received : List α)
    (arrivals : List (List α)) :
    (count ≤ arrivals.flatten.length ∧
      ∃ rest, receiveExactly closes count received arrivals =
          (.satisfied, ⟨received ++ arrivals.flatten.take count, rest, closes⟩) ∧
        rest.flatten = arrivals.flatten.drop count) ∨
    (arrivals.flatten.length < count ∧
      receiveExactly closes count received arrivals =
        (exhausted closes, ⟨received ++ arrivals.flatten, [], closes⟩)) := by
  induction arrivals generalizing count received with
  | nil =>
    by_cases zero : count = 0
    · exact .inl ⟨by simp [zero], [], by simp [receiveExactly, zero], by simp⟩
    · exact .inr ⟨by simp; omega, by simp [receiveExactly, zero]⟩
  | cons arrival rest ih =>
    rw [receiveExactly]
    split
    · rename_i within
      refine .inl ⟨?_, arrival.drop count :: rest, ?_, ?_⟩
      · rw [List.flatten_cons, List.length_append]
        omega
      · rw [List.flatten_cons, List.take_append_of_le_length within]
      · rw [List.flatten_cons, List.flatten_cons, List.drop_append_of_le_length within]
    · rename_i beyond
      rcases ih (count - arrival.length) (received ++ arrival) with
        ⟨held, left, satisfied, flat⟩ | ⟨short, ended⟩
      · refine .inl ⟨by rw [List.flatten_cons, List.length_append]; omega, left, ?_, ?_⟩
        · rw [satisfied, List.flatten_cons, List.take_append,
            List.take_of_length_le (l := arrival) (by omega), List.append_assoc]
        · rw [flat, List.flatten_cons, List.drop_append,
            List.drop_of_length_le (l := arrival) (by omega), List.nil_append]
      · exact .inr ⟨by rw [List.flatten_cons, List.length_append]; omega,
          by rw [ended, List.flatten_cons, List.append_assoc]⟩

end BeeSdk.ByteStream
