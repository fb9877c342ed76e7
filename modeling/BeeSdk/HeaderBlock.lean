import BeeSdk.ByteStream
import BeeSdk.Session

/-! The header block, as it is read and as it is taken. The read waits for an empty line behind a
line that ends properly; the `getline` loop stops at the first empty line there is. -/
namespace BeeSdk.HeaderBlock
open ByteStream IStream Session HttpSession

/-! ### The first bytes that are enough -/

section First

variable {α : Type} {enough : List α → Prop} {block other whole received : List α}

/-- The block is enough, and no shorter piece of it is. -/
structure First (enough : List α → Prop) (block : List α) : Prop where
  holds : enough block
  shortest : ∀ shorter, shorter <+: block → enough shorter → shorter = block

theorem first_of_inits (holds : enough block)
    (shortest : ∀ shorter ∈ block.inits, enough shorter → shorter = block) : First enough block :=
  ⟨holds, fun shorter before => shortest shorter ((List.mem_inits _ _).mpr before)⟩

/-- Of pieces of the same bytes only one is first. -/
theorem first_unique (first : First enough block) (also : First enough other) (goes : block <+: whole)
    (within : other <+: whole) : block = other := by
  rcases List.prefix_or_prefix_of_prefix goes within with before | behind
  · exact also.shortest block before first.holds
  · exact (first.shortest other behind also.holds).symm

/-- Whatever is enough begins with a first piece that is. -/
theorem exists_first (holds : enough whole) : ∃ block, block <+: whole ∧ First enough block := by
  generalize bound : whole.length = length
  induction length using Nat.strongRecOn generalizing whole with
  | ind length ih =>
    by_cases shortest : ∀ shorter, shorter <+: whole → enough shorter → shorter = whole
    · exact ⟨whole, List.prefix_refl _, holds, shortest⟩
    · simp only [not_forall] at shortest
      obtain ⟨shorter, before, also, other⟩ := shortest
      have less : shorter.length < length := by
        rw [← bound]
        apply Nat.lt_of_le_of_ne before.length_le
        exact fun same => other (before.eq_of_length same)
      obtain ⟨block, within, first⟩ := ih _ less also rfl
      exact ⟨block, within.trans before, first⟩

/-- Where the same bytes go on, the first piece is the same. -/
theorem first_prefix (first : First enough block) (goes : block <+: whole) (also : received <+: whole)
    (holds : ∃ piece, piece <+: received ∧ enough piece) : block <+: received := by
  obtain ⟨piece, within, holds⟩ := holds
  rcases List.prefix_or_prefix_of_prefix goes (within.trans also) with before | behind
  · exact before.trans within
  · rw [first.shortest piece behind holds] at within
    exact within

end First

/-! ### Empty lines -/

/-- The bytes end with an empty line. -/
def EndsEmpty (bytes : List UInt8) : Prop := bytes = crlf ∨ newline :: crlf <:+ bytes

/-- The bytes end with what the read waits for. -/
def EndsHeader (bytes : List UInt8) : Prop := crlf ++ crlf <:+ bytes

instance (bytes : List UInt8) : Decidable (EndsEmpty bytes) := inferInstanceAs (Decidable (_ ∨ _))

instance (bytes : List UInt8) : Decidable (EndsHeader bytes) := inferInstanceAs (Decidable (_ <:+ _))

theorem EndsHeader.empty {bytes : List UInt8} (ends : EndsHeader bytes) : EndsEmpty bytes :=
  .inr ((List.suffix_cons carriageReturn (newline :: crlf)).trans ends)

theorem ends_newline {bytes : List UInt8} (ends : EndsEmpty bytes) : bytes.getLast? = some newline := by
  rcases ends with rfl | ⟨front, rfl⟩
  · rfl
  · simp [crlf]

theorem ends_behind {line rest : List UInt8} (ends : EndsEmpty rest) :
    EndsEmpty (line ++ newline :: rest) := by
  rcases ends with rfl | behind
  · exact .inr (List.suffix_append _ _)
  · exact .inr (behind.trans ((List.suffix_cons _ _).trans (List.suffix_append _ _)))

/-- Behind a line that is not empty the end is that of what follows. -/
theorem ends_of_behind {line rest : List UInt8} (within : newline ∉ line) (some : line ≠ [carriageReturn])
    (ends : EndsEmpty (line ++ newline :: rest)) : EndsEmpty rest := by
  rcases ends with same | behind
  · exfalso
    cases line with
    | nil => cases same
    | cons first others =>
      simp only [crlf, List.cons_append, List.cons.injEq] at same
      cases others with
      | nil => exact some (by rw [same.1])
      | cons second others => exact absurd same.2 (by simp)
  · have whole : newline :: rest <:+ line ++ newline :: rest := List.suffix_append _ _
    rcases List.suffix_or_suffix_of_suffix behind whole with inside | outside
    · rcases List.suffix_cons_iff.mp inside with same | inside
      · exact .inl (List.cons.inj same).2.symm
      · exact .inr inside
    · rcases List.suffix_cons_iff.mp outside with same | outside
      · exact .inl (List.cons.inj same).2
      · rcases List.suffix_cons_iff.mp outside with same | outside
        · exact absurd (List.cons.inj same).1 (by decide)
        · have nothing : rest = [] := by
            have short := outside.length_le
            simp only [List.length_cons, List.length_nil] at short
            exact List.length_eq_zero_iff.mp (by omega)
          rw [nothing] at behind
          obtain ⟨front, same⟩ := behind
          have split : (front ++ [newline, carriageReturn]) ++ [newline] = line ++ [newline] := by
            rw [← same, List.append_assoc]
            rfl
          rw [← List.append_cancel_right split] at within
          exact absurd (List.mem_append_right front List.mem_cons_self) within

/-- The loop takes the bytes up to and including the first empty line. -/
theorem takeHeader_block (rest : List UInt8) {line tail : List UInt8} (within : newline ∉ line)
    (some : tail ≠ []) (first : First EndsEmpty (line ++ tail)) :
    takeHeader line (tail ++ rest) = (line ++ tail, rest) := by
  induction tail generalizing line with
  | nil => exact absurd rfl some
  | cons byte tail ih =>
    rw [List.cons_append, takeHeader]
    split
    · rename_i other
      have further : (line ++ [byte]) ++ tail = line ++ byte :: tail := by simp
      rw [← further] at first ⊢
      apply ih _ _ first
      · simp only [List.mem_append, List.mem_singleton, not_or]
        exact ⟨within, fun same => other same.symm⟩
      · rintro rfl
        have last := ends_newline first.holds
        simp only [List.append_nil, List.getLast?_append, List.getLast?_singleton, Option.some_or,
          Option.some.injEq] at last
        exact other last
    · rename_i same
      have ended : byte = newline := Classical.not_not.mp same
      subst ended
      split
      · rename_i empty
        have short := first.shortest (line ++ [newline])
          ((List.prefix_append_right_inj line).mpr ⟨tail, rfl⟩) (.inl (by rw [empty]; rfl))
        have nothing : tail = [] := by
          have split := List.append_cancel_left short
          exact (List.cons.inj split).2.symm
        rw [nothing]
        rfl
      · rename_i full
        have ends := ends_of_behind within full first.holds
        have firstBehind : First EndsEmpty ([] ++ tail) := by
          refine ⟨ends, fun shorter before also => ?_⟩
          have short := first.shortest (line ++ newline :: shorter)
            ((List.prefix_append_right_inj line).mpr (List.cons_prefix_cons.mpr ⟨rfl, before⟩))
            (ends_behind also)
          exact (List.cons.inj (List.append_cancel_left short)).2
        have more : tail ≠ [] := by
          rintro rfl
          exact absurd (ends_newline ends) (by decide)
        rw [ih List.not_mem_nil more firstBehind]
        rfl

/-! ### The block of a stream -/

theorem block_filled {block : List UInt8} (ends : EndsEmpty block) : block ≠ [] := by
  rintro rfl
  exact absurd (ends_newline ends) (by decide)

/-- A read that waits for the end of a header takes in all of it. -/
theorem readUntil_header {channel : Channel UInt8} {head tail : List UInt8}
    (first : First EndsHeader head) (sent : channel.bytes = head ++ tail) :
    ∃ more arrivals, channel.readUntil (crlf ++ crlf) =
        (.satisfied, ⟨head ++ more, arrivals, channel.closes⟩) ∧
      channel.received <+: head ++ more ∧ more ++ arrivals.flatten = tail := by
  have contained : decide (crlf ++ crlf <:+: channel.bytes) = true := by
    rw [sent, decide_eq_true_eq]
    exact first.holds.isInfix.trans (List.prefix_append _ _).isInfix
  obtain ⟨received, arrivals, took, extended, conserved, enough⟩ :=
    receive_takes (fun received => decide (crlf ++ crlf <:+: received)) channel contained
  have total : received ++ arrivals.flatten = head ++ tail := conserved.trans sent
  obtain ⟨front, back, spelled⟩ := of_decide_eq_true enough
  have whole : head <+: received :=
    first_prefix first (List.prefix_append _ _) ⟨_, total⟩
      ⟨front ++ (crlf ++ crlf), ⟨back, spelled⟩, List.suffix_append _ _⟩
  obtain ⟨more, rfl⟩ := whole
  refine ⟨more, arrivals, took, extended, ?_⟩
  rw [List.append_assoc] at total
  exact List.append_cancel_left total

end BeeSdk.HeaderBlock
