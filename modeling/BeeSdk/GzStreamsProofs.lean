import BeeSdk.GzStreams

/-! When `gz_decompress` gives back what `gz_compress` was given, for every library that
does what zlib documents. -/
namespace BeeSdk.Gz

section
variable {Deflate Inflate : Type} {lib : Zlib Deflate Inflate}
variable {Complete : Bytes → Bytes → Prop} {Deflating : Deflate → Bytes → Bytes → Prop}
variable {Inflating : Inflate → Bytes → Bytes → Nat → Nat → Prop}
variable {x y : Bytes} {nzdata ndata : Nat}

/-! ### Compression -/

/-- A stream that is fed is ended within the room or reported. -/
theorem finish_ends (correct : Correct lib Complete Deflating Inflating)
    {stream : ZStream Deflate} (deflating : Deflating stream.state fed stream.output)
    (taken : stream.nextIn = []) (fuel : Nat) :
    let last := lib.deflate stream.state true [] stream.availOut
    (last.code = .streamEnd ∧ Complete fed (stream.output ++ last.put) ∧
        lib.deflateEnd last.state = true ∧
        finish lib (fuel + 2) stream = some (true, stream.after last)) ∨
      (last.code ≠ .streamEnd ∧ ∃ left, finish lib (fuel + 2) stream = some (false, left)) := by
  intro last
  rw [finish, taken]
  by_cases room : stream.availOut = 0
  · have full : last.code = .bufError := by
      simp only [last, room]
      exact correct.full
    right
    simp only [last] at full
    simp only [full, last]
    exact ⟨by simp, _, rfl⟩
  · obtain ⟨ended, complete, closed⟩ | ⟨more, fills⟩ := correct.ends deflating (Nat.pos_of_ne_zero room)
    · left
      simp only [ended, last]
      exact ⟨trivial, complete, closed, trivial⟩
    · right
      simp only [more, last]
      refine ⟨by simp, ?_⟩
      have none_left : (stream.after (lib.deflate stream.state true [] stream.availOut)).availOut = 0 := by
        rw [ZStream.after, fills]
        exact Nat.sub_self _
      rw [finish, none_left]
      simp only [correct.full]
      exact ⟨_, rfl⟩

/-- A text none of which is fed yet is all taken, or the room runs out: at the end of the
buffer, or where `avail_out` is cut off before it. -/
theorem feed_feeds (correct : Correct lib Complete Deflating Inflating) {state : Deflate}
    (begun : Deflating state [] []) (input : Bytes) (nzdata fuel : Nat) :
    let stream : ZStream Deflate := { state, nextIn := input, availOut := nzdata % 2 ^ 32 }
    let moved := lib.fed state input (nzdata % 2 ^ 32)
    (moved.code = .ok ∧ moved.taken = input.length ∧ Deflating moved.state input moved.put ∧
        (input = [] ∨ nzdata ≠ 0) ∧
        ∃ left, feed lib nzdata (fuel + 3) stream = some (true, left) ∧ left = stream.after moved) ∨
      (input ≠ [] ∧ nzdata < 2 ^ 32 ∧ (nzdata = 0 ∨ moved.taken < input.length) ∧
        ∃ left, feed lib nzdata (fuel + 3) stream = some (true, left) ∧ left.nextIn ≠ [] ∧
          ∃ fed, Deflating left.state fed left.output) ∨
      (2 ^ 32 ≤ nzdata ∧ ¬ (moved.code = .ok ∧ moved.taken = input.length) ∧
        ∃ left, feed lib nzdata (fuel + 3) stream = some (false, left)) := by
  intro stream moved
  by_cases empty : input = []
  · left
    cases empty
    refine ⟨rfl, rfl, begun, Or.inl rfl, stream, ?_, rfl⟩
    rw [feed, if_neg (by simp [stream])]
  have fed_eq : moved = lib.deflate state false input (nzdata % 2 ^ 32) := by
    simp only [moved]
    rw [Zlib.fed, if_neg empty]
  by_cases nothing : nzdata = 0
  · right; left
    refine ⟨empty, by omega, Or.inl nothing, stream, ?_, empty, [], begun⟩
    rw [feed, if_neg (by simp [nothing])]
  have enters : stream.nextIn ≠ [] ∧ stream.output.length < nzdata := ⟨empty, Nat.pos_of_ne_zero nothing⟩
  rw [feed, if_pos enters]
  simp only [stream, ← fed_eq]
  by_cases room : nzdata % 2 ^ 32 = 0
  · right; right
    have full : moved.code = .bufError := by
      rw [fed_eq, room]
      exact correct.full
    rw [if_pos (by simp [full])]
    exact ⟨by omega, by simp [full], _, rfl⟩
  obtain ⟨ok, inside, within, fills, deflating⟩ := correct.feeds begun empty (Nat.pos_of_ne_zero room)
  rw [← fed_eq] at ok inside within fills deflating
  rw [if_neg (by simp [ok])]
  by_cases all : moved.taken = input.length
  · left
    rw [all, List.take_length] at deflating
    refine ⟨ok, all, deflating, Or.inr nothing, stream.after moved, ?_, rfl⟩
    rw [feed, if_neg]
    simp [ZStream.after, all]
  · right
    have rest : input.drop moved.taken ≠ [] := by
      rw [ne_eq, List.drop_eq_nil_iff]
      omega
    have full := fills (by omega)
    by_cases large : nzdata < 2 ^ 32
    · left
      refine ⟨empty, large, Or.inr (by omega), stream.after moved, ?_, rest, _, deflating⟩
      rw [feed, if_neg]
      rintro ⟨_, more⟩
      simp only [ZStream.after, List.nil_append, full] at more
      omega
    · right
      refine ⟨by omega, by simp [all], ?_⟩
      have more : nzdata % 2 ^ 32 < nzdata := by omega
      rw [feed, if_pos ⟨rest, by simpa [ZStream.after, full] using more⟩]
      simp only [ZStream.after, full, Nat.sub_self, correct.full]
      exact ⟨_, rfl⟩

/-- With all input taken `gz_compress` goes on to finish the stream. -/
theorem gzCompress_fed {state : Deflate} {stream : ZStream Deflate} (some_text : x ≠ [])
    (init : lib.deflateInit = some state)
    (feeds : feed lib nzdata (x.length + nzdata + 2)
      { state, nextIn := counted x, availOut := nzdata % 2 ^ 32 } = some (true, stream))
    (taken : stream.nextIn = []) :
    gzCompress lib (some x) nzdata =
      (finish lib (stream.availOut + 2) stream).map fun (finished, stream) =>
        if finished = false then ⟨false, stream.output, nzdata⟩
        else if lib.deflateEnd stream.state = false then ⟨false, stream.output, nzdata⟩
        else ⟨true, stream.output, stream.output.length⟩ := by
  have length : x.length ≠ 0 := fun zero => some_text (List.eq_nil_of_length_eq_zero zero)
  rw [gzCompress, if_neg length, init]
  simp only
  rw [← counted, feeds, Option.bind_some, if_neg (by simp), if_neg (not_not_intro taken)]

/-- What `gz_compress` makes of a text: the stream zlib makes of what `avail_in` covers,
a failure where there is none, and success where it stalls. -/
theorem gzCompress_cases (correct : Correct lib Complete Deflating Inflating) (some_text : x ≠ []) :
    (Stalls lib x nzdata ∧ ∃ zdata state fed, Deflating state fed zdata ∧
        gzCompress lib (some x) nzdata = some ⟨true, zdata, nzdata⟩) ∨
      (¬ Stalls lib x nzdata ∧ ∃ zdata, lib.stream (counted x) (nzdata % 2 ^ 32) = some zdata ∧
        Complete (counted x) zdata ∧
        gzCompress lib (some x) nzdata = some ⟨true, zdata, zdata.length⟩) ∨
      (¬ Stalls lib x nzdata ∧ lib.stream (counted x) (nzdata % 2 ^ 32) = none ∧
        ∃ zdata, gzCompress lib (some x) nzdata = some ⟨false, zdata, nzdata⟩) := by
  obtain ⟨state, init, begun⟩ := correct.begins
  have length : x.length ≠ 0 := fun zero => some_text (List.eq_nil_of_length_eq_zero zero)
  have fuel : x.length + nzdata + 2 = (x.length + nzdata - 1) + 3 := by omega
  rw [Zlib.stream, init, Option.bind_some]
  simp only
  have stalls_iff : ∀ moved, lib.fed state (counted x) (nzdata % 2 ^ 32) = moved →
      (Stalls lib x nzdata ↔ counted x ≠ [] ∧ nzdata < 2 ^ 32 ∧
        (nzdata = 0 ∨ moved.taken < (counted x).length)) := by
    intro moved fed_eq
    rw [Stalls]
    refine and_congr_right fun some_counted => and_congr_right fun small => or_congr_right ?_
    rw [Zlib.fed, if_neg some_counted, Nat.mod_eq_of_lt small] at fed_eq
    rw [← fed_eq]
    exact ⟨fun all => all state init, fun here other same => by
      rw [init] at same
      cases same
      exact here⟩
  obtain ⟨ok, all, deflating, some_room, left, feeds, same⟩ | ⟨some_counted, small, stalls, left, feeds, rest, fed, deflating⟩ |
    ⟨large, missed, left, feeds⟩ :=
    feed_feeds correct begun (counted x) nzdata (x.length + nzdata - 1)
  · right
    have goes : ¬ Stalls lib x nzdata := by
      rw [stalls_iff _ rfl]
      rintro ⟨some_counted, _, zero | less⟩
      · exact some_room.elim some_counted (· zero)
      · omega
    have taken : left.nextIn = [] := by
      rw [same, ZStream.after, all]
      exact List.drop_length ..
    have deflated : Deflating left.state (counted x) left.output := by
      rw [same]
      exact deflating
    rw [← fuel] at feeds
    rw [gzCompress_fed some_text init feeds taken]
    obtain ⟨ended, complete, closed, finished⟩ | ⟨more, failed, finished⟩ :=
      finish_ends correct deflated taken left.availOut
    · left
      rw [finished]
      rw [same] at ended complete closed
      refine ⟨goes, _, if_pos ⟨ok, all, ended⟩, complete, ?_⟩
      rw [same]
      simp [ZStream.after] at closed ⊢
      simp [closed]
    · right
      rw [finished]
      rw [same] at more
      exact ⟨goes, if_neg fun met => more met.2.2, failed.output, by simp⟩
  · left
    refine ⟨(stalls_iff _ rfl).mpr ⟨some_counted, small, stalls⟩, left.output, left.state, fed,
      deflating, ?_⟩
    rw [gzCompress, if_neg length, init]
    simp only
    rw [← counted, fuel, feeds, Option.bind_some]
    simp [rest]
  · right; right
    refine ⟨fun stalls => by have := stalls.2.1; omega, ?_, left.output, ?_⟩
    · rw [if_neg (fun goes => missed ⟨goes.1, goes.2.1⟩)]
    · rw [gzCompress, if_neg length, init]
      simp only
      rw [← counted, fuel, feeds]
      rfl

/-! ### Decompression -/

/-- Once all is put out nothing more is. -/
theorem dripped_full (correct : Correct lib Complete Deflating Inflating) {state : Inflate}
    (inflating : Inflating state x y taken x.length) (fuel : Nat)
    (drips : lib.dripped fuel state (y.drop taken) x.length = some put) : put = x.length := by
  induction fuel generalizing state taken with
  | zero => cases drips
  | succ fuel ih =>
    cases rest : y.drop taken with
    | nil =>
      rw [rest] at drips
      cases drips
      rfl
    | cons byte behind =>
      obtain ⟨_, _, _, inside, goes | ⟨ended, _⟩⟩ := correct.drips inflating rest
      · obtain ⟨ok, _, after⟩ := goes
        have silent : (lib.inflate state [byte] 1).put.length = 0 := by omega
        rw [rest, Zlib.dripped] at drips
        simp only [ok, if_true, silent, Nat.add_zero, ← rest, List.drop_drop] at drips
        rw [silent, Nat.add_zero] at after
        exact ih after drips
      · rw [rest, Zlib.dripped] at drips
        simp [ended] at drips

/-- From a state within a complete stream the loop ends without an error, and what it has
put out then is the text exactly where that fits and none of it is pending. -/
theorem inflateLoop_inflates (correct : Correct lib Complete Deflating Inflating) (fuel : Nat)
    {stream : ZStream Inflate} {taken put : Nat} (inflating : Inflating stream.state x y taken put)
    (next_in : stream.nextIn = y.drop taken) (total_in : stream.totalIn = taken)
    (output : stream.output = x.take put) (within : put ≤ x.length) (inside : taken ≤ y.length)
    (room : put ≤ ndata) (enough : (y.length - taken) + (ndata - put) < fuel) :
    ∃ left, inflateLoop lib y.length ndata fuel stream = some (true, left) ∧
      (left.output = x ↔ x.length ≤ ndata ∧ ∀ fuel shown,
        lib.dripped fuel stream.state (y.drop taken) put = some shown → shown = x.length) := by
  induction fuel generalizing stream taken put with
  | zero => omega
  | succ fuel ih =>
    have length : stream.output.length = put := by
      rw [output, List.length_take, Nat.min_eq_left within]
    have whole : stream.output = x ↔ put = x.length := by
      constructor
      · intro same
        rw [← length, same]
      · intro all
        rw [output, all, List.take_length]
    rw [inflateLoop, length, total_in]
    by_cases goes : put < ndata ∧ taken < y.length
    · rw [if_pos goes, next_in]
      cases rest : y.drop taken with
      | nil =>
        rw [List.drop_eq_nil_iff] at rest
        omega
      | cons byte behind =>
        simp only
        obtain ⟨one_taken, one_put, bytes, fits, next⟩ := correct.drips inflating rest
        generalize moves : lib.inflate stream.state [byte] 1 = moved at *
        have shown : stream.output ++ moved.put = x.take (put + moved.put.length) := by
          rw [output, List.take_add, ← bytes]
        obtain ⟨ok, moved_on, after⟩ | ⟨ended, all⟩ := next
        · rw [ok]
          simp only
          have drips : ∀ fuel, lib.dripped (fuel + 1) stream.state (byte :: behind) put =
              lib.dripped fuel moved.state (y.drop (taken + moved.taken)) (put + moved.put.length) := by
            intro fuel
            rw [Zlib.dripped, ← rest]
            simp only [moves, ok, if_true, List.drop_drop]
          have before : taken < y.length := goes.2
          obtain ⟨left, ran, exact_output⟩ := @ih (ZStream.after { stream with availOut := 1 } moved)
            (taken + moved.taken) (put + moved.put.length) after
            (by simp [ZStream.after, next_in, List.drop_drop]) (by simp [ZStream.after, total_in]) shown
            fits (by omega) (by omega) (by omega)
          rw [next_in, total_in, rest] at ran
          refine ⟨left, ran, exact_output.trans (and_congr_right fun _ => ?_)⟩
          constructor
          · intro all fuel shown dripped
            cases fuel with
            | zero => cases dripped
            | succ fuel => exact all fuel shown (by rw [← dripped, drips]; rfl)
          · intro all fuel shown dripped
            exact all (fuel + 1) shown (by rw [drips]; exact dripped)
        · rw [ended]
          refine ⟨_, rfl, ?_⟩
          have all_shown : stream.output ++ moved.put = x := by
            rw [shown, all, List.take_length]
          refine iff_of_true all_shown ⟨by omega, fun fuel shown dripped => ?_⟩
          cases fuel with
          | zero => cases dripped
          | succ fuel =>
            rw [Zlib.dripped] at dripped
            simp [moves, ended] at dripped
    · rw [if_neg goes]
      refine ⟨stream, rfl, whole.trans ?_⟩
      constructor
      · rintro rfl
        exact ⟨room, fun fuel shown dripped => dripped_full correct inflating fuel dripped⟩
      · rintro ⟨fits, dripped⟩
        by_cases taken_all : taken = y.length
        · refine dripped 1 put ?_
          rw [taken_all, List.drop_length]
          rfl
        · omega

/-- Of a complete stream `gz_decompress` always reports success, and gives the text back
exactly where the buffer holds it and `inflate` keeps up with the input. -/
theorem gzDecompress_restores (correct : Correct lib Complete Deflating Inflating)
    (complete : Complete x y) :
    ∃ plain, gzDecompress lib y ndata = some plain ∧ plain.ret = 0 ∧
      plain.ndata = plain.data.length ∧
      (plain.data = x ↔ x.length ≤ ndata ∧ KeepsUp lib y x) := by
  obtain ⟨state, init, begins⟩ := correct.starts
  obtain ⟨left, ran, exact_output⟩ := @inflateLoop_inflates _ _ lib Complete Deflating Inflating x y ndata
    correct (y.length + ndata + 1) { state, nextIn := y, availOut := 0 } 0 0 (begins x y complete)
    rfl rfl rfl (Nat.zero_le _) (Nat.zero_le _) (Nat.zero_le _) (by omega)
  refine ⟨⟨0, left.output, left.output.length⟩, ?_, rfl, rfl, ?_⟩
  · rw [gzDecompress, init]
    simp only
    rw [ran]
    simp [correct.inflateEnds]
  · refine exact_output.trans (and_congr_right fun _ => ?_)
    rw [KeepsUp]
    constructor
    · intro all other same
      rw [init] at same
      cases same
      exact all
    · intro all
      exact all state init

/-! ### Both -/

/-- For every library that does what zlib documents, every input and every two sizes, a
success of `gz_compress` is a complete stream and a success of `gz_decompress` the input
exactly where the input is empty, or the stream is not cut off and, if there is one,
covers the whole input, fits the output and is drained with its last byte. -/
theorem restores_iff (correct : Correct lib Complete Deflating Inflating) (x : Bytes)
    (nzdata ndata : Nat) :
    Restores lib Complete x nzdata ndata ↔ x = [] ∨ (¬ Stalls lib x nzdata ∧
      ∀ zdata, lib.stream (counted x) (nzdata % 2 ^ 32) = some zdata →
        x.length < 2 ^ 32 ∧ x.length ≤ ndata ∧ KeepsUp lib zdata x) := by
  by_cases some_text : x = []
  · refine iff_of_true ⟨⟨false, [], nzdata⟩, ?_, by simp⟩ (Or.inl some_text)
    rw [some_text]
    rfl
  obtain ⟨stalls, zdata, state, fed, deflating, ran⟩ | ⟨goes, zdata, streamed, complete, ran⟩ |
    ⟨goes, streamed, zdata, ran⟩ := @gzCompress_cases _ _ _ _ _ _ x nzdata correct some_text
  · refine iff_of_false ?_ ?_
    · rintro ⟨zipped, ran', restores⟩
      rw [ran] at ran'
      cases ran'
      exact correct.unfinished deflating (restores rfl).2.1
    · rintro (none_text | met)
      · exact some_text none_text
      · exact met.1 stalls
  · obtain ⟨plain, inflated, succeeds, size, exact_data⟩ :=
      @gzDecompress_restores _ _ lib Complete Deflating Inflating (counted x) zdata ndata correct complete
    have counted_iff : x.length < 2 ^ 32 ↔ counted x = x := by
      constructor
      · intro small
        rw [counted, Nat.mod_eq_of_lt small, List.take_length]
      · intro same
        have length := congrArg List.length same
        rw [counted, List.length_take] at length
        omega
    constructor
    · rintro ⟨zipped, ran', restores⟩
      rw [ran] at ran'
      cases ran'
      obtain ⟨_, whole, plain', inflated', gives⟩ := restores rfl
      rw [inflated] at inflated'
      cases inflated'
      have same := correct.unique complete whole
      rw [same] at exact_data
      refine Or.inr ⟨goes, fun other streamed' => ?_⟩
      rw [streamed] at streamed'
      cases streamed'
      exact ⟨counted_iff.mpr same, exact_data.mp (gives succeeds).2⟩
    · rintro (none_text | ⟨_, met⟩)
      · exact absurd none_text some_text
      · obtain ⟨small, fits, keeps⟩ := met zdata streamed
        have same := counted_iff.mp small
        rw [same] at exact_data complete
        exact ⟨_, ran, fun _ => ⟨rfl, complete, plain, inflated, fun _ =>
          ⟨size, exact_data.mpr ⟨fits, keeps⟩⟩⟩⟩
  · refine iff_of_true ⟨_, ran, by simp⟩ (Or.inr ⟨goes, fun other streamed' => ?_⟩)
    rw [streamed] at streamed'
    cases streamed'

end

/-! ### A library to run with -/

namespace Library

/-- A text for which the stream is the one of raw deflate. -/
def twice : Bytes := [0x61, 0x61]

/-- Every other byte of a text, marked, and an end mark. -/
def marked : Bytes → Bytes
  | [] => [1]
  | byte :: rest => 0 :: byte :: marked rest

def encode (x : Bytes) : Bytes := if x = twice then [0x4B, 0x4C, 0x04, 0x00] else marked x

/-- How far a stream is read: up to a byte or an end mark, up to a marked byte, or within
the stream for `twice`. -/
inductive Reader where
  | mark
  | byte
  | first
  | second
  | third

def deflate (fed : Bytes) (finish : Bool) (input : Bytes) (availOut : Nat) : Moved Bytes :=
  if availOut = 0 then ⟨.bufError, 0, [], fed⟩
  else if finish = false then ⟨.ok, input.length, [], fed ++ input⟩
  else if (encode (fed ++ input)).length < availOut then
    ⟨.streamEnd, input.length, encode (fed ++ input), fed ++ input⟩
  else ⟨.ok, input.length, (encode (fed ++ input)).take availOut, fed ++ input⟩

def inflate (reader : Reader) (input : Bytes) (_availOut : Nat) : Moved Reader :=
  match reader, input with
  | reader, [] => ⟨.bufError, 0, [], reader⟩
  | .mark, symbol :: _ =>
    if symbol = 0 then ⟨.ok, 1, [], .byte⟩
    else if symbol = 1 then ⟨.streamEnd, 1, [], .mark⟩
    else if symbol = 0x4B then ⟨.ok, 1, [], .first⟩
    else ⟨.dataError, 1, [], .mark⟩
  | .byte, symbol :: _ => ⟨.ok, 1, [symbol], .mark⟩
  | .first, _ :: _ => ⟨.ok, 1, [0x61], .second⟩
  | .second, _ :: _ => ⟨.ok, 1, [0x61], .third⟩
  | .third, _ :: _ => ⟨.streamEnd, 1, [], .mark⟩

/-- A library that codes byte by byte, for one text as zlib does. -/
def zlib : Zlib Bytes Reader where
  deflateInit := some []
  deflate := deflate
  deflateEnd _ := true
  inflateInit := some .mark
  inflate := inflate
  inflateEnd _ := true

def Deflating (fed' fed put : Bytes) : Prop := fed' = fed ∧ put = []

inductive Inflating : Reader → Bytes → Bytes → Nat → Nat → Prop where
  | mark (other : x ≠ twice) (within : put ≤ x.length) (rest : y.drop taken = marked (x.drop put)) :
    Inflating .mark x y taken put
  | byte (other : x ≠ twice) (some_left : x.drop put = symbol :: behind)
      (rest : y.drop taken = symbol :: marked behind) : Inflating .byte x y taken put
  | begin (whole : y = encode twice) : Inflating .mark twice y 0 0
  | first (whole : y = encode twice) : Inflating .first twice y 1 0
  | second (whole : y = encode twice) : Inflating .second twice y 2 1
  | third (whole : y = encode twice) : Inflating .third twice y 3 2

theorem marked_injective : ∀ {x x' : Bytes}, marked x = marked x' → x = x'
  | [], [], _ => rfl
  | [], _ :: _, same => by simp [marked] at same
  | _ :: _, [], same => by simp [marked] at same
  | _ :: _, _ :: _, same => by
    simp only [marked, List.cons.injEq, true_and] at same
    rw [same.1, marked_injective same.2]

theorem marked_ne (x : Bytes) : marked x ≠ encode twice := by
  cases x <;> simp [marked, encode]

theorem encode_injective {x x' : Bytes} (same : encode x = encode x') : x = x' := by
  by_cases left : x = twice
  · by_cases right : x' = twice
    · rw [left, right]
    · rw [left, encode, encode, if_pos rfl, if_neg right] at same
      exact absurd same.symm (marked_ne x')
  · by_cases right : x' = twice
    · rw [right, encode, if_neg left] at same
      exact absurd same (marked_ne x)
    · rw [encode, encode, if_neg left, if_neg right] at same
      exact marked_injective same

theorem encode_ne_nil (x : Bytes) : encode x ≠ [] := by
  rw [encode]
  split
  · simp
  · cases x <;> simp [marked]

/-- The library does what zlib documents. -/
theorem zlib_correct : Correct zlib (fun x y => y = encode x) Deflating Inflating where
  unique left right := encode_injective (left.symm.trans right)
  begins := ⟨[], rfl, rfl, rfl⟩
  feeds := by
    rintro state fed put input availOut ⟨rfl, rfl⟩ _ room
    simp only [zlib, deflate, if_neg (Nat.ne_of_gt room), if_true]
    exact ⟨trivial, Nat.zero_le _, Nat.le_refl _, fun less => absurd less (Nat.lt_irrefl _),
      by simp [Deflating]⟩
  full := rfl
  ends := by
    rintro state fed put availOut ⟨rfl, rfl⟩ room
    simp only [zlib, deflate, if_neg (Nat.ne_of_gt room), List.append_nil, Bool.true_eq_false, if_false]
    by_cases fits : (encode state).length < availOut
    · rw [if_pos fits]
      exact Or.inl ⟨rfl, rfl, trivial⟩
    · rw [if_neg fits]
      exact Or.inr ⟨rfl, by rw [List.length_take]; omega⟩
  unfinished := by
    rintro state fed put x ⟨_, rfl⟩ complete
    exact encode_ne_nil x complete.symm
  starts := by
    refine ⟨.mark, rfl, fun x y complete => ?_⟩
    by_cases same : x = twice
    · rw [same] at complete ⊢
      exact .begin complete
    · rw [encode, if_neg same] at complete
      exact .mark same (Nat.zero_le _) complete
  drips := by
    intro state x y taken put byte rest inflating next
    cases inflating with
    | mark other within left =>
      rw [next] at left
      cases behind : x.drop put with
      | nil =>
        rw [behind, marked] at left
        have all : put = x.length := Nat.le_antisymm within (List.drop_eq_nil_iff.mp behind)
        cases left
        exact ⟨Nat.le_refl _, Nat.zero_le _, rfl, within, Or.inr ⟨rfl, all⟩⟩
      | cons symbol others =>
        rw [behind, marked] at left
        cases left
        refine ⟨Nat.le_refl _, Nat.zero_le _, rfl, within, Or.inl ⟨rfl, Nat.one_pos, ?_⟩⟩
        refine .byte other behind ?_
        show y.drop (taken + 1) = _
        rw [← List.drop_drop, next]
        rfl
    | byte other some_left left =>
      rw [next] at left
      cases left
      have before : put < x.length := by
        have length := congrArg List.length some_left
        rw [List.length_drop, List.length_cons] at length
        omega
      refine ⟨Nat.le_refl _, Nat.le_refl _, by rw [some_left]; rfl, before, Or.inl ⟨rfl, Nat.two_pos, ?_⟩⟩
      refine .mark other before ?_
      show y.drop (taken + 1) = marked (x.drop (put + 1))
      rw [← List.drop_drop, next, ← List.drop_drop, some_left]
      rfl
    | begin whole =>
      subst whole
      cases next
      exact ⟨Nat.le_refl _, Nat.zero_le _, rfl, by decide, Or.inl ⟨rfl, by decide, .first rfl⟩⟩
    | first whole =>
      subst whole
      cases next
      exact ⟨Nat.le_refl _, Nat.le_refl _, rfl, by decide, Or.inl ⟨rfl, by decide, .second rfl⟩⟩
    | second whole =>
      subst whole
      cases next
      exact ⟨Nat.le_refl _, Nat.le_refl _, rfl, by decide, Or.inl ⟨rfl, by decide, .third rfl⟩⟩
    | third whole =>
      subst whole
      cases next
      exact ⟨Nat.le_refl _, Nat.zero_le _, rfl, by decide, Or.inr ⟨rfl, rfl⟩⟩
  inflateEnds := rfl

end Library

/-- With room for the stream and for three times its length the text comes back. -/
theorem twice_restored :
    Restores Library.zlib (fun x y => y = Library.encode x) Library.twice 16 12 := by
  refine (restores_iff Library.zlib_correct Library.twice 16 12).mpr (Or.inr ⟨?_, ?_⟩)
  · rintro ⟨_, _, none_room | less⟩
    · cases none_room
    · exact absurd (less [] rfl) (by decide)
  · intro zdata streamed
    obtain rfl : [0x4B, 0x4C, 0x04, 0x00] = zdata := Option.some.inj streamed
    refine ⟨by decide, by decide, ?_⟩
    intro state init fuel put dripped
    cases init
    -- the stream ends with the fourth call
    rcases fuel with _ | _ | _ | _ | fuel <;> cases dripped

/-- A buffer of one byte for the text of two: success with the first of them. And without
room for the stream: success without a stream. -/
theorem twice_cut_off :
    ¬ Restores Library.zlib (fun x y => y = Library.encode x) Library.twice 16 1 ∧
    ¬ Restores Library.zlib (fun x y => y = Library.encode x) Library.twice 0 12 := by
  constructor
  · rintro ⟨zipped, ran, restores⟩
    cases ran
    obtain ⟨_, _, plain, inflated, gives⟩ := restores rfl
    cases inflated
    exact absurd (gives rfl).2 (by decide)
  · rintro ⟨zipped, ran, restores⟩
    cases ran
    exact absurd (restores rfl).2.1 (by decide)

end BeeSdk.Gz
