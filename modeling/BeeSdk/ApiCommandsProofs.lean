import BeeSdk.ApiCommands
import BeeSdk.VideoRoomScript

/-! The argument of a call is the object of what the caller means, up to the order of its
fields, wherever nothing is null; the script's handlers on that object are settled once
for all three clients. -/
namespace BeeSdk.ApiCommands
open JsonText WinRoom ScriptTexts
open AssembledTexts (string number flag object Assembled Simple)

/-! ### Fields -/

theorem carried_string (text : Text) : (Json.string text).carriedBy (.string text) = true :=
  carried_self _ _ (Nat.le_refl _)

theorem carried_literal (text : Text) : (Json.literal text).carriedBy (.literal text) = true :=
  carried_self _ _ (Nat.le_refl _)

theorem carried_of_found
    (each : ∀ member ∈ members, ∃ read, lastOf member.1 found = some read ∧
      member.2.carriedBy read = true) : Json.membersCarried members found = true := by
  induction members with
  | nil => rfl
  | cons member members ih =>
    obtain ⟨key, value⟩ := member
    obtain ⟨read, last, carried⟩ := each _ List.mem_cons_self
    simp only [Json.membersCarried, last, carried, Bool.or_true, Bool.true_and]
    exact ih fun other mem => each other (List.mem_cons_of_mem _ mem)

theorem decimal_truthy (value : Int) : truthy (.literal (decimal value)) = true := by
  have numeral := numeral_decimal value
  simp only [truthy, decide_eq_true_eq]
  intro same
  rw [same] at numeral
  exact absurd numeral (by decide)

theorem zeros_iff (number : Nat) :
    ((Nat.toDigits 10 number).takeWhile fun symbol => symbol ≠ 'e' && symbol ≠ 'E').all
      (fun symbol => !symbol.isDigit || symbol = '0') = true ↔ number = 0 := by
  have digits : ∀ symbol ∈ Nat.toDigits 10 number, symbol.isDigit = true := fun symbol mem =>
    Nat.isDigit_of_mem_toDigits (by decide) (by decide) mem
  have taken : ((Nat.toDigits 10 number).takeWhile fun symbol => symbol ≠ 'e' && symbol ≠ 'E') =
      Nat.toDigits 10 number := by
    refine List.takeWhile_eq_self_iff.mpr fun symbol mem => ?_
    have digit := digits symbol mem
    simp only [ne_eq, Bool.and_eq_true, decide_eq_true_eq]
    constructor
    · rintro rfl
      exact absurd digit (by decide)
    · rintro rfl
      exact absurd digit (by decide)
  rw [taken]
  constructor
  · intro all
    refine Classical.byContradiction fun more => ?_
    have front := no_leading_zero number more
    cases shape : Nat.toDigits 10 number with
    | nil => exact absurd shape Nat.toDigits_ne_nil
    | cons digit others =>
      rw [shape] at all front digits
      have known := digits digit List.mem_cons_self
      simp only [List.all_cons, known, Bool.not_true, Bool.false_or, Bool.and_eq_true,
        decide_eq_true_eq] at all
      exact front (by rw [all.1]; rfl)
  · rintro rfl
    rfl

theorem decimal_zero_iff (value : Int) : isZero (.literal (decimal value)) = true ↔ value = 0 := by
  rw [isZero, numeral_decimal, Bool.true_and]
  cases value with
  | ofNat number =>
    rw [decimal, zeros_iff]
    simp
  | negSucc number =>
    have digits := zeros_iff (number + 1)
    simp only [decimal]
    rw [List.takeWhile_cons_of_pos (by decide), List.all_cons, Bool.and_eq_true, digits]
    simp
/-! ### Handlers -/

theorem asserted_of_field {value read : Json} (found : field value key = some (some read))
    (holds : truthy read = true) :
    asserted value key = some read := by
  rw [asserted, found]
  exact if_pos holds

theorem join_fields (earlier : Pushed) (roomName uid nickName token : Text) (creator : Bool)
    (role : Int) (push : Option Setup) :
    join earlier (Meaning.join roomName uid nickName token creator role push).fields =
      if ∀ setup ∈ push, setup.pushVideo = true → setup.videoSource ≠ 0 then
        some ((Meaning.join roomName uid nickName token creator role push).act earlier)
      else none := by
  cases push with
  | none =>
    have asked : asserted (Meaning.join roomName uid nickName token creator role none).fields "role" =
        some (.literal (decimal role)) := asserted_of_field rfl (decimal_truthy role)
    rw [join, asked, if_pos (by simp)]
    rfl
  | some push =>
    have asked : asserted (Meaning.join roomName uid nickName token creator role (some push)).fields
        "role" = some (.literal (decimal role)) := asserted_of_field rfl (decimal_truthy role)
    rw [join, asked]
    obtain ⟨streamName, pushAudio, pushVideo, audioSource, videoSource, videoRenderer⟩ := push
    cases pushVideo with
    | false =>
      rw [if_pos (by simp)]
      rfl
    | true =>
      by_cases zero : videoSource = 0
      · have zero' := (decimal_zero_iff videoSource).mpr zero
        rw [if_neg (by simp [zero])]
        show (do
          guard ((!isZero (.literal (decimal videoSource))) = true)
          some _ : Option Act) = none
        rw [zero']
        rfl
      · have zero' : isZero (.literal (decimal videoSource)) = false := by
          simpa using mt (decimal_zero_iff videoSource).mp zero
        rw [if_pos (by simpa using zero)]
        show (do
          guard ((!isZero (.literal (decimal videoSource))) = true)
          some _ : Option Act) = some _
        rw [zero']
        rfl


theorem leave_fields (roomName : Text) (reason : Int) :
    leave (.object [string "room_name" roomName, number "reason" reason]) =
      some (.close (.literal (decimal reason))) := by
  let args : Json := .object [string "room_name" roomName, number "reason" reason]
  have reason' : asserted args "reason" = some (.literal (decimal reason)) :=
    asserted_of_field rfl (decimal_truthy reason)
  show leave args = _
  rw [leave, reason']
  rfl

theorem disconnect_args (type : Int) :
    disconnectStream (.object [string "room_name" roomName, string "uid" uid,
      string "stream_name" streamName, number "type" type, number "reason" reason]) =
      some (.doDisconnectStream (.string uid) (.string streamName) (.literal (decimal type)) none) := by
  let args : Json := .object [string "room_name" roomName, string "uid" uid,
    string "stream_name" streamName, number "type" type, number "reason" reason]
  have type' : asserted args "type" = some (.literal (decimal type)) :=
    asserted_of_field rfl (decimal_truthy type)
  have reason' : asserted args "reason" = some (.literal (decimal reason)) :=
    asserted_of_field rfl (decimal_truthy reason)
  show disconnectStream args = _
  rw [disconnectStream, type', reason']
  rfl

/-! The handlers are those of the script that runs, for arguments of the right types. -/

section
open Signalling

def putNumber (key : String) (value : Option Int) : List (Text × Json) :=
  match value with
  | some value => [number key value]
  | none => []

def luaNumber : Option Int → LuaValue
  | some value => .integer value
  | none => .nil

theorem leave_scripted (roomName : Option Text) (reason : Option Int) :
    VideoRoom.leave ⟨roomName, luaNumber reason⟩ =
      match leave (.object (put "room_name" roomName ++ putNumber "reason" reason)) with
      | some _ => VideoRoom.close (luaNumber reason).toInteger
      | none => Script.raise := by
  funext session
  cases roomName with
  | none => cases reason <;> rfl
  | some roomName =>
    cases reason with
    | none => rfl
    | some reason =>
      simp only [put, putNumber, List.singleton_append, leave_fields]
      rfl

theorem connect_scripted (roomName streamName uid : Option Text) (pullVideo pullAudio : Bool) :
    VideoRoom.connectStream ⟨roomName, streamName, uid, some pullVideo, some pullAudio⟩ =
      match connectStream (.object (put "room_name" roomName ++ put "uid" uid ++
        put "stream_name" streamName ++ [flag "pull_audio" pullAudio, flag "pull_video" pullVideo])) with
      | some (.doConnectStream (.string streamName) (.string uid) _ _ _) =>
        VideoRoom.doConnectStream streamName (some uid) pullVideo pullAudio
      | _ => Script.raise := by
  funext session
  cases roomName <;> cases streamName <;> cases uid <;> rfl

/-- `Party:leave` gets no reason. -/
theorem disconnect_scripted (roomName streamName uid : Option Text) (type reason : Option Int) :
    VideoRoom.disconnectStream ⟨roomName, streamName, uid, type, luaNumber reason⟩ =
      match disconnectStream (.object (put "room_name" roomName ++ put "uid" uid ++
        put "stream_name" streamName ++ putNumber "type" type ++ putNumber "reason" reason)) with
      | some (.doDisconnectStream _ (.string streamName) _ none) => do
        let room ← theRoom
        let table :=
          if type = some 0 then room.pushStreamPartyTable else room.pullStreamPartyTable
        if let some party := table.lookup streamName then Signalling.Party.leave party none
      | _ => Script.raise := by
  funext session
  cases roomName with
  | none => cases streamName <;> cases uid <;> cases type <;> cases reason <;> rfl
  | some roomName =>
    cases streamName with
    | none => cases uid <;> cases type <;> cases reason <;> rfl
    | some streamName =>
      cases uid with
      | none => cases type <;> cases reason <;> rfl
      | some uid =>
        cases type with
        | none => cases reason <;> rfl
        | some type =>
          cases reason with
          | none =>
            have type' : asserted (.object [string "room_name" roomName, string "uid" uid,
                string "stream_name" streamName, number "type" type]) "type" =
                  some (.literal (decimal type)) := asserted_of_field rfl (decimal_truthy type)
            simp only [put, putNumber, List.cons_append, List.nil_append,
              List.append_nil, disconnectStream, type']
            rfl
          | some reason =>
            simp only [put, putNumber, List.cons_append, List.nil_append,
              disconnect_args]
            simp only [VideoRoom.disconnectStream, luaNumber, assert, LuaValue.truthy,
              Option.some.injEq]
            rfl

def Setup.args (setup : Setup) : PushArgs where
  streamName := some setup.streamName
  audio := some { present := some setup.pushAudio, source := some setup.audioSource }
  video := some { present := some setup.pushVideo, source := some setup.videoSource }

/-- The script opens the room, or stops before, as the handler does. -/
theorem join_scripted (earlier : Pushed) (roomName uid nickName token : Text) (creator : Bool)
    (role : Int) (push : Option Setup) (session : Session) :
    let args : JoinArgs := ⟨some roomName, some creator, some uid, some nickName, some token, some role,
      push.map Setup.args⟩
    match join earlier (Meaning.join roomName uid nickName token creator role push).fields with
    | some _ => ∃ opened, VideoRoom.join args session = VideoRoom.open (session.updateRoom opened)
    | none => (VideoRoom.join args session).1 = none := by
  intro args
  rw [join_fields]
  cases push with
  | none =>
    rw [if_pos (by simp)]
    refine ⟨_, rfl⟩
  | some push =>
    obtain ⟨streamName, pushAudio, pushVideo, audioSource, videoSource, videoRenderer⟩ := push
    cases pushVideo with
    | false =>
      rw [if_pos (by simp)]
      exact ⟨fun _ => _, rfl⟩
    | true =>
      by_cases zero : videoSource = 0
      · subst zero
        rw [if_neg (by simp)]
        rfl
      · have other : decide (some videoSource ≠ some 0) = true := by simpa using zero
        rw [if_pos (by simpa using zero)]
        refine ⟨fun _ => ?_, ?_⟩
        rotate_left
        show (Signalling.assert (decide (some videoSource ≠ some 0)) >>= fun _ => VideoRoom.open) _ = _
        rw [other]
        rfl

end

/-! ### Commands that run -/

variable {earlier : Pushed} {room : BeeVideoRoom}

theorem join_runs_iff (roomName uid nickName token : Text) (creator : Bool) (role : Int)
    (push : Option Setup) :
    Runs earlier "Join" (Meaning.join roomName uid nickName token creator role push).fields
      (.join roomName uid nickName token creator role push) ↔
        ∀ setup ∈ push, setup.pushVideo = true → setup.videoSource ≠ 0 := by
  have acts := join_fields earlier roomName uid nickName token creator role push
  constructor
  · intro runs
    refine Classical.byContradiction fun missing => ?_
    rw [if_neg missing] at acts
    have done := runs.acts
    rw [handle, if_pos rfl, acts] at done
    cases done
  · intro given
    rw [if_pos given] at acts
    exact ⟨by decide, carried_self _ _ (Nat.le_refl _), acts⟩

theorem leave_runs (roomName : Text) :
    Runs earlier "Leave" (Meaning.leave roomName).fields (.leave roomName) :=
  ⟨by decide, carried_self _ _ (Nat.le_refl _), leave_fields roomName 0⟩

/-- On Windows the fields stand in another order than on the others. -/
theorem connect_runs (roomName uid streamName : Text) (pullAudio pullVideo : Bool)
    (videoRenderer : Int) :
    let meaning := Meaning.connect roomName uid streamName pullAudio pullVideo videoRenderer
    Runs earlier "ConnectStream" meaning.fields meaning ∧
      Runs earlier "ConnectStream" (.object [string "room_name" roomName, string "uid" uid,
        string "stream_name" streamName, flag "pull_audio" pullAudio, flag "pull_video" pullVideo,
        number "renderer" videoRenderer]) meaning := by
  refine ⟨⟨by decide, carried_self _ _ (Nat.le_refl _), rfl⟩, ⟨by decide, ?_, rfl⟩⟩
  refine carried_of_found ?_
  simp only [List.forall_mem_cons]
  exact ⟨⟨_, rfl, carried_string _⟩, ⟨_, rfl, carried_string _⟩, ⟨_, rfl, carried_string _⟩,
    ⟨_, rfl, carried_literal _⟩, ⟨_, rfl, carried_literal _⟩, ⟨_, rfl, carried_literal _⟩,
    by simp⟩

/-! ### The mobile clients -/

theorem leave_known (isLeave : client = .android room ∨ client = .ios room) :
    Agrees earlier client .leave ↔ room.roomName.isSome := by
  have same : client.executes .leave = some ("Leave", some room.leaveArgs) ∧
      client.means .leave = room.means .leave := by
    rcases isLeave with rfl | rfl <;> exact ⟨rfl, rfl⟩
  rw [Agrees, same.1, same.2, BeeVideoRoom.means]
  cases known : room.roomName with
  | none => simp
  | some roomName =>
    refine iff_of_true ⟨_, _, _, rfl, rfl, ?_⟩ rfl
    rw [BeeVideoRoom.leaveArgs, known]
    exact leave_runs roomName

theorem connect_known (isMobile : client = .android room ∨ client = .ios room)
    (uid streamName : Text) (mediaType : BitVec 32) (videoRenderer : Int) :
    Agrees earlier client (.connect uid streamName mediaType videoRenderer) ↔
      room.roomName.isSome := by
  have same : client.executes (.connect uid streamName mediaType videoRenderer) =
      some ("ConnectStream", some (room.connectArgs uid streamName mediaType videoRenderer)) ∧
      client.means (.connect uid streamName mediaType videoRenderer) =
        room.means (.connect uid streamName mediaType videoRenderer) := by
    rcases isMobile with rfl | rfl <;> exact ⟨rfl, rfl⟩
  rw [Agrees, same.1, same.2, BeeVideoRoom.means]
  cases known : room.roomName with
  | none => simp
  | some roomName =>
    refine iff_of_true ⟨_, _, _, rfl, rfl, ?_⟩ rfl
    rw [BeeVideoRoom.connectArgs, known]
    exact (connect_runs roomName uid streamName _ _ videoRenderer).2

/-- What a join that pushes under the name it is given puts into its argument. -/
def BeeVideoRoom.pushed (room : BeeVideoRoom) (streamName : Text) : Setup :=
  ⟨streamName, room.willPushAudio, room.willPushVideo, room.audioSource, room.videoSource,
    room.videoRenderer⟩

theorem join_args (token : room.token = some key) (streamName : Option Text)
    (roomName uid nickName : Text) (creator : Bool) (role : Int)
    (pushes : (room.willPushVideo || room.willPushAudio) = true → streamName.isSome) :
    room.joinArgs streamName roomName uid nickName creator role =
      (Meaning.join roomName uid nickName key creator role
        (if room.willPushVideo || room.willPushAudio then streamName.map room.pushed
          else none)).fields := by
  rw [BeeVideoRoom.joinArgs, token]
  by_cases push : (room.willPushVideo || room.willPushAudio) = true
  · obtain ⟨name, rfl⟩ := Option.isSome_iff_exists.mp (pushes push)
    rw [if_pos push, if_pos push]
    rfl
  · rw [if_neg push, if_neg push]
    rfl

theorem setup_known
    (pushes : (room.willPushVideo || room.willPushAudio) = true → room.streamName.isSome) :
    room.setup = some
      (if room.willPushVideo || room.willPushAudio then room.streamName.map room.pushed else none) := by
  rw [BeeVideoRoom.setup]
  by_cases push : (room.willPushVideo || room.willPushAudio) = true
  · obtain ⟨name, known⟩ := Option.isSome_iff_exists.mp (pushes push)
    rw [if_pos push, if_pos push, known]
    rfl
  · rw [if_neg push, if_neg push]

theorem setup_missing (pushes : (room.willPushVideo || room.willPushAudio) = true)
    (missing : room.streamName = none) : room.setup = none := by
  rw [BeeVideoRoom.setup, if_pos pushes, missing]
  rfl

/-! ### Joins -/

theorem ios_join_agrees (token : room.token = some key) (roomName uid nickName : Text) (creator : Bool)
    (role : Int) :
    Agrees earlier (.ios room) (.join roomName uid nickName creator role) ↔
      ((room.willPushVideo || room.willPushAudio) = true → room.streamName.isSome) ∧
        (room.willPushVideo = true → room.videoSource ≠ 0) := by
  by_cases pushes : (room.willPushVideo || room.willPushAudio) = true → room.streamName.isSome
  · have args := join_args token room.streamName roomName uid nickName creator role pushes
    have means : Client.means (.ios room) (.join roomName uid nickName creator role) =
        some (.join roomName uid nickName key creator role
          (if room.willPushVideo || room.willPushAudio then room.streamName.map room.pushed
            else none)) := by
      simp [Client.means, BeeVideoRoom.means, token, setup_known pushes]
    have runs := @join_runs_iff earlier roomName uid nickName key creator role
      (if room.willPushVideo || room.willPushAudio then room.streamName.map room.pushed else none)
    rw [← args] at runs
    have agrees : Agrees earlier (.ios room) (.join roomName uid nickName creator role) ↔
        ∀ setup ∈ (if room.willPushVideo || room.willPushAudio then room.streamName.map room.pushed
          else none), setup.pushVideo = true → setup.videoSource ≠ 0 := by
      rw [← runs]
      constructor
      · rintro ⟨_, _, _, executes, meant, done⟩
        rw [means] at meant
        cases executes
        cases meant
        exact done
      · exact fun done => ⟨_, _, _, rfl, means, done⟩
    rw [agrees, and_iff_right pushes]
    by_cases push : (room.willPushVideo || room.willPushAudio) = true
    · obtain ⟨name, known⟩ := Option.isSome_iff_exists.mp (pushes push)
      simp [push, known, BeeVideoRoom.pushed]
    · simp_all
  · refine iff_of_false ?_ fun both => pushes both.1
    rintro ⟨_, _, _, _, meant, _⟩
    obtain ⟨push, missing⟩ := Classical.not_imp.mp pushes
    have nothing := setup_missing push (by simpa using missing)
    simp [Client.means, BeeVideoRoom.means, token, nothing] at meant

theorem stamped_other (named : room.streamName = some name) : room.stampedName ≠ name := by
  intro same
  rw [BeeVideoRoom.stampedName, named, Option.getD_some, List.append_right_eq_self] at same
  exact Nat.toDigits_ne_nil same

/-- The stream of a join is not pushed under the name it was set up with. -/
theorem stamped_join_not_runs (roomName uid nickName key : Text) (creator : Bool) (role : Int)
    (pushed meant : Setup) (other : pushed.streamName ≠ meant.streamName) :
    ¬ Runs earlier "Join" (Meaning.join roomName uid nickName key creator role (some pushed)).fields
      (.join roomName uid nickName key creator role (some meant)) := by
  intro runs
  have acts := runs.acts
  rw [handle, if_pos rfl, join_fields] at acts
  split at acts
  · simp only [Meaning.act, Option.some.injEq, Act.open.injEq, Opened.mk.injEq, Pushed.mk.injEq,
      Json.string.injEq] at acts
    exact other acts.1.1
  · cases acts

theorem android_join_agrees (token : room.token = some key) (roomName uid nickName : Text)
    (creator : Bool) (role : Option Int) :
    Agrees earlier (.android room) (.join roomName uid nickName creator role) ↔
      role.isSome ∧ room.willPushVideo = false ∧ room.willPushAudio = false := by
  cases role with
  | none =>
    refine iff_of_false ?_ fun met => by cases met.1
    rintro ⟨_, _, _, executes, _, _⟩
    cases executes
  | some role =>
    have args := join_args token (some room.stampedName) roomName uid nickName creator role
      fun _ => rfl
    by_cases push : (room.willPushVideo || room.willPushAudio) = true
    · refine iff_of_false ?_ fun met => by simp [met.2] at push
      rintro ⟨_, _, meaning, executes, meant, done⟩
      cases known : room.streamName with
      | none => simp [Client.means, BeeVideoRoom.means, token, setup_missing push known] at meant
      | some name =>
        have setup := @setup_known room fun _ => by rw [known]; rfl
        rw [if_pos push, known] at setup
        simp only [Client.means, BeeVideoRoom.means, token, setup] at meant
        cases executes
        cases meant
        rw [args, if_pos push] at done
        exact stamped_join_not_runs roomName uid nickName key creator role
          (room.pushed room.stampedName) (room.pushed name) (stamped_other known) done
    · refine iff_of_true ⟨_, _, .join roomName uid nickName key creator role none, rfl, ?_, ?_⟩
        ⟨rfl, by simpa using push⟩
      · have setup := @setup_known room fun pushes => absurd pushes push
        rw [if_neg push] at setup
        simp [Client.means, BeeVideoRoom.means, token, setup]
      · rw [args, if_neg push]
        exact (join_runs_iff roomName uid nickName key creator role none).mpr (by simp)

/-! ### Windows -/

theorem plain_loose (known : text.all (plain strict) = true) : plainText text = true := by
  refine List.all_eq_true.mpr fun symbol mem => ?_
  obtain ⟨quote, backslash, least⟩ := (AssembledTexts.plain_text text).mp known symbol mem
  simp [plain, quote, backslash, cjson.printable symbol least]

theorem sound_loose (known : Simple literal) : (Token.literal literal).sound cjson = true := by
  simp only [Simple, Token.sound, strict, Bool.and_eq_true, Bool.or_eq_true, decide_eq_true_eq] at known
  obtain ⟨bares, ((numeral | yes) | no) | null⟩ := known
  · simp [Token.sound, cjson, takesNumber, bares, numeral]
  · simp [yes, Token.sound, cjson, bare]
  · simp [no, Token.sound, cjson, bare]
  · simp [null, Token.sound, cjson, bare]

/-- A text that spells out what is meant around the strings that are put in. -/
structure SpelledOut (assembled : Assembled) : Prop where
  written : assembled.text = write [] assembled.meant.spell []
  object : ∃ members, assembled.meant = .object members
  keyed : assembled.meant.keyed = true
  texts : assembled.meant.texts = assembled.given.map tostring
  names : ∀ name ∈ assembled.meant.names, name.all (plain strict) = true
  literals : ∀ literal ∈ assembled.meant.literals, Simple literal

theorem spelled_join (room : WinVideoRoom) (creator : Bool) : SpelledOut (.joinArg room creator) where
  written := Assembled.join_arg_written room creator
  object := ⟨_, rfl⟩
  keyed := rfl
  texts := rfl
  names := List.all_eq_true.mp rfl
  literals := by simp [Assembled.meant]

theorem spelled_leave (room : WinVideoRoom) : SpelledOut (.leaveArg room) where
  written := Assembled.leave_arg_written room
  object := ⟨_, rfl⟩
  keyed := rfl
  texts := rfl
  names := List.all_eq_true.mp rfl
  literals := by simp [Assembled.meant]

theorem spelled_connect (room : WinVideoRoom) (uid streamName : Text) (mediaType : BitVec 32)
    (videoRenderer : Int) : SpelledOut (.connectArg room uid streamName mediaType videoRenderer) where
  written := Assembled.connect_arg_written room uid streamName mediaType videoRenderer
  object := ⟨_, rfl⟩
  keyed := rfl
  texts := rfl
  names := List.all_eq_true.mp rfl
  literals := by simp [Assembled.meant]

theorem spelled_plain_iff (spelled : SpelledOut assembled) :
    Plain cjson assembled.meant.spell ↔ (assembled.given.map tostring).all plainText = true := by
  have parts := spell_holds (fun token => token.plain cjson = true)
    (fun token other => by cases token <;> simp_all [Token.plain]) _ assembled.meant (Nat.le_refl _)
  rw [Plain, parts, Held, spelled.texts, List.all_eq_true]
  exact and_iff_left ⟨fun name mem => plain_loose (spelled.names name mem), fun _ _ => rfl⟩

theorem spelled_sound (spelled : SpelledOut assembled) : Sound cjson assembled.meant.spell :=
  sound_iff.mpr fun literal mem => sound_loose (spelled.literals literal mem)

theorem read_of_plain (spelled : SpelledOut assembled)
    (known : (assembled.given.map tostring).all plainText = true) :
    getJsonData assembled.text = some assembled.meant := by
  obtain ⟨members, object⟩ := spelled.object
  have closed : ∀ token ∈ assembled.meant.spell.getLast?, token.isLiteral = false := by
    rw [object, AssembledTexts.last_of_object]
    rintro token ⟨⟩
    rfl
  have nothing : Reads cjson [] [] := ⟨1, rfl⟩
  rw [spelled.written]
  show decode cjson (write [] assembled.meant.spell ([] ++ write [] [] [])) = _
  exact decode_among (show assembled.meant.spell = assembled.meant.spell ++ ([] ++ []) by simp)
    ⟨(spelled_plain_iff spelled).mpr known, by simp [Plain]⟩
    ⟨spelled_sound spelled, by simp [Sound]⟩ closed (by simp) nothing

theorem plain_of_read {read : Json} (spelled : SpelledOut assembled)
    (decoded : getJsonData assembled.text = some read)
    (carried : assembled.meant.carriedBy read = true) :
    (assembled.given.map tostring).all plainText = true := by
  rw [spelled.written] at decoded
  have nothing : ink [] ≤ cost cjson [] := Nat.zero_le _
  have written : decode cjson (write [] assembled.meant.spell ([] ++ write [] [] [])) = some read := decoded
  have among := carried_among (show assembled.meant.spell = assembled.meant.spell ++ ([] ++ []) by simp)
    spelled.keyed ⟨spelled_sound spelled, by simp [Sound]⟩ nothing written carried
  exact (spelled_plain_iff spelled).mp among.1

/-- A text that is put together runs its meaning exactly if its strings are plain and the
object it is meant to be does. -/
theorem text_runs_iff (spelled : SpelledOut assembled) (same : assembled.meant = meaning.fields) :
    (∃ args, getJsonData assembled.text = some args ∧ Runs earlier command args meaning) ↔
      (assembled.given.map tostring).all plainText = true ∧
        Runs earlier command meaning.fields meaning := by
  constructor
  · rintro ⟨args, decoded, runs⟩
    have known := plain_of_read spelled decoded (same ▸ runs.carried)
    rw [read_of_plain spelled known, Option.some.injEq, same] at decoded
    exact ⟨known, decoded ▸ runs⟩
  · rintro ⟨known, runs⟩
    exact ⟨_, read_of_plain spelled known, same ▸ runs⟩

theorem windows_agrees_iff (room : WinVideoRoom) (spelled : SpelledOut assembled)
    (executes : Client.executes (.windows room) call = some (command, getJsonData assembled.text))
    (means : Client.means (.windows room) call = some meaning)
    (same : assembled.meant = meaning.fields) :
    Agrees earlier (.windows room) call ↔
      (assembled.given.map tostring).all plainText = true ∧
        Runs earlier command meaning.fields meaning := by
  rw [← text_runs_iff spelled same, Agrees, executes, means]
  constructor
  · rintro ⟨_, args, _, ran, meant, runs⟩
    simp only [Option.some.injEq, Prod.mk.injEq] at ran
    cases meant
    obtain ⟨rfl, decoded⟩ := ran
    exact ⟨args, decoded, runs⟩
  · rintro ⟨args, decoded, runs⟩
    exact ⟨_, args, _, by rw [decoded], rfl, runs⟩

theorem windows_join_agrees (room : WinVideoRoom) (roomName uid nickName : Option Text)
    (creator : Bool) (role : Option Int) :
    Agrees earlier (.windows room) (.join roomName uid nickName creator role) ↔
      ([roomName.getD [], uid.getD [], nickName.getD [], room.token, room.streamName].all
        plainText) = true ∧ (room.willPushVideo = true → room.videoSource ≠ 0) := by
  rw [windows_agrees_iff room (spelled_join (joined room roomName uid nickName role) creator) rfl rfl
    rfl, join_runs_iff]
  simp only [Option.mem_def, Option.some.injEq, forall_eq']
  exact Iff.rfl

theorem windows_leave_agrees (room : WinVideoRoom) :
    Agrees earlier (.windows room) .leave ↔ plainText room.roomName = true := by
  rw [windows_agrees_iff room (spelled_leave room) rfl rfl rfl, and_iff_left (leave_runs room.roomName)]
  exact (Bool.and_true (plainText room.roomName)).congr_left

theorem windows_connect_agrees (room : WinVideoRoom) (uid streamName : Option Text)
    (mediaType : BitVec 32) (videoRenderer : Option Int) :
    Agrees earlier (.windows room) (.connect uid streamName mediaType videoRenderer) ↔
      ([room.roomName, uid.getD [], streamName.getD []].all plainText) = true := by
  rw [windows_agrees_iff room (spelled_connect room (uid.getD []) (streamName.getD []) mediaType
    (videoRenderer.getD 0)) rfl rfl rfl, and_iff_left (connect_runs _ _ _ _ _ _).1]
  exact Iff.rfl

/-! ### Commands that never do -/

/-- The script passes on a reason of its own, and without a type it stops. -/
theorem disconnect_disagrees (client : Client) (uid streamName : Option Text) (reason : Int) :
    ¬ Agrees earlier client (.disconnect uid streamName reason) := by
  rintro ⟨command, args, meaning, executes, means, runs⟩
  have acts := runs.acts
  cases client with
  | windows room => cases executes
  | android room =>
    simp only [Client.means, BeeVideoRoom.means] at means
    obtain ⟨roomName, known, named⟩ := Option.bind_eq_some_iff.mp means
    obtain ⟨uid, rfl, streamed⟩ := Option.bind_eq_some_iff.mp named
    obtain ⟨streamName, rfl, meant⟩ := Option.bind_eq_some_iff.mp streamed
    cases executes
    cases meant
    have done : handle earlier "DisconnectStream" (room.disconnectArgs uid streamName
        (some eVideoRoomPartyType_Remote) reason) = some (.doDisconnectStream (.string uid)
          (.string streamName) (.literal (decimal eVideoRoomPartyType_Remote)) none) := by
      rw [BeeVideoRoom.disconnectArgs, known]
      exact disconnect_args eVideoRoomPartyType_Remote
    rw [done] at acts
    cases acts
  | ios room =>
    simp only [Client.means, BeeVideoRoom.means] at means
    obtain ⟨roomName, known, named⟩ := Option.bind_eq_some_iff.mp means
    obtain ⟨uid, rfl, streamed⟩ := Option.bind_eq_some_iff.mp named
    obtain ⟨streamName, rfl, _⟩ := Option.bind_eq_some_iff.mp streamed
    cases executes
    have stops : handle earlier "DisconnectStream" (room.disconnectArgs uid streamName none reason) =
        none := by
      rw [BeeVideoRoom.disconnectArgs, known]
      rfl
    rw [stops] at acts
    cases acts

theorem level_disagrees (client : Client)
    (level : call = .getAudioInputLevel streamName ∨
      ∃ uid, call = .getAudioOutputLevel uid streamName) :
    ¬ Agrees earlier client call := by
  rintro ⟨command, args, meaning, executes, _, runs⟩
  have isGlobal := runs.isGlobal
  rcases level with rfl | ⟨uid, rfl⟩ <;>
    cases client <;> cases executes <;> revert isGlobal <;> decide

/-! ### Every call -/

/-- An accepted call runs the script as its caller means exactly when the condition of its
client holds: never a disconnect or a level. -/
theorem commands_agree_iff (earlier : Pushed) (client : Client) (call : Call)
    (accepted : client.accepts call) : Agrees earlier client call ↔ client.Met call := by
  cases call with
  | join roomName uid nickName creator role =>
    cases client with
    | android room =>
      simp only [Client.accepts, Bool.and_eq_true] at accepted
      obtain ⟨⟨⟨⟨⟨roomName', uid'⟩, nickName'⟩, token⟩, _⟩, _⟩ := accepted
      obtain ⟨roomName, rfl⟩ := Option.isSome_iff_exists.mp roomName'
      obtain ⟨uid, rfl⟩ := Option.isSome_iff_exists.mp uid'
      obtain ⟨nickName, rfl⟩ := Option.isSome_iff_exists.mp nickName'
      obtain ⟨key, token⟩ := Option.isSome_iff_exists.mp token
      exact android_join_agrees token roomName uid nickName creator role
    | ios room =>
      simp only [Client.accepts, Bool.and_eq_true] at accepted
      obtain ⟨⟨⟨⟨⟨roomName', uid'⟩, nickName'⟩, token⟩, _⟩, role'⟩ := accepted
      obtain ⟨roomName, rfl⟩ := Option.isSome_iff_exists.mp roomName'
      obtain ⟨uid, rfl⟩ := Option.isSome_iff_exists.mp uid'
      obtain ⟨nickName, rfl⟩ := Option.isSome_iff_exists.mp nickName'
      obtain ⟨key, token⟩ := Option.isSome_iff_exists.mp token
      obtain ⟨role, rfl⟩ := Option.isSome_iff_exists.mp role'
      exact ios_join_agrees token roomName uid nickName creator role
    | windows room => exact windows_join_agrees room roomName uid nickName creator role
  | leave =>
    cases client with
    | android room => exact leave_known (.inl rfl)
    | ios room => exact leave_known (.inr rfl)
    | windows room => exact windows_leave_agrees room
  | connect uid streamName mediaType videoRenderer =>
    cases client with
    | android room =>
      simp only [Client.accepts, Bool.and_eq_true] at accepted
      obtain ⟨⟨⟨⟨uid', streamName'⟩, renderer'⟩, _⟩, _⟩ := accepted
      obtain ⟨uid, rfl⟩ := Option.isSome_iff_exists.mp uid'
      obtain ⟨streamName, rfl⟩ := Option.isSome_iff_exists.mp streamName'
      obtain ⟨videoRenderer, rfl⟩ := Option.isSome_iff_exists.mp renderer'
      exact connect_known (.inl rfl) uid streamName mediaType videoRenderer
    | ios room =>
      simp only [Client.accepts, Bool.and_eq_true] at accepted
      obtain ⟨⟨⟨uid', streamName'⟩, renderer'⟩, _⟩ := accepted
      obtain ⟨uid, rfl⟩ := Option.isSome_iff_exists.mp uid'
      obtain ⟨streamName, rfl⟩ := Option.isSome_iff_exists.mp streamName'
      obtain ⟨videoRenderer, rfl⟩ := Option.isSome_iff_exists.mp renderer'
      exact connect_known (.inr rfl) uid streamName mediaType videoRenderer
    | windows room => exact windows_connect_agrees room uid streamName mediaType videoRenderer
  | disconnect uid streamName reason =>
    refine iff_of_false (disconnect_disagrees client uid streamName reason) ?_
    cases client <;> exact id
  | getAudioInputLevel streamName =>
    refine iff_of_false (level_disagrees client (.inl rfl)) ?_
    cases client <;> exact id
  | getAudioOutputLevel uid streamName =>
    refine iff_of_false (level_disagrees client (.inr ⟨uid, rfl⟩)) ?_
    cases client <;> exact id

/-- A room on iOS that has joined. -/
def joinedRoom : BeeVideoRoom where
  roomName := some "room".toList
  uid := some "guest".toList
  isRegister := true

theorem connect_agrees :
    Agrees {} (.ios joinedRoom) (.connect (some "other".toList) (some "stream".toList) 3 (some 1)) :=
  (commands_agree_iff {} (.ios joinedRoom) _ rfl).mpr rfl

/-- `type` is missing: the script stops at its assertion. -/
theorem disconnect_stops :
    let call := Call.disconnect (some "other".toList) (some "stream".toList) 0
    Client.accepts (.ios joinedRoom) call = true ∧
      (∃ args, Client.executes (.ios joinedRoom) call = some ("DisconnectStream", some args) ∧
        handle {} "DisconnectStream" args = none) ∧ ¬ Agrees {} (.ios joinedRoom) call := by
  refine ⟨rfl, ⟨_, rfl, rfl⟩, ?_⟩
  rintro ⟨_, _, _, executes, _, runs⟩
  cases executes
  exact absurd runs.acts (by rintro ⟨⟩)

end BeeSdk.ApiCommands
