import BeeSdk.AssembledProofs

/-! The notice of the members, which a loop puts together, what the sink is told of a
notification, and both for every text. -/
namespace BeeSdk.AssembledTexts
open JsonText ScriptTexts WinRoom
open StateMachine (kBeeErrorCode_Count)

namespace Assembled
set_option maxRecDepth 20000

/-! ### The members of a room -/

/-- The members as the loop writes them, when so many are there before. -/
def listed : Nat → List Stream → Text
  | _, [] => []
  | count, stream :: streams =>
    (if count > 0 then ",".toList else []) ++ (VideoRoom.memberText stream ++ listed (count + 1) streams)

theorem report_loop (room : Room) (isLoopback : Bool) (streamList : List Stream) (data : Text)
    (count : Nat) :
    streamList.foldl (VideoRoom.reportMember room isLoopback) (data, count) =
      (data ++ listed count (streamList.filter (VideoRoom.reported room isLoopback)),
        count + (streamList.filter (VideoRoom.reported room isLoopback)).length) := by
  induction streamList generalizing data count with
  | nil => simp [listed]
  | cons stream streams ih =>
    rw [List.foldl_cons, VideoRoom.reportMember]
    by_cases kept : VideoRoom.reported room isLoopback stream = true
    · rw [if_pos kept, ih, List.filter_cons_of_pos kept, listed]
      by_cases some : count > 0
      · simp [some, Nat.add_assoc, Nat.add_comm]
      · simp [some, Nat.add_assoc, Nat.add_comm]
    · rw [if_neg kept, ih, List.filter_cons_of_neg kept]

theorem member_written (stream : Stream) (rest : Text) :
    write [] (memberValue stream).spell rest = VideoRoom.memberText stream ++ rest := by
  have whole : VideoRoom.memberText stream = write [] (memberValue stream).spell [] := by
    simp only [VideoRoom.memberText, memberValue, string, number]
    repeat rw [String.toList_ofList]
    rfl
  rw [write_rest, ← whole]

theorem behind_written (count : Nat) (streams : List Stream) (rest : Text) :
    write [] (behindComma .closeArray (streams.map fun stream => (memberValue stream).spell)) rest =
      listed (count + 1) streams ++ ']' :: rest := by
  induction streams generalizing count with
  | nil => rfl
  | cons stream streams ih =>
    rw [List.map_cons, behindComma, write, write_compact, member_written, ih (count + 1), listed]
    simp [Token.write]

theorem listed_written (streams : List Stream) (rest : Text) :
    write [] (enclosed .closeArray (Json.spellItems (streams.map memberValue))) rest =
      listed 0 streams ++ ']' :: rest := by
  rw [Json.spell_items, List.map_map]
  cases streams with
  | nil => rfl
  | cons stream streams =>
    have later := behind_written 0 streams rest
    rw [List.map_cons, enclosed, write_compact, listed]
    simp only [Function.comp_def, member_written, later]
    simp

theorem members_written (room : Room) (isLoopback : Bool) (streamList : List Stream)
    (reports : (VideoRoom.reportMembers room isLoopback streamList).isSome) :
    (members room isLoopback streamList reports).text =
      write ([0, 0, 0, 0, 0, 1, 0, 0, 0, 1, 0, 0] ++ [])
        (members room isLoopback streamList reports).meant.spell [] := by
  have sent : VideoRoom.reportMembers room isLoopback streamList =
      some ((members room isLoopback streamList reports).text) := (Option.some_get reports).symm
  rw [VideoRoom.reportMembers, report_loop] at sent
  simp only [Option.ite_none_right_eq_some, Option.some.injEq] at sent
  rw [← sent.2]
  let kept := (streamList.filter (VideoRoom.reported room isLoopback)).map memberValue
  let front : List Token := [.openObject, .string "type".toList, .colon, .literal (decimal 7), .comma,
    .string "room_name".toList, .colon, .string (tostring room.roomName), .comma,
    .string "members".toList, .colon, .openArray]
  have spelled : (members room isLoopback streamList reports).meant.spell =
      front ++ (enclosed .closeArray (Json.spellItems kept) ++ [.closeObject]) := by
    simp only [meant, front, string, number, array]
    rfl
  have opened : format "\x7b\"type\":%d, \"room_name\":\"%s\", \"members\":[".toList
      [decimal 7, tostring room.roomName] = write [0, 0, 0, 0, 0, 1, 0, 0, 0, 1, 0, 0] front [] := by
    simp only [front]
    repeat rw [String.toList_ofList]
    rfl
  rw [spelled, write_append rfl, write_compact, listed_written, opened, List.append_assoc, ← write_rest]
  rfl

theorem members_plain (streams : List Stream) :
    (enclosed .closeArray (Json.spellItems (streams.map memberValue))).all (Token.plain strict) =
      ((streams.flatMap streamStrings).map tostring).all fun text => text.all (JsonText.plain strict) := by
  have each : ∀ stream, (memberValue stream).spell.all (Token.plain strict) =
      ((streamStrings stream).map tostring).all fun text => text.all (JsonText.plain strict) :=
    fun _ => rfl
  rw [Bool.eq_iff_iff, List.all_eq_true, Json.spell_items,
    enclosed_holds (fun token => Token.plain strict token = true) rfl rfl]
  simp only [List.forall_mem_map, List.map_flatMap, List.all_flatMap, List.all_eq_true, ← each]

theorem members_simple (streams : List Stream) :
    ∀ literal ∈ Json.itemsLiterals (streams.map memberValue), Simple literal := by
  induction streams with
  | nil => simp
  | cons stream streams ih => simpa [memberValue] using ih

theorem members_keyed (streams : List Stream) : Json.itemsKeyed (streams.map memberValue) = true := by
  induction streams with
  | nil => rfl
  | cons stream streams ih =>
    have first : (memberValue stream).keyed = true := rfl
    simp [Json.itemsKeyed, first, ih]

theorem laid_members (room : Room) (isLoopback : Bool) (streamList : List Stream)
    (reports : (VideoRoom.reportMembers room isLoopback streamList).isSome) :
    IsLaid (members room isLoopback streamList reports) := by
  let kept := streamList.filter (VideoRoom.reported room isLoopback)
  refine ⟨_, _, _, _, _, _, laid_whole _ rfl (members_written room isLoopback streamList reports)
    ?_ (sound_of_simple ?_) ?_⟩
  · have keys := members_keyed kept
    simp only [meant, Json.keyed, Json.membersKeyed, number, string, array]
    simp only [kept] at keys
    rw [keys]
    rfl
  · simpa [meant] using members_simple kept
  · have plain := members_plain kept
    obtain ⟨front, spelled, named⟩ : ∃ front, (members room isLoopback streamList reports).meant.spell =
        front ++ (enclosed .closeArray (Json.spellItems (kept.map memberValue)) ++ [.closeObject]) ∧
        front.all (Token.plain strict) =
          ((tostring room.roomName).all (JsonText.plain strict) && true) :=
      ⟨[.openObject, .string "type".toList, .colon, .literal (decimal 7), .comma,
        .string "room_name".toList, .colon, .string (tostring room.roomName), .comma,
        .string "members".toList, .colon, .openArray], rfl, rfl⟩
    rw [spelled, List.all_append, List.all_append, plain, named]
    simp [given, Token.plain, kept]

/-- Every text is laid. -/
theorem laid (assembled : Assembled) : IsLaid assembled := by
  cases assembled with
  | joinArg => exact laid_join_arg ..
  | leaveArg => exact laid_leave_arg ..
  | connectArg => exact laid_connect_arg ..
  | createHandleEx => exact laid_create_handle ..
  | destroy => exact laid_destroy ..
  | listen => exact laid_listen ..
  | keepalive => exact laid_keepalive ..
  | completedMsg => exact laid_completed
  | sendCandidate => exact laid_candidate ..
  | sendLocalOffer => exact laid_local_offer ..
  | sendRemoteAnswer => exact laid_remote_answer ..
  | remoteJoined => exact laid_remote_joined ..
  | reportClose => exact laid_report_close ..
  | mediaSvcConnect => exact laid_media_connect ..
  | mediaSvcCreateback => exact laid_media_createback ..
  | mediaSvcTimeout => exact laid_media_timeout ..
  | mediaSvcListTimeout => exact laid_media_list ..
  | audioInputLevel => exact laid_input_level ..
  | audioOutputLevel => exact laid_output_level ..
  | members => exact laid_members ..
  | slowlink => exact laid_slowlink ..
  | mediaSvcJoinback => exact laid_media_joinback ..
  | mediaSvcReceiveback => exact laid_media_receiveback ..
  | mediaSvcError => exact laid_media_error ..
  | msgSvcConnect => exact laid_board_connect ..
  | msgSvcCreateback => exact laid_board_createback ..
  | msgSvcTimeout => exact laid_board_timeout ..
  | msgSvcListTimeout => exact laid_board_list ..
  | boardClose => exact laid_board_close ..
  | msgSvcJoinback => exact laid_board_joinback ..
  | memberJoined => exact laid_member_joined ..
  | memberLeft => exact laid_member_left ..
  | msgSvcReceiveback => exact laid_board_receiveback ..
  | msgSvcError => exact laid_board_error ..

end Assembled

/-! ### What is read of a text -/

theorem plain_text (text : Text) : text.all (plain strict) = true ↔
    ∀ symbol ∈ text, symbol ≠ '"' ∧ symbol ≠ '\\' ∧ 32 ≤ symbol.toNat := by
  simp [JsonText.plain, strict, and_assoc]

theorem fit_iff (assembled : Assembled) : assembled.Fit ↔ (∀ text ∈ assembled.given, text.isSome) ∧
    ((assembled.given.map tostring).all fun text => text.all (plain strict)) = true ∧
    assembled.handed = true := by
  rw [Assembled.Fit, ← and_assoc]
  refine and_congr_left' ?_
  rw [List.all_map, List.all_eq_true, ← forall₂_and]
  refine forall₂_congr fun text mem => ?_
  cases text with
  | none => simp
  | some text =>
    simp only [Option.some.injEq, exists_eq_left', Option.isSome_some, true_and]
    exact (plain_text text).symm

theorem decode_of_plain (assembled : Assembled)
    (known : ((assembled.given.map tostring).all fun text => text.all (plain strict)) = true) :
    decode strict assembled.text = some assembled.meant := by
  obtain ⟨gaps, front, inner, data, gaps', back, laid⟩ := assembled.laid
  have all := List.all_eq_true.mp (laid.plain.trans known)
  rw [laid.written]
  exact decode_among laid.spelled
    ⟨fun token mem => all token (List.mem_append_left _ mem),
      fun token mem => all token (List.mem_append_right _ mem)⟩
    laid.sound laid.ends laid.follows laid.reads

theorem plain_of_carried {read : Json} (assembled : Assembled) (terse : assembled.Terse)
    (decoded : decode strict assembled.text = some read) (carried : assembled.meant.carriedBy read = true) :
    ((assembled.given.map tostring).all fun text => text.all (plain strict)) = true := by
  obtain ⟨gaps, front, inner, data, gaps', back, laid⟩ := assembled.laid
  obtain ⟨spare, keys⟩ := laid.terse terse
  rw [laid.written] at decoded
  obtain ⟨plainFront, plainBack⟩ := carried_among laid.spelled keys laid.sound spare decoded carried
  rw [← laid.plain, List.all_append, Bool.and_eq_true, List.all_eq_true, List.all_eq_true]
  exact ⟨plainFront, plainBack⟩

/-! ### What the sink is told of it -/

variable {json : BeeJson}

theorem decimal_not_null (whole : Int) : decimal whole ≠ "null".toList := by
  intro same
  have numeral := numeral_decimal whole
  rw [same] at numeral
  exact absurd numeral (by decide)

theorem decimal_short {whole : Int} (least : -2147483648 ≤ whole) (most : whole < 2147483648) :
    (decimal whole).length < 32 := by
  have short : ∀ digits : Nat, digits < 10000000000 → (Nat.toDigits 10 digits).length ≤ 10 :=
    fun digits small => (Nat.length_toDigits_le_iff (by decide) (by decide)).mpr small
  cases whole with
  | ofNat digits =>
    have few := short digits (by have : (digits : Int) < 2147483648 := most; omega)
    simp only [decimal]
    omega
  | negSucc digits =>
    have few := short (digits + 1) (by omega)
    simp only [decimal, List.length_cons]
    omega

section
variable {fields : List (Text × Json)} {key : String}

theorem int_member {whole : Int} (faithful : json.Faithful)
    (last : lastOf key.toList fields = some (.literal (decimal whole)))
    (least : -2147483648 ≤ whole) (most : whole < 2147483648) :
    intMember json (.object fields) key = some (some whole) := by
  have counted := faithful.counts whole least most
  have there : isNull (.literal (decimal whole)) = false := by
    simpa only [isNull, decide_eq_false_iff_not] using decimal_not_null whole
  simp only [intMember, member, last, Option.filter_some, there, Bool.not_false, ↓reduceIte, counted,
    Option.map_some]

theorem no_int_member (last : lastOf key.toList fields = none) :
    intMember json (.object fields) key = some none := by
  simp [intMember, member, last]

theorem text_member {text : Text} (last : lastOf key.toList fields = some (.string text))
    (known : text.all (plain strict) = true) :
    textMember (.object fields) key = some (some text) := by
  have whole : text.takeWhile (· ≠ '\x00') = text := by
    rw [List.takeWhile_eq_self_iff]
    intro symbol mem
    have least := ((plain_text text).mp known symbol mem).2.2
    simp only [ne_eq, decide_eq_true_eq]
    rintro rfl
    exact absurd least (by decide)
  simp only [textMember, member, last, isNull, Option.filter_some, Bool.not_false, ↓reduceIte, whole]

theorem no_text_member (last : lastOf key.toList fields = none) :
    textMember (.object fields) key = some none := by
  simp [textMember, member, last]

end

/-- What every notification has: a type, perhaps an error, and texts. -/
structure Fields (json : BeeJson) (value : Json) (type : Int) (ec : Option Int)
    (msg streamName uid : Option Text) : Prop where
  type : intMember json value "type" = some (some type)
  ec : intMember json value "ec" = some ec
  msg : textMember value "msg" = some msg
  roomName : ∃ roomName, textMember value "room_name" = some roomName
  streamName : textMember value "stream_name" = some streamName
  uid : textMember value "uid" = some uid

theorem handle_data_fields {value : Json} {text : Text} (type : Int) (ec : Option Int)
    (msg streamName uid : Option Text) (parsed : json.parse text = some value) (fields : Fields json value type ec msg streamName uid)
    (known : 0 ≤ type ∧ type ≤ msgTypeCount) (error : 0 ≤ ec.getD 0 ∧ ec.getD 0 < kBeeErrorCode_Count) :
    handleData json text =
      tellSink json value type (ec.getD 0) (msg.getD []) (streamName.getD []) (uid.getD []) := by
  obtain ⟨roomName, room⟩ := fields.roomName
  simp [handleData, parsed, fields.type, fields.ec, fields.msg, room, fields.streamName, fields.uid,
    known.1, known.2, error.1, error.2]

/-- A text that nothing is put into from elsewhere is parsed as what is meant. -/
theorem parsed_of_plain (faithful : json.Faithful) (assembled : Assembled) (alone : assembled.inside = none)
    (known : ((assembled.given.map tostring).all fun text => text.all (plain strict)) = true)
    (short : ∀ literal ∈ assembled.meant.literals, literal.length < 32) :
    json.parse assembled.text = some assembled.meant := by
  refine faithful.reads _ _ (decode_of_plain assembled known) ?_
  obtain ⟨gaps, front, inner, data, gaps', back, laid⟩ := assembled.laid
  have whole := laid.spelled
  rw [laid.alone alone, List.nil_append] at whole
  have plain := List.all_eq_true.mp (laid.plain.trans known)
  rw [← whole] at plain
  have marks : ∀ token, (∀ text, token ≠ .string text ∧ token ≠ .literal text) → tame token = true :=
    fun token other => by cases token <;> simp_all [tame]
  have parts := spell_holds (fun token => token.plain strict = true)
    (fun token other => by cases token <;> simp_all [Token.plain]) _ assembled.meant (Nat.le_refl _)
  have clean : ∀ text, (Token.string text).plain strict = true → tame (.string text) = true := by
    intro text held
    simp only [tame, List.all_eq_true, decide_eq_true_eq]
    rintro symbol mem rfl
    exact absurd ((plain_text text).mp held _ mem).2.2 (by decide)
  obtain ⟨texts, names, -⟩ := parts.mp plain
  refine (spell_holds _ marks _ assembled.meant (Nat.le_refl _)).mpr
    ⟨fun text mem => clean text (texts text mem), fun name mem => clean name (names name mem), ?_⟩
  intro literal mem
  simpa [tame] using short literal mem

theorem level_bounds (level : Int32) : -2147483648 ≤ level.toInt ∧ level.toInt < 2147483648 :=
  ⟨Int32.le_toInt level, Int32.toInt_lt level⟩

/-- What goes into a text, each of it plain. -/
def PlainStrings (assembled : Assembled) : Prop :=
  ((assembled.given.map tostring).all fun text => text.all (plain strict)) = true

section
open Assembled
variable (faithful : json.Faithful)
include faithful

/-- A notice of a party, joined or left. -/
theorem told_party {type reason : Int} {roomName streamNameDisplay uid : Option Text} {text : Text}
    (typed : 0 ≤ type ∧ type ≤ 3) (error : 0 ≤ reason ∧ reason < kBeeErrorCode_Count)
    (strings : (tostring roomName).all (plain strict) = true ∧
      (tostring streamNameDisplay).all (plain strict) = true ∧ (tostring uid).all (plain strict) = true)
    (parsed : json.parse text = some (notice type reason roomName
      [string "stream_name" (tostring streamNameDisplay), string "uid" (tostring uid)])) :
    handleData json text = tellSink json (notice type reason roomName
      [string "stream_name" (tostring streamNameDisplay), string "uid" (tostring uid)])
        type reason [] (tostring streamNameDisplay) (tostring uid) := by
  have bound : reason < 61 := error.2
  exact handle_data_fields _ (some reason) none (some (tostring streamNameDisplay))
    (some (tostring uid)) parsed
    ⟨int_member faithful rfl (by omega) (by omega), int_member faithful rfl (by omega) (by omega),
      no_text_member rfl, ⟨_, text_member rfl strings.1⟩, text_member rfl strings.2.1,
      text_member rfl strings.2.2⟩ ⟨typed.1, by simp only [msgTypeCount]; omega⟩ error

theorem told_remote_joined {roomName streamNameDisplay uid : Option Text}
    (known : PlainStrings (remoteJoined roomName streamNameDisplay uid)) :
    handleData json (remoteJoined roomName streamNameDisplay uid).text =
      some (.onConnect (tostring uid) (tostring streamNameDisplay) 0 []) := by
  have strings := known
  simp only [PlainStrings, given, List.map_cons, List.all_cons, Bool.and_eq_true] at strings
  have parsed := parsed_of_plain faithful _ rfl known (by simp [meant, notice, decimal_short])
  exact told_party faithful (by decide) (by decide) ⟨strings.1, strings.2.1, strings.2.2.1⟩ parsed

theorem told_close {isLocal allReady : Bool} {reason : Int} {roomName streamNameDisplay uid : Option Text}
    (error : 0 ≤ reason ∧ reason < kBeeErrorCode_Count)
    (known : PlainStrings (reportClose isLocal allReady reason roomName streamNameDisplay uid)) :
    (reportClose isLocal allReady reason roomName streamNameDisplay uid).Told
      (handleData json (reportClose isLocal allReady reason roomName streamNameDisplay uid).text) := by
  have strings := known
  simp only [PlainStrings, given, List.map_cons, List.all_cons, Bool.and_eq_true] at strings
  have typed : 0 ≤ closeType isLocal allReady ∧ closeType isLocal allReady ≤ 3 := by
    cases isLocal <;> cases allReady <;> decide
  have bound : reason < 61 := error.2
  have parsed := parsed_of_plain faithful _ rfl known (by
    simp only [meant, notice, literals_object, literals_number, literals_string, literals_nil,
      List.forall_mem_cons]
    exact ⟨decimal_short (by omega) (by omega), decimal_short (by omega) (by omega), by simp⟩)
  have told := told_party faithful typed error ⟨strings.1, strings.2.1, strings.2.2.1⟩ parsed
  rw [Told, told]
  cases isLocal <;> cases allReady <;> rfl

theorem told_joinback {room : Room} (known : PlainStrings (mediaSvcJoinback room)) :
    handleData json (mediaSvcJoinback room).text = some (.onJoin (tostring room.streamNameDisplay) 0 []) := by
  have strings := known
  simp only [PlainStrings, given, List.map_cons, List.all_cons, Bool.and_eq_true] at strings
  have parsed := parsed_of_plain faithful _ rfl known (by simp [meant, notice, decimal_short])
  exact handle_data_fields 0 (some 0) none (some (tostring room.streamNameDisplay))
    none parsed
    ⟨int_member faithful rfl (by decide) (by decide), int_member faithful rfl (by decide) (by decide),
      no_text_member rfl, ⟨_, text_member rfl strings.1⟩, text_member rfl strings.2.1,
      no_text_member rfl⟩ (by decide) (by decide)

theorem told_error {room : Room} {data : Text} (known : PlainStrings (mediaSvcError room data)) :
    handleData json (mediaSvcError room data).text =
      some (.onJoin (tostring room.streamNameDisplay) 38 data) := by
  have strings := known
  simp only [PlainStrings, given, List.map_cons, List.all_cons, Bool.and_eq_true] at strings
  have parsed := parsed_of_plain faithful _ rfl known (by simp [meant, notice, decimal_short])
  exact handle_data_fields 0 (some 38) (some data) (some (tostring room.streamNameDisplay))
    none parsed
    ⟨int_member faithful rfl (by decide) (by decide), int_member faithful rfl (by decide) (by decide),
      text_member rfl strings.2.2.1, ⟨_, text_member rfl strings.1⟩, text_member rfl strings.2.1,
      no_text_member rfl⟩ (by decide) (by decide)

theorem told_input_level {room : Room} {streamName : Option Text} {level : Int32}
    (known : PlainStrings (audioInputLevel room streamName level)) :
    handleData json (audioInputLevel room streamName level).text =
      some (.onAudioInputLevel (tostring streamName) level.toInt) := by
  have strings := known
  simp only [PlainStrings, given, List.map_cons, List.all_cons, Bool.and_eq_true] at strings
  obtain ⟨least, most⟩ := level_bounds level
  have parsed := parsed_of_plain faithful _ rfl known (by simp [meant, decimal_short, least, most])
  have leveled : intMember json (audioInputLevel room streamName level).meant "level" =
      some (some level.toInt) := int_member faithful rfl least most
  refine (handle_data_fields 9 none none (some (tostring streamName))
    (some (tostring room.uid)) parsed
    ⟨int_member faithful rfl (by decide) (by decide), no_int_member rfl,
      no_text_member rfl, ⟨_, text_member rfl strings.2.1⟩, text_member rfl strings.2.2.1,
      text_member rfl strings.1⟩ (by decide) (by decide)).trans ?_
  simp [tellSink, leveled]

theorem told_output_level {room : Room} {uid streamName : Option Text} {level : Int32}
    (known : PlainStrings (audioOutputLevel room uid streamName level)) :
    handleData json (audioOutputLevel room uid streamName level).text =
      some (.onAudioOutputLevel (tostring uid) (tostring streamName) level.toInt) := by
  have strings := known
  simp only [PlainStrings, given, List.map_cons, List.all_cons, Bool.and_eq_true] at strings
  obtain ⟨least, most⟩ := level_bounds level
  have parsed := parsed_of_plain faithful _ rfl known (by simp [meant, decimal_short, least, most])
  have leveled : intMember json (audioOutputLevel room uid streamName level).meant "level" =
      some (some level.toInt) := int_member faithful rfl least most
  refine (handle_data_fields 10 none none (some (tostring streamName))
    (some (tostring uid)) parsed
    ⟨int_member faithful rfl (by decide) (by decide), no_int_member rfl,
      no_text_member rfl, ⟨_, text_member rfl strings.2.1⟩, text_member rfl strings.2.2.1,
      text_member rfl strings.1⟩ (by decide) (by decide)).trans ?_
  simp [tellSink, leveled]

theorem member_info {stream : Stream} (known : ∀ text ∈ streamStrings stream,
      (tostring text).all (plain strict) = true) :
    memberInfo json (memberValue stream) = some (some (memberInfoOf stream)) := by
  simp only [streamStrings, List.forall_mem_cons] at known
  obtain ⟨least, most⟩ := level_bounds stream.role
  have typed : -2147483648 ≤ VideoRoom.mediaTypeOf stream ∧
      VideoRoom.mediaTypeOf stream < 2147483648 := by
    unfold VideoRoom.mediaTypeOf
    split
    · decide
    · split <;> decide
  have uid : textMember (memberValue stream) "uid" = some (some (tostring stream.uid)) :=
    text_member rfl known.2.1
  have nickName : textMember (memberValue stream) "nick_name" =
      some (some (VideoRoom.nickNameOf stream)) := text_member rfl known.2.2.1
  have streamName : textMember (memberValue stream) "stream_name" = some (some stream.streamName) :=
    text_member rfl known.1
  have mediaType : intMember json (memberValue stream) "media_type" =
      some (some (VideoRoom.mediaTypeOf stream)) := int_member faithful rfl typed.1 typed.2
  have role : intMember json (memberValue stream) "role" = some (some stream.role.toInt) :=
    int_member faithful rfl least most
  simp [memberInfo, uid, nickName, streamName, mediaType, role, memberInfoOf]

theorem members_info (streams : List Stream) (known : ∀ stream ∈ streams, ∀ text ∈ streamStrings stream,
      (tostring text).all (plain strict) = true) :
    membersInfo json (streams.map memberValue) = some (streams.map memberInfoOf) := by
  induction streams with
  | nil => rfl
  | cons stream streams ih =>
    have first := member_info faithful (known stream List.mem_cons_self)
    have others := ih fun other mem => known other (List.mem_cons_of_mem _ mem)
    have there : isNull (memberValue stream) = false := rfl
    simp [membersInfo, there, first, others]

omit faithful in
theorem members_short (streams : List Stream) :
    ∀ literal ∈ Json.itemsLiterals (streams.map memberValue), literal.length < 32 := by
  induction streams with
  | nil => simp
  | cons stream streams ih =>
    obtain ⟨least, most⟩ := level_bounds stream.role
    have typed : (decimal (VideoRoom.mediaTypeOf stream)).length < 32 := by
      unfold VideoRoom.mediaTypeOf
      split
      · decide
      · split <;> decide
    simpa [memberValue, decimal_short, least, most, typed] using ih

theorem told_members {room : Room} {isLoopback : Bool} {streamList : List Stream}
    {reports : (VideoRoom.reportMembers room isLoopback streamList).isSome}
    (known : PlainStrings (members room isLoopback streamList reports)) :
    handleData json (members room isLoopback streamList reports).text =
      some (.onMembers ((streamList.filter (VideoRoom.reported room isLoopback)).map memberInfoOf)) := by
  have strings := known
  simp only [PlainStrings, given, List.map_cons, List.all_cons, Bool.and_eq_true] at strings
  have parsed := parsed_of_plain faithful _ rfl known (by
    simpa [meant, decimal_short] using members_short _)
  have listed : member (members room isLoopback streamList reports).meant "members" =
      some (some (.array ((streamList.filter (VideoRoom.reported room isLoopback)).map memberValue))) := rfl
  have infos := members_info faithful (streamList.filter (VideoRoom.reported room isLoopback))
    fun stream mem text given => List.all_eq_true.mp strings.2 _ (List.mem_map_of_mem
      (List.mem_flatMap.mpr ⟨stream, mem, given⟩))
  refine (handle_data_fields 7 none none none
    none parsed
    ⟨int_member faithful rfl (by decide) (by decide), no_int_member rfl, no_text_member rfl,
      ⟨_, text_member rfl strings.1⟩, no_text_member rfl, no_text_member rfl⟩
    (by decide) (by decide)).trans ?_
  simp [tellSink, listed, elements, infos]

theorem told_of_fit (assembled : Assembled) (fit : assembled.Fit) :
    assembled.Told (handleData json assembled.text) := by
  obtain ⟨-, known, way⟩ := (fit_iff assembled).mp fit
  cases assembled with
  | remoteJoined => exact told_remote_joined faithful known
  | reportClose =>
    simp only [handed, Bool.and_eq_true, decide_eq_true_eq] at way
    exact told_close faithful way known
  | audioInputLevel => exact told_input_level faithful known
  | audioOutputLevel => exact told_output_level faithful known
  | members => exact told_members faithful known
  | slowlink => cases way
  | mediaSvcJoinback => exact told_joinback faithful known
  | mediaSvcError => exact told_error faithful known
  | _ => trivial

end

/-- The error a call of the sink carries. -/
def errorOf : SinkCall → Option Int
  | .onJoin _ error _ => some error
  | .onLeave _ error _ => some error
  | .onConnect _ _ error _ => some error
  | .onDisconnect _ _ error _ => some error
  | _ => none

/-- No call has an error that is none, and no slow link is told. -/
theorem told_known {text : Text} {call : SinkCall} (told : handleData json text = some call) :
    (∀ error ∈ errorOf call, 0 ≤ error ∧ error < kBeeErrorCode_Count) ∧
      ∀ uid streamName isLocal info, call ≠ .onSlowLink uid streamName isLocal info := by
  simp only [handleData, Option.bind_eq_bind, Option.bind_eq_some_iff, Option.ite_none_right_eq_some] at told
  obtain ⟨jsonMsg, -, type, -, ec, -, msg, -, roomName, -, streamName, -, uid, -, known, told⟩ := told
  obtain ⟨-, -, least, most⟩ := known
  have carried : ∀ {own : Int}, 0 ≤ own → own < kBeeErrorCode_Count →
      ∀ error ∈ some own, 0 ≤ error ∧ error < kBeeErrorCode_Count := by
    rintro own least most error ⟨⟩
    exact ⟨least, most⟩
  have silent : ∀ error ∈ (none : Option Int), 0 ≤ error ∧ error < kBeeErrorCode_Count := by
    rintro error ⟨⟩
  simp only [tellSink] at told
  iterate 4
    split at told
    · cases told
      exact ⟨carried least most, fun _ _ _ _ => SinkCall.noConfusion⟩
  split at told
  · simp only [Option.bind_eq_bind, Option.bind_eq_some_iff] at told
    obtain ⟨members, -, told⟩ := told
    cases members with
    | none =>
      cases told
      exact ⟨silent, fun _ _ _ _ => SinkCall.noConfusion⟩
    | some members =>
      obtain ⟨infos, -, rfl⟩ := Option.map_eq_some_iff.mp told
      exact ⟨silent, fun _ _ _ _ => SinkCall.noConfusion⟩
  iterate 2
    split at told
    · simp only [Option.bind_eq_bind, Option.bind_eq_some_iff] at told
      obtain ⟨level, -, told⟩ := told
      cases told
      exact ⟨silent, fun _ _ _ _ => SinkCall.noConfusion⟩
  cases told

theorem handed_of_told (assembled : Assembled) (told : assembled.Told (handleData json assembled.text)) :
    assembled.handed = true := by
  cases assembled with
  | slowlink =>
    obtain ⟨uid, info, told⟩ := told
    exact absurd rfl ((told_known told).2 _ _ _ _)
  | reportClose isLocal allReady reason =>
    have known := (told_known told).1
    simp only [Assembled.handed, Bool.and_eq_true, decide_eq_true_eq]
    cases isLocal <;> cases allReady <;> exact known _ rfl
  | _ => rfl

/-- A text decodes to what is meant, and its notification is told as it was made, if every string
that is put in is there, has no quote, backslash or control character, and the notification has its
way to the sink; and only then, unless a text from elsewhere is put in that has characters to spare. -/
theorem right_iff (faithful : json.Faithful) (assembled : Assembled) :
    (assembled.Fit → assembled.Right json) ∧
      (assembled.Terse → assembled.Right json → assembled.Fit) := by
  constructor
  · intro fit
    obtain ⟨there, known, -⟩ := (fit_iff assembled).mp fit
    exact ⟨there, ⟨assembled.meant, decode_of_plain assembled known, carried_self _ _ (Nat.le_refl _)⟩,
      told_of_fit faithful assembled fit⟩
  · rintro terse ⟨there, ⟨read, decoded, carried⟩, told⟩
    exact (fit_iff assembled).mpr
      ⟨there, plain_of_carried assembled terse decoded carried, handed_of_told assembled told⟩

/-- The library as far as standard JSON and whole numbers go. -/
def beeJson : BeeJson where
  parse := decode strict
  asInt
    | '-' :: digits => some (-(Nat.ofDigitChars 10 digits 0 : Nat))
    | digits => some (Nat.ofDigitChars 10 digits 0 : Nat)

theorem bee_json_faithful : beeJson.Faithful where
  reads _ _ decoded _ := decoded
  counts number _ _ := by
    cases number with
    | ofNat number =>
      have unsigned : ∀ rest, Nat.toDigits 10 number ≠ '-' :: rest := by
        intro rest same
        have digit := Nat.isDigit_of_mem_toDigits (b := 10) (n := number) (c := '-') (by decide)
          (by decide) (by rw [same]; exact List.mem_cons_self)
        exact absurd digit (by decide)
      simp only [beeJson, decimal]
      rw [Nat.ofDigitChars_ten_toDigits]
      rfl
    | negSucc number =>
      simp only [beeJson, decimal, Nat.ofDigitChars_ten_toDigits]
      rfl

/-- The script never names its room. -/
def someRoom : Room where
  roomName := none
  roomNameInternal := some "i".toList
  uid := some "u".toList
  nickName := some "n".toList
  roleAlias := "none".toList
  streamNameDisplay := some "s".toList
  create := false
  pushVideo := false
  pushAudio := true
  pushing := true
  pulled := []

theorem heart_right : (Assembled.mediaSvcTimeout someRoom).Right beeJson :=
  (right_iff bee_json_faithful _).1 ⟨by
    simp only [Assembled.given, someRoom, List.forall_mem_cons]
    exact ⟨⟨_, rfl, (plain_text _).1 rfl⟩, ⟨_, rfl, (plain_text _).1 rfl⟩, by simp⟩, rfl⟩

def quotedRoom : WinVideoRoom where
  token := "t".toList
  roomName := "my \"own\" room".toList
  uid := "u".toList
  nickName := "n".toList
  streamName := "s".toList
  mediaType := 0
  role := 2
  audioSource := 0
  videoSource := 0
  videoRenderer := 0

/-- The quotes of a room name end it before its time. -/
theorem quoted_room_lost : (decode strict (Assembled.leaveArg quotedRoom).text).isNone = true ∧
    ¬(Assembled.leaveArg quotedRoom).Right beeJson := by
  have lost : (decode strict (Assembled.leaveArg quotedRoom).text).isNone = true := by decide
  refine ⟨lost, ?_⟩
  rintro ⟨-, ⟨read, decoded, -⟩, -⟩
  rw [decoded] at lost
  cases lost

end BeeSdk.AssembledTexts
