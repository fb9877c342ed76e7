import BeeSdk.AssembledTexts

/-! A text that is put together decodes to what is meant, and its notification is told as it
was made, if and only if all that is put in is there and may stand as it is. -/
namespace BeeSdk.AssembledTexts
open JsonText ScriptTexts WinRoom

/-! ### Parts of a value and of a text -/

theorem token_write_rest (token : Token) (rest : Text) : token.write rest = token.write [] ++ rest := by
  cases token <;> simp [Token.write]

theorem write_rest (gaps : List Nat) (found : List Token) (rest : Text) :
    write gaps found rest = write gaps found [] ++ rest := by
  induction found generalizing gaps with
  | nil => cases gaps <;> rfl
  | cons token found ih =>
    cases gaps with
    | nil =>
      rw [write, write, ih, token_write_rest, token_write_rest token (write [] found [])]
      simp
    | cons gap gaps =>
      rw [write, write, ih, token_write_rest, token_write_rest token (write gaps found [])]
      simp

/-- Gaps for every token in front, then those for what follows. -/
theorem write_append (same : gaps.length = front.length) (gaps' : List Nat) (back : List Token)
    (rest : Text) :
    write (gaps ++ gaps') (front ++ back) rest = write gaps front (write gaps' back rest) := by
  induction front generalizing gaps with
  | nil =>
    rw [List.length_eq_zero_iff.mp same]
    rfl
  | cons token front ih =>
    cases gaps with
    | nil => cases same
    | cons gap gaps =>
      simp only [List.cons_append, write, ih (show gaps.length = front.length by simpa using same)]

theorem write_compact (front back : List Token) (rest : Text) :
    write [] (front ++ back) rest = write [] front (write [] back rest) := by
  induction front with
  | nil => rfl
  | cons token front ih => simp only [List.cons_append, write, ih]

@[simp] theorem literals_object (members : List (Text × Json)) :
    (Json.object members).literals = Json.membersLiterals members := rfl

@[simp] theorem literals_string (key : String) (text : Text) (others : List (Text × Json)) :
    Json.membersLiterals (string key text :: others) = Json.membersLiterals others := rfl

@[simp] theorem literals_number (key : String) (value : Int) (others : List (Text × Json)) :
    Json.membersLiterals (number key value :: others) = decimal value :: Json.membersLiterals others := rfl

@[simp] theorem literals_flag (key : String) (value : Bool) (others : List (Text × Json)) :
    Json.membersLiterals (flag key value :: others) = boolean value :: Json.membersLiterals others := rfl

@[simp] theorem literals_nested (key : String) (inner others : List (Text × Json)) :
    Json.membersLiterals (object key inner :: others) =
      Json.membersLiterals inner ++ Json.membersLiterals others := rfl

@[simp] theorem literals_array (key : String) (items : List Json) (others : List (Text × Json)) :
    Json.membersLiterals (array key items :: others) =
      Json.itemsLiterals items ++ Json.membersLiterals others := rfl

@[simp] theorem literals_nil : Json.membersLiterals [] = [] := rfl

@[simp] theorem literals_items (item : Json) (items : List Json) :
    Json.itemsLiterals (item :: items) = item.literals ++ Json.itemsLiterals items := rfl

@[simp] theorem literals_no_items : Json.itemsLiterals [] = [] := rfl

@[simp] theorem literals_hole (key : Text) (value : Json) (others : List (Text × Json)) :
    Json.membersLiterals ((key, value) :: others) = value.literals ++ Json.membersLiterals others := rfl

@[simp] theorem literals_no_array : (Json.array []).literals = [] := rfl

/-! ### Where the tokens of a text are -/

/-- A text is the tokens of what is meant, written around the text that is put in. -/
structure Laid (assembled : Assembled) (gaps : List Nat) (front inner : List Token) (data : Text)
    (gaps' : List Nat) (back : List Token) : Prop where
  written : assembled.text = write gaps front (data ++ write gaps' back [])
  spelled : assembled.meant.spell = front ++ (inner ++ back)
  reads : Reads strict data inner
  alone : assembled.inside = none → inner = []
  terse : assembled.Terse → ink data ≤ cost strict inner ∧ assembled.meant.keyed = true
  sound : Sound strict front ∧ Sound strict back
  ends : ∀ token ∈ front.getLast?, token.isLiteral = false
  follows : ∀ token ∈ back.head?, token.isLiteral = false
  plain : (front ++ back).all (Token.plain strict) =
    (assembled.given.map tostring).all fun text => text.all (plain strict)

theorem last_of_object (members : List (Text × Json)) :
    (Json.object members).spell.getLast? = some .closeObject := by
  have closed : ∀ pieces, (behindComma .closeObject pieces).getLast? = some .closeObject := by
    intro pieces
    induction pieces with
    | nil => rfl
    | cons piece pieces ih =>
      rw [behindComma, List.getLast?_cons, List.getLast?_append, ih]
      rfl
  rw [Json.spell, List.getLast?_cons]
  cases Json.spellMembers members with
  | nil => rfl
  | cons piece pieces =>
    rw [enclosed, List.getLast?_append, closed]
    rfl

/-- Where nothing is put in from elsewhere the text is the tokens and nothing else. -/
theorem laid_whole (gaps : List Nat) (object : assembled.meant = .object members)
    (written : assembled.text = write gaps assembled.meant.spell [])
    (keys : assembled.meant.keyed = true) (sound : Sound strict assembled.meant.spell)
    (plain : assembled.meant.spell.all (Token.plain strict) =
      (assembled.given.map tostring).all fun text => text.all (plain strict)) :
    Laid assembled gaps assembled.meant.spell [] [] [] [] where
  written := written
  spelled := by simp
  reads := ⟨1, rfl⟩
  alone _ := rfl
  terse _ := ⟨Nat.zero_le _, keys⟩
  sound := ⟨sound, by simp [Sound]⟩
  ends := by
    rw [object, last_of_object]
    rintro token ⟨⟩
    rfl
  follows := by simp
  plain := by rw [List.append_nil]; exact plain

/-- A literal that is a number or a truth value. -/
def Simple (literal : Text) : Prop := (Token.literal literal).sound strict = true

@[simp] theorem simple_decimal (number : Int) : Simple (decimal number) := sound_decimal number

@[simp] theorem simple_boolean (flag : Bool) : Simple (boolean flag) := sound_boolean flag

theorem sound_of_simple {value : Json} (literals : ∀ literal ∈ value.literals, Simple literal) :
    Sound strict value.spell :=
  sound_iff.mpr literals

namespace Assembled
set_option maxRecDepth 20000

/-- What is meant is a frame around the value of the text that is put in, whose tokens are all
that stands between `front` and `back`. -/
theorem laid_around (gaps gaps' : List Nat) (front back : List Token) (inner : Document)
    (frame : Json → Json) (meant : assembled.meant = frame inner.value)
    (written : assembled.text = write gaps front (inner.text ++ write gaps' back []))
    (spelled : ∀ value, (frame value).spell = front ++ (value.spell ++ back))
    (inside : assembled.inside = some inner)
    (keys : ∀ value, value.keyed = true → (frame value).keyed = true)
    (simple : ∀ literal ∈ (frame (.array [])).literals, Simple literal)
    (ends : front.getLast? = some .colon) (follows : back.head?.all (!·.isLiteral) = true)
    (plain : (front ++ back).all (Token.plain strict) =
      (assembled.given.map tostring).all fun text => text.all (JsonText.plain strict)) :
    Laid assembled gaps front inner.value.spell inner.text gaps' back where
  written := written
  spelled := meant ▸ spelled inner.value
  reads := decode_iff.mp inner.reads
  alone none := by
    rw [inside] at none
    cases none
  terse known := ⟨(known inner inside).2, meant ▸ keys _ (known inner inside).1⟩
  sound := by
    have whole : Sound strict (frame (.array [])).spell := sound_of_simple simple
    rw [spelled] at whole
    exact ⟨fun token mem => whole token (List.mem_append_left _ mem),
      fun token mem => whole token (List.mem_append_right _ (List.mem_append_right _ mem))⟩
  ends := by
    rw [ends]
    rintro token ⟨⟩
    rfl
  follows token mem := by
    rw [Option.mem_def.mp mem] at follows
    simpa using follows
  plain := plain

/-- The tokens of a text can be told apart in it. -/
def IsLaid (assembled : Assembled) : Prop :=
  ∃ gaps front inner data gaps' back, Laid assembled gaps front inner data gaps' back

theorem join_arg_written (room : WinVideoRoom) (creator : Bool) :
    (joinArg room creator).text = write [] (joinArg room creator).meant.spell [] := by
  simp only [text, WinVideoRoom.joinArg, meant, string, number, flag, object]
  repeat rw [String.toList_ofList]
  rfl

theorem laid_join_arg (room : WinVideoRoom) (creator : Bool) :
    IsLaid (joinArg room creator) := by
  refine ⟨_, _, _, _, _, _, laid_whole [] rfl (join_arg_written room creator) rfl
    (sound_of_simple ?_) ?_⟩
  · simp [meant]
  · simp only [meant, string, number, flag, object]
    repeat rw [String.toList_ofList]
    rfl

theorem leave_arg_written (room : WinVideoRoom) :
    (leaveArg room).text = write [] (leaveArg room).meant.spell [] := by
  simp only [text, WinVideoRoom.leaveArg, meant, string, number]
  repeat rw [String.toList_ofList]
  rfl

theorem laid_leave_arg (room : WinVideoRoom) :
    IsLaid (leaveArg room) := by
  refine ⟨_, _, _, _, _, _, laid_whole [] rfl (leave_arg_written room) rfl (sound_of_simple ?_) ?_⟩
  · simp [meant]
  · simp only [meant, string, number]
    repeat rw [String.toList_ofList]
    rfl

theorem connect_arg_written (room : WinVideoRoom) (uid streamName : Text) (mediaType : BitVec 32)
    (videoRenderer : Int) :
    (connectArg room uid streamName mediaType videoRenderer).text =
      write [] (connectArg room uid streamName mediaType videoRenderer).meant.spell [] := by
  simp only [text, WinVideoRoom.connectArg, meant, string, number, flag]
  repeat rw [String.toList_ofList]
  rfl

theorem laid_connect_arg (room : WinVideoRoom) (uid streamName : Text) (mediaType : BitVec 32)
    (videoRenderer : Int) :
    IsLaid (connectArg room uid streamName mediaType videoRenderer) := by
  refine ⟨_, _, _, _, _, _, laid_whole [] rfl
    (connect_arg_written room uid streamName mediaType videoRenderer) rfl (sound_of_simple ?_) ?_⟩
  · simp [meant]
  · simp only [meant, string, number, flag]
    repeat rw [String.toList_ofList]
    rfl

theorem laid_create_handle (transaction opaqueId clientDesc : Text) (streamNameInternal : Option Text) :
    IsLaid (createHandleEx transaction opaqueId clientDesc streamNameInternal) := by
  refine ⟨_, _, _, _, _, _, laid_whole [] rfl ?_ rfl (sound_of_simple ?_) ?_⟩
  · simp only [text, Party.createHandleEx, meant, string]
    repeat rw [String.toList_ofList]
    rfl
  · simp [meant]
  · simp only [meant, string]
    repeat rw [String.toList_ofList]
    rfl

theorem laid_destroy (sessionId : Int) (transaction : Text) :
    IsLaid (destroy sessionId transaction) := by
  refine ⟨_, _, _, _, _, _, laid_whole [] rfl ?_ rfl (sound_of_simple ?_) ?_⟩
  · simp only [text, Party.destroy, meant, string, number]
    repeat rw [String.toList_ofList]
    rfl
  · simp [meant]
  · simp only [meant, string, number]
    repeat rw [String.toList_ofList]
    rfl

theorem listen_written (sessionId handle : Int) (transaction janusRoomName : Text)
    (streamNameInternal : Option Text) (pullAudio pullVideo : Bool) :
    (listen sessionId handle transaction janusRoomName streamNameInternal pullAudio pullVideo).text =
      write [] (listen sessionId handle transaction janusRoomName streamNameInternal pullAudio
        pullVideo).meant.spell [] := by
  let body : Json := .object [string "request" "join".toList, string "room_name" janusRoomName,
    string "ptype" "subscriber".toList, string "feed_name" (tostring streamNameInternal),
    flag "audio" pullAudio, flag "video" pullVideo, flag "soon" true]
  let front := (message "message" sessionId handle transaction [("body".toList, body)]).spell.take 19
  have bodyWritten : format ("\x7b\"request\":\"join\",\"room_name\":\"%s\",\"ptype\":\"subscriber\",".toList ++
      "\"feed_name\":\"%s\",\"audio\":%s,\"video\":%s,\"soon\":true\x7d".toList)
      [janusRoomName, tostring streamNameInternal, boolean pullAudio, boolean pullVideo] =
      write [] body.spell [] := by
    simp only [body, string, flag]
    repeat rw [String.toList_ofList]
    rfl
  calc
    _ = write [] front (write [] body.spell [] ++ write [] [.closeObject] []) := by
      rw [← bodyWritten]
      simp only [text, Party.listen, front, message, string, number]
      repeat rw [String.toList_ofList]
      rfl
    _ = write [] front (write [] (body.spell ++ [.closeObject]) []) := by
      rw [← write_rest, write_compact]
    _ = write [] (front ++ (body.spell ++ [.closeObject])) [] := (write_compact _ _ _).symm

theorem laid_listen (sessionId handle : Int) (transaction janusRoomName : Text)
    (streamNameInternal : Option Text) (pullAudio pullVideo : Bool) :
    IsLaid (listen sessionId handle transaction janusRoomName streamNameInternal pullAudio pullVideo) := by
  refine ⟨_, _, _, _, _, _, laid_whole [] rfl (listen_written sessionId handle transaction
    janusRoomName streamNameInternal pullAudio pullVideo) rfl (sound_of_simple ?_) ?_⟩
  · simp [meant, message]
  · simp only [meant, message, string, number, flag, object]
    repeat rw [String.toList_ofList]
    rfl

theorem laid_keepalive (sessionId : Int) (transaction : Text) :
    IsLaid (keepalive sessionId transaction) := by
  refine ⟨_, _, _, _, _, _,
    laid_whole [0, 0, 0, 0, 0, 0, 0, 0, 0, 1] rfl ?_ rfl (sound_of_simple ?_) ?_⟩
  · simp only [text, Party.keepalive, meant, string, number]
    repeat rw [String.toList_ofList]
    rfl
  · simp [meant]
  · simp only [meant, string, number]
    repeat rw [String.toList_ofList]
    rfl

theorem laid_completed : IsLaid completedMsg := by
  refine ⟨_, _, _, _, _, _, laid_whole [0, 0, 0, 1] rfl ?_ rfl (sound_of_simple ?_) ?_⟩
  · simp only [text, Party.completedMsg, meant, flag]
    repeat rw [String.toList_ofList]
    rfl
  · simp [meant]
  · simp only [meant, flag]
    repeat rw [String.toList_ofList]
    rfl

theorem laid_candidate (sessionId handle : Int) (transaction : Text) (candidate : Document) :
    IsLaid (sendCandidate sessionId handle transaction candidate) := by
  let frame (value : Json) := message "trickle" sessionId handle transaction [("candidate".toList, value)]
  refine ⟨_, _, _, _, _, _, laid_around [] [1] ((frame (.array [])).spell.take 19) [.closeObject]
    candidate frame rfl ?_ (fun _ => rfl) rfl (fun value keys => ?_) ?_ rfl rfl ?_⟩
  · simp only [text, Party.sendCandidate, frame, message, string, number]
    repeat rw [String.toList_ofList]
    rfl
  · simp [frame, message, string, number, Json.keyed, Json.membersKeyed, keys]
  · simp [frame, message]
  · simp only [frame, message, string, number]
    repeat rw [String.toList_ofList]
    rfl

theorem laid_local_offer (sessionId handle : Int) (transaction janusRoomName : Text)
    (streamNameInternal : Option Text) (pushAudio pushVideo : Bool) (maxBitrate minBitrate : Int)
    (jsep : Document) :
    IsLaid (sendLocalOffer sessionId handle transaction janusRoomName streamNameInternal pushAudio
      pushVideo maxBitrate minBitrate jsep) := by
  let body : Json := .object [string "request" "j&c".toList, string "room_name" janusRoomName,
    string "ptype" "publisher".toList, string "stream_name" (tostring streamNameInternal),
    flag "audio" pushAudio, flag "video" pushVideo, number "max_bitrate" maxBitrate,
    number "min_bitrate" minBitrate]
  let frame (value : Json) :=
    message "message" sessionId handle transaction [("body".toList, body), ("jsep".toList, value)]
  let front := (frame (.array [])).spell.take 19
  have bodyWritten : format ("\x7b \"request\":\"j&c\",\"room_name\":\"%s\",\"ptype\":\"publisher\",".toList ++
      "\"stream_name\":\"%s\",\"audio\":%s,\"video\":%s,\"max_bitrate\":%d,".toList ++
      "\"min_bitrate\":%d\x7d".toList)
      [janusRoomName, tostring streamNameInternal, boolean pushAudio, boolean pushVideo,
        decimal maxBitrate, decimal minBitrate] =
        write (0 :: 1 :: List.replicate 31 0) body.spell [] := by
    simp only [body, string, flag, number]
    repeat rw [String.toList_ofList]
    rfl
  have written : (sendLocalOffer sessionId handle transaction janusRoomName streamNameInternal
      pushAudio pushVideo maxBitrate minBitrate jsep).text =
      write (List.replicate 19 0 ++ ((0 :: 1 :: List.replicate 31 0) ++ []))
        (front ++ (body.spell ++ [.comma, .string "jsep".toList, .colon]))
        (jsep.text ++ write [1] [.closeObject] []) := by
    rw [write_append rfl, write_append rfl, write_rest _ body.spell, ← bodyWritten]
    simp only [text, Party.sendLocalOffer, front, frame, message, string, number]
    repeat rw [String.toList_ofList]
    rfl
  refine ⟨_, _, _, _, _, _, laid_around _ [1] _ [.closeObject] jsep frame rfl written (fun _ => rfl)
    rfl (fun value keys => ?_) ?_ rfl rfl ?_⟩
  · simp [frame, body, message, string, number, flag, Json.keyed, Json.membersKeyed, keys]
  · simp [frame, body, message]
  · simp only [front, frame, body, message, string, number, flag]
    repeat rw [String.toList_ofList]
    rfl

theorem laid_remote_answer (sessionId handle : Int) (transaction janusRoomName : Text) (jsep : Document) :
    IsLaid (sendRemoteAnswer sessionId handle transaction janusRoomName jsep) := by
  let body : Json := .object [string "request" "start".toList, string "room_name" janusRoomName]
  let frame (value : Json) :=
    message "message" sessionId handle transaction [("body".toList, body), ("jsep".toList, value)]
  let front := (frame (.array [])).spell.take 19
  have bodyWritten : format "\x7b \"request\": \"start\", \"room_name\" : \"%s\" \x7d".toList
      [janusRoomName] = write [0, 1, 0, 1, 0, 1, 1, 1, 1] body.spell [] := by
    simp only [body, string]
    repeat rw [String.toList_ofList]
    rfl
  have written : (sendRemoteAnswer sessionId handle transaction janusRoomName jsep).text =
      write (List.replicate 19 0 ++ ([0, 1, 0, 1, 0, 1, 1, 1, 1] ++ []))
        (front ++ (body.spell ++ [.comma, .string "jsep".toList, .colon]))
        (jsep.text ++ write [1] [.closeObject] []) := by
    rw [write_append rfl, write_append rfl, write_rest _ body.spell, ← bodyWritten]
    simp only [text, Party.sendRemoteAnswer, front, frame, message, string, number]
    repeat rw [String.toList_ofList]
    rfl
  refine ⟨_, _, _, _, _, _, laid_around _ [1] _ [.closeObject] jsep frame rfl written (fun _ => rfl)
    rfl (fun value keys => ?_) ?_ rfl rfl ?_⟩
  · simp [frame, body, message, string, number, Json.keyed, Json.membersKeyed, keys]
  · simp [frame, body, message]
  · simp only [front, frame, body, message, string, number]
    repeat rw [String.toList_ofList]
    rfl

theorem laid_remote_joined (roomName streamNameDisplay uid : Option Text) :
    IsLaid (remoteJoined roomName streamNameDisplay uid) := by
  refine ⟨_, _, _, _, _, _,
    laid_whole [0, 0, 0, 0, 0, 1, 0, 0, 0, 1, 0, 0, 0, 1, 0, 0, 0, 1] rfl ?_ rfl (sound_of_simple ?_) ?_⟩
  · simp only [text, Party.remoteJoined, meant, notice, string, number]
    repeat rw [String.toList_ofList]
    rfl
  · simp [meant, notice]
  · simp only [meant, notice, string, number]
    repeat rw [String.toList_ofList]
    rfl

theorem laid_report_close (isLocal allReady : Bool) (reason : Int)
    (roomName streamNameDisplay uid : Option Text) :
    IsLaid (reportClose isLocal allReady reason roomName streamNameDisplay uid) := by
  refine ⟨_, _, _, _, _, _,
    laid_whole [0, 0, 0, 0, 0, 1, 0, 0, 0, 1, 0, 0, 0, 1, 0, 0, 0, 1] rfl ?_ rfl (sound_of_simple ?_) ?_⟩
  · simp only [text, Party.reportClose, meant, notice, string, number]
    repeat rw [String.toList_ofList]
    rfl
  · simp [meant, notice]
  · simp only [meant, notice, string, number]
    repeat rw [String.toList_ofList]
    rfl

/-- Two texts that are the same in all respects are laid the same. -/
theorem IsLaid.same {assembled other : Assembled} (laid : IsLaid assembled)
    (text : other.text = assembled.text) (meant : other.meant = assembled.meant)
    (given : other.given = assembled.given) (inside : other.inside = assembled.inside) :
    IsLaid other := by
  obtain ⟨gaps, front, inner, data, gaps', back, laid⟩ := laid
  refine ⟨gaps, front, inner, data, gaps', back, ?_⟩
  exact
    { written := text ▸ laid.written
      spelled := meant ▸ laid.spelled
      reads := laid.reads
      alone := inside ▸ laid.alone
      terse := fun terse => meant ▸ laid.terse fun found mem => terse found (inside ▸ mem)
      sound := laid.sound
      ends := laid.ends
      follows := laid.follows
      plain := given ▸ laid.plain }

theorem laid_media_createback (room : Room) : IsLaid (mediaSvcCreateback room) := by
  by_cases video : room.pushVideo
  · refine ⟨_, _, _, _, _, _, laid_whole [] rfl ?_ ?_ (sound_of_simple ?_) ?_⟩
    · rw [text, VideoRoom.handleMediaSvcCreateback, if_pos video, meant, mediaOf, if_pos video]
      simp only [joinMessage, string, number, object, array]
      repeat rw [String.toList_ofList]
      rfl
    · rw [meant, mediaOf, if_pos video]
      rfl
    · simp [meant, joinMessage, mediaOf, video]
    · rw [meant, mediaOf, if_pos video, given, mediaStrings, if_pos (by simp [video])]
      simp only [joinMessage, string, number, object, array]
      repeat rw [String.toList_ofList]
      rfl
  by_cases audio : room.pushAudio
  · refine ⟨_, _, _, _, _, _, laid_whole [] rfl ?_ ?_ (sound_of_simple ?_) ?_⟩
    · rw [text, VideoRoom.handleMediaSvcCreateback, if_neg video, if_pos audio, meant, mediaOf,
        if_neg video, if_pos audio]
      simp only [joinMessage, string, number, object, array]
      repeat rw [String.toList_ofList]
      rfl
    · rw [meant, mediaOf, if_neg video, if_pos audio]
      rfl
    · simp [meant, joinMessage, mediaOf, video, audio]
    · rw [meant, mediaOf, if_neg video, if_pos audio, given, mediaStrings, if_pos (by simp [audio])]
      simp only [joinMessage, string, number, object, array]
      repeat rw [String.toList_ofList]
      rfl
  · refine ⟨_, _, _, _, _, _, laid_whole [] rfl ?_ ?_ (sound_of_simple ?_) ?_⟩
    · rw [text, VideoRoom.handleMediaSvcCreateback, if_neg video, if_neg audio, meant, mediaOf,
        if_neg video, if_neg audio]
      simp only [joinMessage, string, number, object]
      repeat rw [String.toList_ofList]
      rfl
    · rw [meant, mediaOf, if_neg video, if_neg audio]
      rfl
    · simp [meant, joinMessage, mediaOf, video, audio]
    · rw [meant, mediaOf, if_neg video, if_neg audio, given, mediaStrings,
        if_neg (by simp [video, audio])]
      simp only [joinMessage, string, number, object]
      repeat rw [String.toList_ofList]
      rfl

theorem laid_media_connect (room : Room) : IsLaid (mediaSvcConnect room) := by
  cases create : room.create with
  | true =>
    obtain ⟨roomName, roomNameInternal, uid, nickName, roleAlias, streamNameDisplay, _, pushVideo,
      pushAudio, pushing, pulled⟩ := room
    cases create
    refine ⟨_, _, _, _, _, _, laid_whole [] rfl ?_ rfl (sound_of_simple ?_) ?_⟩
    · simp only [text, VideoRoom.handleMediaSvcConnect, VideoRoom.createMsg, meant, command, string]
      repeat rw [String.toList_ofList]
      rfl
    · simp [meant, command]
    · simp only [meant, command, string]
      repeat rw [String.toList_ofList]
      rfl
  | false =>
    refine (laid_media_createback room).same ?_ ?_ ?_ rfl
    · simp [text, VideoRoom.handleMediaSvcConnect, create]
    · simp [meant, create]
    · simp [given, create]

theorem laid_media_timeout (room : Room) :
    IsLaid (mediaSvcTimeout room) := by
  refine ⟨_, _, _, _, _, _,
    laid_whole [0, 0, 0, 0, 0, 0, 0, 0, 0, 1] rfl ?_ rfl (sound_of_simple ?_) ?_⟩
  · simp only [text, VideoRoom.handleMediaSvcTimeout, meant, command, string]
    repeat rw [String.toList_ofList]
    rfl
  · simp [meant, command]
  · simp only [meant, command, string]
    repeat rw [String.toList_ofList]
    rfl

theorem laid_media_list (room : Room) :
    IsLaid (mediaSvcListTimeout room) := by
  refine ⟨_, _, _, _, _, _,
    laid_whole [0, 0, 0, 0, 0, 0, 0, 0, 0, 1] rfl ?_ rfl (sound_of_simple ?_) ?_⟩
  · simp only [text, VideoRoom.handleMediaSvcListTimeout, meant, command, string]
    repeat rw [String.toList_ofList]
    rfl
  · simp [meant, command]
  · simp only [meant, command, string]
    repeat rw [String.toList_ofList]
    rfl

theorem laid_input_level (room : Room) (streamName : Option Text) (level : Int32) :
    IsLaid (audioInputLevel room streamName level) := by
  refine ⟨_, _, _, _, _, _,
    laid_whole [0, 0, 0, 0, 0, 1, 0, 0, 0, 1, 0, 0, 0, 1, 0, 0, 0, 1] rfl ?_ rfl (sound_of_simple ?_) ?_⟩
  · simp only [text, VideoRoom.getAudioInputLevel, meant, string, number]
    repeat rw [String.toList_ofList]
    rfl
  · simp [meant]
  · simp only [meant, string, number]
    repeat rw [String.toList_ofList]
    rfl

theorem laid_output_level (room : Room) (uid streamName : Option Text) (level : Int32) :
    IsLaid (audioOutputLevel room uid streamName level) := by
  refine ⟨_, _, _, _, _, _,
    laid_whole [0, 0, 0, 0, 0, 1, 0, 0, 0, 1, 0, 0, 0, 1, 0, 0, 0, 1] rfl ?_ rfl (sound_of_simple ?_) ?_⟩
  · simp only [text, VideoRoom.getAudioOutputLevel, meant, string, number]
    repeat rw [String.toList_ofList]
    rfl
  · simp [meant]
  · simp only [meant, string, number]
    repeat rw [String.toList_ofList]
    rfl

theorem laid_slowlink (isLocal : Bool) (roomName streamNameDisplay : Option Text) (nacks : Int) :
    IsLaid (slowlink isLocal roomName streamNameDisplay nacks) := by
  refine ⟨_, _, _, _, _, _,
    laid_whole [0, 0, 0, 0, 0, 1, 0, 0, 0, 1, 0, 0, 0, 1] rfl ?_ rfl (sound_of_simple ?_) ?_⟩
  · simp only [text, VideoRoom.processSlowlinkNotify, meant, string, number, object]
    repeat rw [String.toList_ofList]
    rfl
  · simp [meant]
  · simp only [meant, string, number, object]
    repeat rw [String.toList_ofList]
    rfl

theorem laid_media_joinback (room : Room) :
    IsLaid (mediaSvcJoinback room) := by
  refine ⟨_, _, _, _, _, _,
    laid_whole [0, 0, 0, 0, 0, 1, 0, 0, 0, 1, 0, 0, 0, 1] rfl ?_ rfl (sound_of_simple ?_) ?_⟩
  · simp only [text, VideoRoom.handleMediaSvcJoinback, meant, notice, string, number]
    repeat rw [String.toList_ofList]
    rfl
  · simp [meant, notice]
  · simp only [meant, notice, string, number]
    repeat rw [String.toList_ofList]
    rfl

theorem laid_media_receiveback (room : Room) (sender : Option Text) (msg : Document) :
    IsLaid (mediaSvcReceiveback room sender msg) := by
  let frame (value : Json) := notice 8 0 room.roomName
    [string "from" (tostring sender), ("message".toList, value), number "svc" 1]
  refine ⟨_, _, _, _, _, _, laid_around [] [] ((frame (.array [])).spell.take 19)
    [.comma, .string "svc".toList, .colon, .literal (decimal 1), .closeObject] msg frame rfl ?_
    (fun _ => rfl) rfl (fun value keys => ?_) ?_ rfl rfl ?_⟩
  · simp only [text, VideoRoom.handleMediaSvcReceiveback, frame, notice, string, number]
    repeat rw [String.toList_ofList]
    rfl
  · simp [frame, notice, string, number, Json.keyed, Json.membersKeyed, keys]
  · simp [frame, notice]
  · simp only [frame, notice, string, number]
    repeat rw [String.toList_ofList]
    rfl

theorem laid_media_error (room : Room) (data : Text) :
    IsLaid (mediaSvcError room data) := by
  refine ⟨_, _, _, _, _, _, laid_whole [] rfl ?_ rfl (sound_of_simple ?_) ?_⟩
  · simp only [text, VideoRoom.handleMediaSvcError, meant, notice, string, number]
    repeat rw [String.toList_ofList]
    rfl
  · simp [meant, notice]
  · simp only [meant, notice, string, number]
    repeat rw [String.toList_ofList]
    rfl

theorem laid_board_createback (board : Room) : IsLaid (msgSvcCreateback board) := by
  refine ⟨_, _, _, _, _, _, laid_whole [] rfl ?_ rfl (sound_of_simple ?_) ?_⟩
  · simp only [text, ScriptTexts.WhiteBoard.handleMsgSvcCreateback, meant, joinMessage, string,
      number, object]
    repeat rw [String.toList_ofList]
    rfl
  · simp [meant, joinMessage]
  · simp only [meant, joinMessage, string, number, object]
    repeat rw [String.toList_ofList]
    rfl

theorem laid_board_connect (board : Room) : IsLaid (msgSvcConnect board) := by
  cases create : board.create with
  | true =>
    obtain ⟨roomName, roomNameInternal, uid, nickName, roleAlias, streamNameDisplay, _, pushVideo,
      pushAudio, pushing, pulled⟩ := board
    cases create
    refine ⟨_, _, _, _, _, _, laid_whole [] rfl ?_ rfl (sound_of_simple ?_) ?_⟩
    · simp only [text, ScriptTexts.WhiteBoard.handleMsgSvcConnect, meant, command, string]
      repeat rw [String.toList_ofList]
      rfl
    · simp [meant, command]
    · simp only [meant, command, string]
      repeat rw [String.toList_ofList]
      rfl
  | false =>
    refine (laid_board_createback board).same ?_ ?_ ?_ rfl
    · simp [text, ScriptTexts.WhiteBoard.handleMsgSvcConnect, create]
    · simp [meant, create]
    · simp [given, create]

theorem laid_board_timeout (board : Room) :
    IsLaid (msgSvcTimeout board) := by
  refine ⟨_, _, _, _, _, _,
    laid_whole [0, 0, 0, 0, 0, 0, 0, 0, 0, 1] rfl ?_ rfl (sound_of_simple ?_) ?_⟩
  · simp only [text, ScriptTexts.WhiteBoard.handleMsgSvcTimeout, meant, command, string]
    repeat rw [String.toList_ofList]
    rfl
  · simp [meant, command]
  · simp only [meant, command, string]
    repeat rw [String.toList_ofList]
    rfl

theorem laid_board_list (board : Room) :
    IsLaid (msgSvcListTimeout board) := by
  refine ⟨_, _, _, _, _, _,
    laid_whole [0, 0, 0, 0, 0, 0, 0, 0, 0, 1] rfl ?_ rfl (sound_of_simple ?_) ?_⟩
  · simp only [text, ScriptTexts.WhiteBoard.handleMsgSvcListTimeout, meant, command, string]
    repeat rw [String.toList_ofList]
    rfl
  · simp [meant, command]
  · simp only [meant, command, string]
    repeat rw [String.toList_ofList]
    rfl

theorem laid_board_close (board : Room) :
    IsLaid (boardClose board) := by
  refine ⟨_, _, _, _, _, _,
    laid_whole [0, 0, 0, 0, 0, 1] rfl ?_ rfl (sound_of_simple ?_) ?_⟩
  · simp only [text, ScriptTexts.WhiteBoard.close, meant, number]
    repeat rw [String.toList_ofList]
    rfl
  · simp [meant]
  · simp only [meant, number]
    repeat rw [String.toList_ofList]
    rfl

theorem laid_board_joinback (board : Room) :
    IsLaid (msgSvcJoinback board) := by
  refine ⟨_, _, _, _, _, _,
    laid_whole [0, 0, 0, 0, 0, 1, 0, 0, 0, 1] rfl ?_ rfl (sound_of_simple ?_) ?_⟩
  · simp only [text, ScriptTexts.WhiteBoard.handleMsgSvcJoinback, meant, notice, string, number]
    repeat rw [String.toList_ofList]
    rfl
  · simp [meant, notice]
  · simp only [meant, notice, string, number]
    repeat rw [String.toList_ofList]
    rfl

theorem laid_member_joined (uid : Text) (nickName : Option Text) (role : Int32) :
    IsLaid (memberJoined uid nickName role) := by
  refine ⟨_, _, _, _, _, _, laid_whole [] rfl ?_ rfl (sound_of_simple ?_) ?_⟩
  · simp only [text, ScriptTexts.WhiteBoard.memberJoined, meant, string, number]
    repeat rw [String.toList_ofList]
    rfl
  · simp [meant]
  · simp only [meant, string, number]
    repeat rw [String.toList_ofList]
    rfl

theorem laid_member_left (uid : Text) :
    IsLaid (memberLeft uid) := by
  refine ⟨_, _, _, _, _, _, laid_whole [] rfl ?_ rfl (sound_of_simple ?_) ?_⟩
  · simp only [text, ScriptTexts.WhiteBoard.memberLeft, meant, string, number]
    repeat rw [String.toList_ofList]
    rfl
  · simp [meant]
  · simp only [meant, string, number]
    repeat rw [String.toList_ofList]
    rfl

theorem laid_board_receiveback (board : Room) (sender : Option Text) (msg : Document) :
    IsLaid (msgSvcReceiveback board sender msg) := by
  let frame (value : Json) :=
    notice 5 0 board.roomName [string "from" (tostring sender), ("message".toList, value)]
  refine ⟨_, _, _, _, _, _, laid_around [] [] ((frame (.array [])).spell.take 19) [.closeObject] msg
    frame rfl ?_ (fun _ => rfl) rfl (fun value keys => ?_) ?_ rfl rfl ?_⟩
  · simp only [text, ScriptTexts.WhiteBoard.handleMsgSvcReceiveback, frame, notice, string, number]
    repeat rw [String.toList_ofList]
    rfl
  · simp [frame, notice, string, number, Json.keyed, Json.membersKeyed, keys]
  · simp [frame, notice]
  · simp only [frame, notice, string, number]
    repeat rw [String.toList_ofList]
    rfl

theorem laid_board_error (board : Room) (joined : Bool) (data : Text) :
    IsLaid (msgSvcError board joined data) := by
  cases joined <;>
  · refine ⟨_, _, _, _, _, _, laid_whole [] rfl ?_ rfl (sound_of_simple ?_) ?_⟩
    · simp only [text, ScriptTexts.WhiteBoard.handleMsgSvcError, meant, notice, string, number]
      repeat rw [String.toList_ofList]
      rfl
    · simp [meant, notice]
    · simp only [meant, notice, string, number]
      repeat rw [String.toList_ofList]
      rfl

end Assembled
end BeeSdk.AssembledTexts
