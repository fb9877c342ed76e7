import BeeSdk.ByteFields

/-! The packets `StatusdClient` composes, byte by byte: a header, texts in fields of a fixed
size, and the packet of a log, which is as long as its text. -/
namespace BeeSdk.StatusdPackets
open ByteFields ByteOrder

def LIVE_MARK : Nat := 0x32505553
def STATUSD_LOGIN : Nat := 0xA00
def STATUSD_RESET_SID : Nat := 0xA01
def STATUSD_REPORT_LOG : Nat := 0xA02
def STATUSD_LOG_TYPE : Nat := 0x2710

/-- `sizeof(PkgHeader)`: the length, the mark and the code, packed. -/
def kStatusdHeaderLen : Nat := 4 + 4 + 2

/-- The array a packet has for a user or session id. -/
def kTextLen : Nat := 256

def kPkgAppLoginLen : Nat := kStatusdHeaderLen + kTextLen + kTextLen
def kPkgResetSIDLen : Nat := kStatusdHeaderLen + kTextLen

/-- The type and the time of a log; its text is behind the structure. -/
def kPkgAppLogLen : Nat := kStatusdHeaderLen + 4 + 8

/-- `IOBuffer(len)` under `memset`. -/
def blank (len : Nat) : List UInt8 := List.replicate len 0

/-- `SETUP_PROTOCOL_HEADER`. -/
def setupProtocolHeader (pkg : List UInt8) (len code : Nat) : Option (List UInt8) := do
  let pkg ← store pkg 0 (storeLittle 4 len)
  let pkg ← store pkg 4 (storeLittle 4 LIVE_MARK)
  store pkg 8 (storeLittle 2 code)

/-- `Transform_Connect_To_Login` behind its check of the user id. -/
def login (uid sid : List UInt8) : Option (List UInt8) := do
  let pkg ← setupProtocolHeader (blank kPkgAppLoginLen) kPkgAppLoginLen STATUSD_LOGIN
  let pkg ← store pkg kStatusdHeaderLen uid
  store pkg (kStatusdHeaderLen + kTextLen) sid

/-- `sync_sid`. -/
def syncSid (sid : List UInt8) : Option (List UInt8) := do
  let pkg ← setupProtocolHeader (blank kPkgResetSIDLen) kPkgResetSIDLen STATUSD_RESET_SID
  store pkg kStatusdHeaderLen sid

/-- `strlen` of a text, which has a zero behind it. -/
def strlen (str : List UInt8) : Nat := (str.takeWhile (· ≠ 0)).length

/-- `inner_write_log`, at a time the clock gives. -/
def innerWriteLog (log : List UInt8) (time : UInt64) : Option (List UInt8) := do
  let pureLen := strlen log
  let len := (kPkgAppLogLen + pureLen + 1) % 2 ^ 32
  let pkg ← setupProtocolHeader (blank len) len STATUSD_REPORT_LOG
  let pkg ← store pkg kStatusdHeaderLen (storeLittle 4 STATUSD_LOG_TYPE)
  let pkg ← store pkg (kStatusdHeaderLen + 4) (storeLittle 8 time.toNat)
  let pkg ← store pkg kPkgAppLogLen (log.take pureLen)
  store pkg (kPkgAppLogLen + pureLen) [0]

inductive Packet where
  | login (uid sid : List UInt8)
  | resetSid (sid : List UInt8)
  | log (message : List UInt8) (time : UInt64)

namespace Packet

/-- What is given to the connection: no packet at all for a login without a user id. Undefined
where a byte is written outside the buffer. -/
def compose : Packet → Option (Option (List UInt8))
  | .login uid sid => if uid = [] then some none else (StatusdPackets.login uid sid).map some
  | .resetSid sid => (syncSid sid).map some
  | .log message time => (innerWriteLog message time).map some

def code : Packet → Nat
  | .login .. => STATUSD_LOGIN
  | .resetSid .. => STATUSD_RESET_SID
  | .log .. => STATUSD_REPORT_LOG

/-- The receiver reads the fields behind the header as they were put in. -/
def Read (pkg : List UInt8) : Packet → Prop
  | .login uid sid => text (slice pkg kStatusdHeaderLen kTextLen) = some uid ∧
    text (slice pkg (kStatusdHeaderLen + kTextLen) kTextLen) = some sid
  | .resetSid sid => text (slice pkg kStatusdHeaderLen kTextLen) = some sid
  | .log message time =>
    loadLittle (slice pkg kStatusdHeaderLen 4) = STATUSD_LOG_TYPE ∧
    loadLittle (slice pkg (kStatusdHeaderLen + 4) 8) = time.toNat ∧
    text (slice pkg kPkgAppLogLen (pkg.length - kPkgAppLogLen)) = some message

/-- The header tells the length of the buffer, the mark and the code, and every field behind
it is read as it was put in. -/
structure Right (packet : Packet) (pkg : List UInt8) : Prop where
  length : loadLittle (slice pkg 0 4) = pkg.length
  mark : loadLittle (slice pkg 4 4) = LIVE_MARK
  code : loadLittle (slice pkg 8 2) = packet.code
  read : packet.Read pkg

/-- A text with room for its terminating zero in the array. -/
def FitsField (field : List UInt8) : Prop := 0 ∉ field ∧ field.length < kTextLen

/-- Every text has no zero in it and is shorter than its array, or than what a length of 32
bits can count. -/
def Fits : Packet → Prop
  | .login uid sid => uid = [] ∨ FitsField uid ∧ FitsField sid
  | .resetSid sid => FitsField sid
  | .log message _ => 0 ∉ message ∧ kPkgAppLogLen + message.length + 1 < 2 ^ 32

/-- Every byte of the packet, if there is one, is written inside its buffer, and the packet is
right. -/
def Sound (packet : Packet) : Prop :=
  ∃ built, packet.compose = some built ∧ ∀ pkg ∈ built, packet.Right pkg

end Packet

/-! ### The header -/

variable {pkg stored : List UInt8}

/-- The header of a packet. -/
structure Headed (pkg : List UInt8) (len code : Nat) : Prop where
  length : loadLittle (slice pkg 0 4) = len
  mark : loadLittle (slice pkg 4 4) = LIVE_MARK
  code : loadLittle (slice pkg 8 2) = code

/-- Bytes stored behind the header leave it as it is. -/
theorem Headed.behind {len code offset : Nat} {data : List UInt8} (headed : Headed pkg len code)
    (taken : store pkg offset data = some stored) (behind : kStatusdHeaderLen ≤ offset) :
    Headed stored len code := by
  rw [kStatusdHeaderLen] at behind
  constructor
  · rw [slice_before taken (by omega)]
    exact headed.length
  · rw [slice_before taken (by omega)]
    exact headed.mark
  · rw [slice_before taken (by omega)]
    exact headed.code

/-- A number is loaded again from the field it was stored in. -/
theorem load_stored {count offset value : Nat}
    (taken : store pkg offset (storeLittle count value) = some stored) (fits : value < 256 ^ count) :
    loadLittle (slice stored offset count) = value := by
  have same := slice_same taken
  rw [storeLittle_length] at same
  rw [same, load_store fits]

/-- A header that has room in its packet, and what lies behind it. -/
theorem setupProtocolHeader_some (pkg : List UInt8) (len code : Nat)
    (room : kStatusdHeaderLen ≤ pkg.length) (short : len < 2 ^ 32) (small : code < 2 ^ 16) :
    ∃ headed, setupProtocolHeader pkg len code = some headed ∧ Headed headed len code ∧
      headed.length = pkg.length ∧
      ∀ start count, kStatusdHeaderLen ≤ start → slice headed start count = slice pkg start count := by
  rw [kStatusdHeaderLen] at room ⊢
  obtain ⟨sized, first, sizedLength⟩ : ∃ sized, store pkg 0 (storeLittle 4 len) = some sized ∧ _ :=
    store_some (by rw [storeLittle_length]; omega)
  obtain ⟨marked, second, markedLength⟩ :
      ∃ marked, store sized 4 (storeLittle 4 LIVE_MARK) = some marked ∧ _ :=
    store_some (by rw [storeLittle_length]; omega)
  obtain ⟨coded, third, codedLength⟩ :
      ∃ coded, store marked 8 (storeLittle 2 code) = some coded ∧ _ :=
    store_some (by rw [storeLittle_length]; omega)
  refine ⟨coded, ?_, ⟨?_, ?_, ?_⟩, by omega, fun start count behind => ?_⟩
  · rw [setupProtocolHeader, first, Option.bind_eq_bind, Option.bind_some, second,
      Option.bind_some, third]
  · rw [slice_before third (by omega), slice_before second (by omega)]
    exact load_stored first (by omega)
  · rw [slice_before third (by omega)]
    exact load_stored second (by decide)
  · exact load_stored third (by omega)
  · rw [slice_after third (by rw [storeLittle_length]; omega),
      slice_after second (by rw [storeLittle_length]; omega),
      slice_after first (by rw [storeLittle_length]; omega)]

/-- A text stored in a blank array that has room for its zero is read again. -/
theorem text_stored {offset : Nat} {field : List UInt8}
    (taken : store pkg offset field = some stored) (fits : Packet.FitsField field)
    (zeros : slice pkg (offset + field.length) (kTextLen - field.length) =
      List.replicate (kTextLen - field.length) 0) :
    text (slice stored offset kTextLen) = some field := by
  obtain ⟨clean, short⟩ := fits
  obtain ⟨rest, left⟩ : ∃ rest, kTextLen - field.length = rest + 1 :=
    ⟨kTextLen - field.length - 1, by omega⟩
  rw [slice_within taken (Nat.le_of_lt short), zeros, left, List.replicate_succ]
  exact text_terminated _ clean

/-! ### The packets -/

/-- The texts of a login packet that fit are written and read again. -/
theorem login_right {uid sid : List UInt8} (fitsUid : Packet.FitsField uid)
    (fitsSid : Packet.FitsField sid) :
    ∃ pkg, login uid sid = some pkg ∧ (Packet.login uid sid).Right pkg := by
  have shortUid := fitsUid.2
  have shortSid := fitsSid.2
  rw [kTextLen] at shortUid shortSid
  have whole : (blank kPkgAppLoginLen).length = 522 := List.length_replicate
  obtain ⟨headed, header, right, headedLength, behind⟩ :=
    setupProtocolHeader_some (blank kPkgAppLoginLen) kPkgAppLoginLen STATUSD_LOGIN
      (by rw [whole]; decide) (by decide) (by decide)
  obtain ⟨named, first, namedLength⟩ :
      ∃ named, store headed kStatusdHeaderLen uid = some named ∧ _ :=
    store_some (by rw [kStatusdHeaderLen]; omega)
  obtain ⟨pkg, second, pkgLength⟩ :
      ∃ pkg, store named (kStatusdHeaderLen + kTextLen) sid = some pkg ∧ _ :=
    store_some (by rw [kStatusdHeaderLen, kTextLen]; omega)
  have right := (right.behind first (Nat.le_refl _)).behind second (Nat.le_add_right _ _)
  refine ⟨pkg, ?_, ?_, right.mark, right.code, ?_, ?_⟩
  · rw [login, header, Option.bind_eq_bind, Option.bind_some, first, Option.bind_some, second]
  · rw [right.length, pkgLength, namedLength, headedLength, whole]
    rfl
  · rw [slice_before second (Nat.le_refl _)]
    refine text_stored first fitsUid ?_
    rw [behind _ _ (Nat.le_add_right _ _)]
    exact slice_zeros _ (by rw [kPkgAppLoginLen, kStatusdHeaderLen, kTextLen]; omega)
  · refine text_stored second fitsSid ?_
    rw [slice_after first (by rw [kStatusdHeaderLen, kTextLen]; omega),
      behind _ _ (by rw [kStatusdHeaderLen]; omega)]
    exact slice_zeros _ (by rw [kPkgAppLoginLen, kStatusdHeaderLen, kTextLen]; omega)

theorem syncSid_right {sid : List UInt8} (fits : Packet.FitsField sid) :
    ∃ pkg, syncSid sid = some pkg ∧ (Packet.resetSid sid).Right pkg := by
  have short := fits.2
  rw [kTextLen] at short
  have whole : (blank kPkgResetSIDLen).length = 266 := List.length_replicate
  obtain ⟨headed, header, right, headedLength, behind⟩ :=
    setupProtocolHeader_some (blank kPkgResetSIDLen) kPkgResetSIDLen STATUSD_RESET_SID
      (by rw [whole]; decide) (by decide) (by decide)
  obtain ⟨pkg, stored, pkgLength⟩ :
      ∃ pkg, store headed kStatusdHeaderLen sid = some pkg ∧ _ :=
    store_some (by rw [kStatusdHeaderLen]; omega)
  have right := right.behind stored (Nat.le_refl _)
  refine ⟨pkg, ?_, ?_, right.mark, right.code, ?_⟩
  · rw [syncSid, header, Option.bind_eq_bind, Option.bind_some, stored]
  · rw [right.length, pkgLength, headedLength, whole]
    rfl
  · refine text_stored stored fits ?_
    rw [behind _ _ (Nat.le_add_right _ _)]
    exact slice_zeros _ (by rw [kPkgResetSIDLen, kStatusdHeaderLen, kTextLen]; omega)

/-- `strlen` counts all of a text that has no zero. -/
theorem strlen_clean {message : List UInt8} (clean : 0 ∉ message) :
    strlen message = message.length := by
  have all : ∀ byte ∈ message, decide (byte ≠ 0) = true := by
    intro byte member
    exact decide_eq_true fun zero => clean (zero ▸ member)
  rw [strlen, List.takeWhile_eq_self_iff.mpr all]

theorem innerWriteLog_right {message : List UInt8} (time : UInt64) (clean : 0 ∉ message)
    (short : kPkgAppLogLen + message.length + 1 < 2 ^ 32) :
    ∃ pkg, innerWriteLog message time = some pkg ∧ (Packet.log message time).Right pkg := by
  have len : (kPkgAppLogLen + strlen message + 1) % 2 ^ 32 = 22 + message.length + 1 := by
    rw [strlen_clean clean]
    exact Nat.mod_eq_of_lt short
  have short : 22 + message.length + 1 < 2 ^ 32 := short
  have whole : (blank (22 + message.length + 1)).length = 22 + message.length + 1 :=
    List.length_replicate
  obtain ⟨headed, header, right, headedLength, -⟩ :=
    setupProtocolHeader_some (blank (22 + message.length + 1)) (22 + message.length + 1)
      STATUSD_REPORT_LOG (by rw [whole, kStatusdHeaderLen]; omega) short (by decide)
  obtain ⟨typed, first, typedLength⟩ : ∃ typed,
      store headed kStatusdHeaderLen (storeLittle 4 STATUSD_LOG_TYPE) = some typed ∧ _ :=
    store_some (by rw [storeLittle_length, kStatusdHeaderLen]; omega)
  obtain ⟨timed, second, timedLength⟩ : ∃ timed,
      store typed (kStatusdHeaderLen + 4) (storeLittle 8 time.toNat) = some timed ∧ _ :=
    store_some (by rw [storeLittle_length, kStatusdHeaderLen]; omega)
  obtain ⟨filled, third, filledLength⟩ : ∃ filled,
      store timed kPkgAppLogLen message = some filled ∧ _ :=
    store_some (by rw [kPkgAppLogLen, kStatusdHeaderLen]; omega)
  obtain ⟨pkg, last, pkgLength⟩ : ∃ pkg,
      store filled (kPkgAppLogLen + message.length) [0] = some pkg ∧ _ :=
    store_some (by rw [kPkgAppLogLen, kStatusdHeaderLen, List.length_singleton]; omega)
  have size : pkg.length = 22 + message.length + 1 := by omega
  have right := (((right.behind first (by decide)).behind second (by decide)).behind third
    (by decide)).behind last (by rw [kPkgAppLogLen, kStatusdHeaderLen]; omega)
  refine ⟨pkg, ?_, ?_, right.mark, right.code, ?_, ?_, ?_⟩
  · rw [innerWriteLog, len, strlen_clean clean, List.take_length, header, Option.bind_eq_bind,
      Option.bind_some, first, Option.bind_some, second, Option.bind_some, third,
      Option.bind_some, last]
  · rw [right.length, size]
  · rw [slice_before last (by rw [kPkgAppLogLen, kStatusdHeaderLen]; omega),
      slice_before third (by decide), slice_before second (by decide)]
    exact load_stored first (by decide)
  · rw [slice_before last (by rw [kPkgAppLogLen, kStatusdHeaderLen]; omega),
      slice_before third (by decide)]
    exact load_stored second time.toNat_lt
  · -- the text ends where its zero is, the last byte of the packet
    have field : slice pkg kPkgAppLogLen (pkg.length - kPkgAppLogLen) = message ++ [0] := by
      have written := slice_same third
      have zero : slice pkg (kPkgAppLogLen + message.length) 1 = [0] := slice_same last
      rw [size, show 22 + message.length + 1 - kPkgAppLogLen = message.length + 1 by
        rw [kPkgAppLogLen, kStatusdHeaderLen]; omega, slice_append, slice_before last (Nat.le_refl _),
        written, zero]
    rw [field]
    exact text_terminated [] clean

/-- A field that is read as it was put in has no zero in it and room for the one behind it. -/
theorem fits_of_read {offset count : Nat} {field : List UInt8}
    (read : text (slice pkg offset count) = some field) : 0 ∉ field ∧ field.length < count := by
  obtain ⟨clean, short⟩ := text_inv read
  refine ⟨clean, Nat.lt_of_lt_of_le short ?_⟩
  rw [slice, List.length_take]
  exact Nat.min_le_left _ _

/-- A packet that is right fits, whatever it was composed of. -/
theorem fits_of_sound {packet : Packet} (sound : packet.Sound) : packet.Fits := by
  obtain ⟨built, composed, right⟩ := sound
  cases packet with
  | login uid sid =>
    by_cases empty : uid = []
    · exact .inl empty
    · rw [Packet.compose, if_neg empty] at composed
      obtain ⟨pkg, -, rfl⟩ := Option.map_eq_some_iff.mp composed
      obtain ⟨uidRead, sidRead⟩ := (right pkg rfl).read
      exact .inr ⟨fits_of_read uidRead, fits_of_read sidRead⟩
  | resetSid sid =>
    rw [Packet.compose] at composed
    obtain ⟨pkg, -, rfl⟩ := Option.map_eq_some_iff.mp composed
    exact fits_of_read (right pkg rfl).read
  | log message time =>
    rw [Packet.compose] at composed
    obtain ⟨pkg, -, rfl⟩ := Option.map_eq_some_iff.mp composed
    have right := right pkg rfl
    obtain ⟨clean, short⟩ := fits_of_read right.read.2.2
    have counted := loadLittle_lt (slice pkg 0 4)
    have four : (slice pkg 0 4).length ≤ 4 := by
      rw [slice, List.length_take]
      exact Nat.min_le_left _ _
    have most : 256 ^ (slice pkg 0 4).length ≤ 256 ^ 4 := Nat.pow_le_pow_right (by decide) four
    rw [right.length] at counted
    exact ⟨clean, by omega⟩

/-- A packet is written inside its buffer and read as it was put in exactly when each of its
texts is without zeros and fits. -/
theorem sound_iff_fits (packet : Packet) : packet.Sound ↔ packet.Fits := by
  refine ⟨fits_of_sound, fun fits => ?_⟩
  cases packet with
  | login uid sid =>
    by_cases empty : uid = []
    · exact ⟨none, if_pos empty, fun pkg member => by cases member⟩
    · obtain ⟨fitsUid, fitsSid⟩ := fits.resolve_left empty
      obtain ⟨pkg, composed, right⟩ := login_right fitsUid fitsSid
      refine ⟨some pkg, ?_, fun _ member => by cases member; exact right⟩
      rw [Packet.compose, if_neg empty, composed, Option.map_some]
  | resetSid sid =>
    obtain ⟨pkg, composed, right⟩ := syncSid_right fits
    refine ⟨some pkg, ?_, fun _ member => by cases member; exact right⟩
    rw [Packet.compose, composed, Option.map_some]
  | log message time =>
    obtain ⟨pkg, composed, right⟩ := innerWriteLog_right time fits.1 fits.2
    refine ⟨some pkg, ?_, fun _ member => by cases member; exact right⟩
    rw [Packet.compose, composed, Option.map_some]

/-- A user id longer than what the buffer has behind the header is not written inside it. -/
theorem long_uid_outside : ¬ ∀ packet : Packet, packet.Sound := by
  intro all
  rcases fits_of_sound (all (.login (List.replicate 600 97) [])) with empty | ⟨fits, -⟩
  · cases empty
  · have short := fits.2
    rw [List.length_replicate] at short
    exact absurd short (by decide)

end BeeSdk.StatusdPackets
