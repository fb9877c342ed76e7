import BeeSdk.HttpHeader
import BeeSdk.Runs
import Mathlib.Data.List.AList
import Mathlib.Data.List.Sort

/-! The volumes of a log file: which entries of the log directory are taken for
volumes, in which order they are renamed when the log is rolled, and how the index of
the last volume is found again when the log is opened. -/
namespace BeeSdk.LogVolumes
open HttpHeader (Text isSpace)
open TextSearch

/-! ### Numbers in names -/

/-- `atoi`: blanks, a sign, digits. What comes of a number that is no `int` is up to
the system. -/
def atoi (overflow : Int → Int) (text : Text) : Int :=
  let text := text.dropWhile isSpace
  let negative := text.head? = some '-'
  let digits := if negative ∨ text.head? = some '+' then text.drop 1 else text
  let number : Int := Nat.ofDigitChars 10 (digits.takeWhile Char.isDigit) 0
  let value := if negative then -number else number
  if -2147483648 ≤ value ∧ value ≤ 2147483647 then value else overflow value

/-- `bee_itoa`. -/
def beeItoa : Int → Text
  | .ofNat number => Nat.toDigits 10 number
  | .negSucc number => '-' :: Nat.toDigits 10 (number + 1)

/-- `GetIndexFromVolume`. The search for a dot is given a length that is not the one of
the dot and never shortens what follows the name. -/
def getIndexFromVolume (overflow : Int → Int) (name volumeName : Text) : Int :=
  if name <+: volumeName then
    let idx := volumeName.drop name.length
    if idx ≠ [] then atoi overflow (idx.drop 1) else 0
  else -1

/-- `GetMaxVolumeIndex` of the names in the directory. -/
def getMaxVolumeIndex (overflow : Int → Int) (name : Text) (names : List Text) : Int :=
  names.foldl (fun count volumeName => max count (getIndexFromVolume overflow name volumeName)) 0

/-! ### The order of the listing -/

def isBlank (symbol : Char) : Bool := symbol = ' ' ∨ symbol = '\t'

/-- `str_trim`. Of a text that is all blanks it steps back before the beginning. -/
def strTrim (text : Text) : Option Text :=
  if text = [] then some []
  else if text.all isBlank then none
  else some (trim isBlank text)

/-- The number `LogFilenameCompare` reads off the pieces of a name: the last piece, or
the one before it if the last is `gz`. -/
def lastNumber (overflow : Int → Int) (pieces : List Text) : Option Int :=
  match pieces.reverse with
  | [] => some 0
  | last :: before =>
    if last = "gz".toList then
      match before with
      | [] => none
      | piece :: _ => (strTrim piece).map (atoi overflow)
    else (strTrim last).map (atoi overflow)

/-- `LogFilenameCompare`. The pieces of the second name come behind those of the first,
which are not taken away. -/
def logFilenameCompare (overflow : Int → Int) (s1 s2 : Text) : Option Bool :=
  if s1 = [] ∨ s2 = [] then some false
  else
    let v := split s1 ".".toList
    (lastNumber overflow v).bind fun index1 =>
      (lastNumber overflow (v ++ split s2 ".".toList)).map fun index2 => decide (index1 < index2)

/-- The name is one that may be compared. -/
def Comparable (overflow : Int → Int) (name : Text) : Prop :=
  name ≠ [] ∧ (lastNumber overflow (split name ".".toList)).isSome

instance (overflow : Int → Int) (name : Text) : Decidable (Comparable overflow name) :=
  inferInstanceAs (Decidable (_ ∧ _))

/-- The listing may be sorted: a single name is compared with none. -/
def Sortable (overflow : Int → Int) (names : List Text) : Prop :=
  names.length ≤ 1 ∨ ∀ name ∈ names, Comparable overflow name

instance (overflow : Int → Int) (names : List Text) : Decidable (Sortable overflow names) :=
  inferInstanceAs (Decidable (_ ∨ _))

/-- `std::sort(v.rbegin(), v.rend(), LogFilenameCompare)`: names that compare alike stay
in the order of the listing, which may be any. -/
def sortReversely (overflow : Int → Int) (names : List Text) : Option (List Text) :=
  if Sortable overflow names then
    some (names.insertionSort fun s1 s2 => logFilenameCompare overflow s1 s2 ≠ some true)
  else none

/-! ### The directory -/

/-- A file and whether it may be written, renamed and deleted. -/
structure File where
  content : Text
  writable : Bool
  deriving DecidableEq

abbrev Directory := AList fun _ : Text => File

/-- The order in which the system lists a directory, one time it is asked. -/
structure Listing where
  order : List Text → List Text
  perm : ∀ names, (order names).Perm names

/-- `FileUtil::delete_file`. -/
def deleteFile (directory : Directory) (pathname : Text) : Directory :=
  match directory.lookup pathname with
  | none => directory
  | some file => if file.writable then directory.erase pathname else directory

/-- `FileUtil::rename_file`. Where there is a file of the new name already, it is
replaced, or on Windows nothing is done. -/
def renameFile (replaces : Bool) (directory : Directory) (ofile nfile : Text) : Directory :=
  match directory.lookup ofile with
  | none => directory
  | some file =>
    if file.writable = false ∨ (replaces = false ∧ (directory.lookup nfile).isSome) then directory
    else (directory.erase ofile).insert nfile file

/-! ### The appender -/

/-- What stays the same for a log: the prefix and the numbers it is opened with, and what
the system does where the language leaves it open. -/
structure Settings where
  logPrefix : Text
  volumeCount : Nat
  positive : 0 < volumeCount
  bounded : volumeCount < 2147483648
  volumeSize : Int
  replaces : Bool
  overflow : Int → Int

inductive Stream where
  | closed
  | opened
  /-- Open, but with its fail bit set: nothing is written. -/
  | failed
  deriving DecidableEq

structure LogAppenderFile where
  directory : Directory
  stream : Stream
  currentVolumeSize : Int
  volumeIndex : Int

inductive Request where
  /-- `LoggerImpl::InnerOpen`: a new appender is made and opened. -/
  | starts
  /-- `Open` with the same prefix on the appender there is. -/
  | opens
  | closes
  | appends (log : Text) (listing : Listing)
  | rolls (listing : Listing)

namespace LogAppenderFile
variable (settings : Settings)

/-- `log_file_name_`. -/
def logFileName : Text := settings.logPrefix ++ ".log".toList

/-- The name of a volume: the current one has no number. -/
def volumeName (index : Nat) : Text :=
  if index = 0 then logFileName settings
  else logFileName settings ++ '.' :: beeItoa index

def close (appender : LogAppenderFile) : LogAppenderFile :=
  { appender with stream := .closed }

/-- `Open(append)`: an open stream is not opened again. -/
def openFile (append : Bool) (appender : LogAppenderFile) : LogAppenderFile :=
  match appender.stream with
  | .closed =>
    match appender.directory.lookup (logFileName settings) with
    | none => { appender with
        directory := appender.directory.insert (logFileName settings) ⟨[], true⟩, stream := .opened }
    | some file =>
      if file.writable = false then appender
      else if append then { appender with stream := .opened }
      else { appender with
        directory := appender.directory.insert (logFileName settings) ⟨[], true⟩, stream := .opened }
  | _ => { appender with stream := .failed }

/-- `Open(prefix)`. -/
def openLog (appender : LogAppenderFile) : LogAppenderFile :=
  let index :=
    getMaxVolumeIndex settings.overflow (logFileName settings) appender.directory.keys
  openFile settings true { appender with
    volumeIndex := if index > settings.volumeCount then settings.volumeCount else index }

/-- `LoggerImpl::InnerOpen` on a directory. -/
def start (directory : Directory) : LogAppenderFile :=
  openLog settings ⟨directory, .closed, 0, 0⟩

/-- The last volume is deleted, if there can be one. -/
def deleteLast (appender : LogAppenderFile) : LogAppenderFile :=
  if appender.volumeIndex > 0 ∧ appender.volumeIndex ≥ (settings.volumeCount : Int) - 1 then
    let volumeIndex : Int := settings.volumeCount - 1
    let oldLog := logFileName settings ++ '.' :: beeItoa volumeIndex
    { appender with
      volumeIndex := volumeIndex, directory := deleteFile appender.directory oldLog }
  else appender

/-- What is done with a name of the listing. -/
def renameVolume (directory : Directory) (name : Text) : Directory :=
  let k := getIndexFromVolume settings.overflow (logFileName settings) name
  if k < (settings.volumeCount : Int) - 1 ∧ k ≥ 0 then
    let newLog := logFileName settings ++ '.' :: beeItoa (k + 1)
    renameFile settings.replaces directory name newLog
  else directory

/-- `RollingVolumes`. To sort names that may not be compared is undefined. -/
def rollingVolumes (listing : Listing) (appender : LogAppenderFile) : Option LogAppenderFile :=
  let closed := appender.close
  let renamed :=
    if settings.volumeCount > 1 then
      let deleted := deleteLast settings closed
      (sortReversely settings.overflow (listing.order deleted.directory.keys)).map fun names =>
        { deleted with directory := names.foldl (renameVolume settings) deleted.directory }
    else some closed
  renamed.map fun renamed =>
    let opened := openFile settings false renamed
    { opened with volumeIndex := opened.volumeIndex + 1 }

/-- The volume is full and the next record goes into a new one. -/
def Full (appender : LogAppenderFile) : Prop :=
  settings.volumeSize > 0 ∧ appender.currentVolumeSize ≥ settings.volumeSize

instance (appender : LogAppenderFile) : Decidable (Full settings appender) :=
  inferInstanceAs (Decidable (_ ∧ _))

/-- `log.c_str()` as `strlen` and the stream see it. -/
def cString (log : Text) : Text := log.takeWhile (· ≠ '\x00')

/-- The record goes behind what is in the current volume, if the stream takes it. -/
def write (log : Text) (appender : LogAppenderFile) : LogAppenderFile :=
  match appender.stream, appender.directory.lookup (logFileName settings) with
  | .opened, some file => { appender with
      directory := appender.directory.insert (logFileName settings)
        { file with content := file.content ++ cString log } }
  | _, _ => appender

/-- `Append`. -/
def append (log : Text) (listing : Listing) (appender : LogAppenderFile) :
    Option LogAppenderFile :=
  let rolled :=
    if Full settings appender then
      (rollingVolumes settings listing appender).map fun rolled =>
        { rolled with currentVolumeSize := 0 }
    else some appender
  rolled.map fun appender =>
    write settings log { appender with
      currentVolumeSize := appender.currentVolumeSize + (cString log).length }

def step (appender : LogAppenderFile) : Request → Option (Unit × LogAppenderFile)
  | .starts => some ((), start settings appender.directory)
  | .opens => some ((), openLog settings appender)
  | .closes => some ((), appender.close)
  | .appends log listing => (append settings log listing appender).map ((), ·)
  | .rolls listing => (rollingVolumes settings listing appender).map ((), ·)

end LogAppenderFile
end BeeSdk.LogVolumes
