import BeeSdk.DrawView
import BeeSdk.HttpHeader

/-! What the iOS client makes of a board info: `handleBoardInfo` builds the pages with what
was drawn on them, and the view shows one. The values of the message have the types that
the source declares for them; colors, coordinates and the fitting of sizes are floating
point and come from outside, and memory is not bounded. -/
namespace BeeSdk.BoardRestore
open DrawView (BeeDrawingMode)
open HttpHeader (Text isSpace)

variable {Color Coord : Type}

/-! ### The message -/

/-- A string, or a number, of which only the integer is asked for. -/
inductive Scalar where
  | string (text : Text)
  | number (value : Int64)

/-- `integerValue`: blanks, a sign and digits, held within `NSInteger`. -/
def Scalar.integerValue : Scalar → Int
  | .string text =>
    let text := text.dropWhile isSpace
    let negative := text.head? = some '-'
    let digits := if negative ∨ text.head? = some '+' then text.drop 1 else text
    let number : Int := Nat.ofDigitChars 10 (digits.takeWhile Char.isDigit) 0
    max (-9223372036854775808) (min (if negative then -number else number) 9223372036854775807)
  | .number value => value.toInt

/-- `imgjson`. -/
structure ImageInfo where
  baseurl : Option Text := none
  name : Option Text := none
  format : Option Text := none
  startidx : Option Scalar := none
  endidx : Option Scalar := none

/-- `resinfo`, with the `x` and `y` of its `locinfo`. -/
structure ResInfo (Coord : Type) where
  w : Option Coord := none
  h : Option Coord := none
  locinfo : Option (Option Coord × Option Coord) := none

/-- Something drawn, as the message has it. -/
structure Item (Color Coord : Type) where
  lc : Option Color := none
  lw : Option Int := none
  tool : Option String := none
  path : Option (List Coord) := none
  data : Option Text := none

/-- A dictionary of `reducerinfo`. Of `present` it is asked only whether it is there. -/
structure PageInfo (Color Coord : Type) where
  past : Option (List (Item Color Coord)) := none
  present : Bool := false
  future : Option (List (Item Color Coord)) := none

/-- What a message has under `data`. An entry of `reducerinfo` is none where it is no
dictionary. -/
structure BoardInfo (Color Coord : Type) where
  imgjson : Option ImageInfo := none
  resinfo : Option (ResInfo Coord) := none
  reducerinfo : List (Option (PageInfo Color Coord)) := []
  page : Option Scalar := none

/-! ### Pages -/

/-- `CGSize` and `CGPoint`. -/
structure Pair (Coord : Type) where
  first : Coord
  second : Coord
  deriving DecidableEq

/-- `BeeWhiteBoardLine` and `BeeWhiteBoardText`. -/
inductive BeeWhiteBoardItem (Color Coord : Type) where
  | line (color : Color) (width : Int) (mode : BeeDrawingMode) (path : List Coord)
  | text (color : Color) (size : Int) (data : Text) (pos : Pair Coord)

/-- What an item puts on the screen. Of the eraser's line it is left out that it has the
color of the background. -/
inductive Layer (Color Coord : Type) where
  | line (color : Color) (width : Int) (mode : BeeDrawingMode) (start : Pair Coord)
      (points : List (Pair Coord))
  | text (color : Color) (size : Int) (data : Text) (pos : Pair Coord)
  deriving DecidableEq

inductive BeeWhiteBoardStack where
  | undo | redo

/-- How points and sizes are fitted to the screen. -/
structure Fitting (Coord : Type) where
  zero : Coord
  isZero : Coord → Bool
  zero_isZero : isZero zero = true
  /-- `adaptPointToResolution`, of the canvas, its position and the target. -/
  point : Pair Coord → Pair Coord → Pair Coord → Pair Coord → Pair Coord
  /-- `adaptSizeToCanvas`, of the target and the canvas. -/
  size : Pair Coord → Pair Coord → Pair Coord

structure BeeWhiteBoardPage (Color Coord : Type) where
  src : String
  url : Option Text
  canvasSize : Pair Coord
  refPos : Pair Coord
  targetSize : Pair Coord
  undoStack : List (Layer Color Coord) := []
  redoStack : List (Layer Color Coord) := []
  undoItems : List (BeeWhiteBoardItem Color Coord) := []
  redoItems : List (BeeWhiteBoardItem Color Coord) := []
  loaded : Bool := false

/-- The coordinates of a path, two by two; an odd one at the end is dropped. -/
def pairs : List Coord → List (Pair Coord)
  | x :: y :: path => ⟨x, y⟩ :: pairs path
  | _ => []

namespace BeeWhiteBoardPage

def initWithParam (fitting : Fitting Coord) (src : String) (url : Option Text)
    (canvasSize refPos targetSize : Pair Coord) : BeeWhiteBoardPage Color Coord where
  src
  url
  canvasSize
  refPos
  targetSize := fitting.size targetSize canvasSize

def pushUndo (page : BeeWhiteBoardPage Color Coord) (layer : Layer Color Coord) :
    BeeWhiteBoardPage Color Coord :=
  { page with undoStack := page.undoStack ++ [layer] }

def pushRedo (page : BeeWhiteBoardPage Color Coord) (layer : Layer Color Coord) :
    BeeWhiteBoardPage Color Coord :=
  { page with redoStack := page.redoStack ++ [layer] }

def popRedo (page : BeeWhiteBoardPage Color Coord) :
    Option (Layer Color Coord) × BeeWhiteBoardPage Color Coord :=
  (page.redoStack.getLast?, { page with redoStack := page.redoStack.dropLast })

def cacheItem (page : BeeWhiteBoardPage Color Coord) (item : BeeWhiteBoardItem Color Coord) :
    BeeWhiteBoardStack → BeeWhiteBoardPage Color Coord
  | .undo => { page with undoItems := page.undoItems ++ [item] }
  | .redo => { page with redoItems := item :: page.redoItems }

/-- The layer of `loadLineToStack` and `loadTextToStack`: none for the laser pen and for a
path without a point. The first point is there twice. -/
def layerOf (fitting : Fitting Coord) (page : BeeWhiteBoardPage Color Coord) :
    BeeWhiteBoardItem Color Coord → Option (Layer Color Coord)
  | .line color width mode path =>
    if mode = .laser then none
    else
      let points := (pairs path).map (fitting.point page.canvasSize page.refPos page.targetSize)
      points.head?.map fun start => .line color width mode start points
  | .text color size data pos =>
    some (.text color size data (fitting.point page.canvasSize page.refPos page.targetSize pos))

def loadItemToStack (fitting : Fitting Coord) (stack : BeeWhiteBoardStack)
    (page : BeeWhiteBoardPage Color Coord) (item : BeeWhiteBoardItem Color Coord) :
    BeeWhiteBoardPage Color Coord :=
  match page.layerOf fitting item with
  | none => page
  | some layer =>
    match stack with
    | .undo => page.pushUndo layer
    | .redo => page.pushRedo layer

def loadItems (fitting : Fitting Coord) (page : BeeWhiteBoardPage Color Coord) :
    BeeWhiteBoardPage Color Coord :=
  let page := page.undoItems.foldl (loadItemToStack fitting .undo) page
  { page.redoItems.foldl (loadItemToStack fitting .redo) page with loaded := true }

/-- `load`, which has its image when there is one to wait for. -/
def load (fitting : Fitting Coord) (page : BeeWhiteBoardPage Color Coord) :
    BeeWhiteBoardPage Color Coord :=
  if page.loaded then page else page.loadItems fitting

/-- So many calls of `redo`: what they put back on the page. -/
def redos : Nat → BeeWhiteBoardPage Color Coord → List (Layer Color Coord)
  | 0, _ => []
  | calls + 1, page =>
    match page.popRedo with
    | (none, page) => redos calls page
    | (some layer, page) => layer :: redos calls (page.pushUndo layer)

end BeeWhiteBoardPage

/-! ### The view -/

/-- The array of pages; `id` is the object. -/
structure Pages (Color Coord : Type) where
  id : Nat
  items : List (BeeWhiteBoardPage Color Coord)

/-- `BeeWhiteBoardView` without what is on the screen. `background` is the image behind the
page; `made` counts the arrays of pages. -/
structure BeeWhiteBoardView (Color Coord : Type) where
  pages : Option (Pages Color Coord) := none
  currentPageIndex : Int := -1
  background : Option Text := none
  canvasSize : Pair Coord
  refPos : Pair Coord
  frame : Pair Coord
  made : Nat := 0

/-- An `NSInteger` that is compared with an `NSUInteger`. -/
def unsigned (value : Int) : Nat := (value % 18446744073709551616).toNat

namespace BeeWhiteBoardView

def clearBackground (view : BeeWhiteBoardView Color Coord) : BeeWhiteBoardView Color Coord :=
  { view with background := none }

def adaptSizeToCanvas (fitting : Fitting Coord) (view : BeeWhiteBoardView Color Coord)
    (canvasSize refPos : Pair Coord) : BeeWhiteBoardView Color Coord :=
  if fitting.isZero canvasSize.first ∨ fitting.isZero canvasSize.second then view
  else { view with canvasSize, refPos, frame := fitting.size view.frame canvasSize }

/-- A page that needs no image is loaded at once. What happens when the image of another
one comes is left out. -/
def loadFromPage (fitting : Fitting Coord) (view : BeeWhiteBoardView Color Coord) (pageIndex : Int) :
    BeeWhiteBoardView Color Coord :=
  match view.pages with
  | none => view
  | some pages =>
    if 0 ≤ pageIndex ∧ unsigned pageIndex < pages.items.length then
      { view with pages := some { pages with
          items := pages.items.modify pageIndex.toNat fun page =>
            if page.url = none then page.load fitting else page } }
    else view

def setBoardInfo (fitting : Fitting Coord) (view : BeeWhiteBoardView Color Coord)
    (pages : Option (Pages Color Coord)) (currentPageIndex : Int) (canvasSize refPos : Pair Coord) :
    BeeWhiteBoardView Color Coord :=
  let view := { view with pages, currentPageIndex }.adaptSizeToCanvas fitting canvasSize refPos
  match pages with
  | none => view.clearBackground
  | some pages =>
    if pages.items.length = 0 ∨ pages.items.length ≤ unsigned currentPageIndex then
      view.clearBackground
    else view.loadFromPage fitting currentPageIndex

def nextPage (fitting : Fitting Coord) (view : BeeWhiteBoardView Color Coord) :
    BeeWhiteBoardView Color Coord :=
  match view.pages with
  | none => view
  | some pages =>
    if unsigned (view.currentPageIndex + 1) < pages.items.length then
      { view with currentPageIndex := view.currentPageIndex + 1 }.loadFromPage fitting
        (view.currentPageIndex + 1)
    else view

def prePage (fitting : Fitting Coord) (view : BeeWhiteBoardView Color Coord) :
    BeeWhiteBoardView Color Coord :=
  match view.pages with
  | none => view
  | some _ =>
    if 0 ≤ view.currentPageIndex - 1 then
      { view with currentPageIndex := view.currentPageIndex - 1 }.loadFromPage fitting
        (view.currentPageIndex - 1)
    else view

end BeeWhiteBoardView

/-! ### Reading a board info -/

/-- How the reading ends early: `return`, or `break` out of the `do`. -/
inductive Stop where
  | returned | broken
  deriving DecidableEq

def required (stop : Stop) {α : Type} : Option α → Except Stop α
  | some value => .ok value
  | none => .error stop

/-- The images of the pages: their base, name and format. -/
structure Image where
  imgBaseUrl : Text
  imgName : Text
  imgFormat : Text

/-- `imgjson`: the image and its first and last index. -/
def readImage (imgInfo : Option ImageInfo) : Except Stop (Option Image × Int × Int) :=
  match imgInfo with
  | none => .ok (none, 0, 0)
  | some imgInfo =>
    match imgInfo.baseurl with
    | none => .ok (none, 0, 0)
    | some imgBaseUrl => do
      let imgName ← required .broken imgInfo.name
      let imgFormat ← required .broken imgInfo.format
      let startIdx ← required .returned imgInfo.startidx
      let endIdx ← required .broken imgInfo.endidx
      .ok (some { imgBaseUrl, imgName, imgFormat }, startIdx.integerValue, endIdx.integerValue)

/-- `resinfo`: the size of the canvas and its position. -/
def readResolution (fitting : Fitting Coord) (resInfo : Option (ResInfo Coord)) :
    Except Stop (Pair Coord × Pair Coord) := do
  let resInfo ← required .broken resInfo
  let width ← required .broken resInfo.w
  let height ← required .broken resInfo.h
  let (x, y) := resInfo.locinfo.getD (none, none)
  .ok (⟨width, height⟩, ⟨x.getD fitting.zero, y.getD fitting.zero⟩)

def getDrawingModeFromTool (tool : String) : BeeDrawingMode :=
  if tool = "pen" then .pen
  else if tool = "eraser" then .eraser
  else if tool = "laserpen" then .laser
  else if tool = "text" then .text
  else .none

/-- An item of `cacheWhiteBoardItems`; those that lack something are passed by. -/
def readItem (item : Item Color Coord) : Option (BeeWhiteBoardItem Color Coord) := do
  let color ← item.lc
  let width ← item.lw
  let tool ← item.tool
  let path ← item.path
  let mode := getDrawingModeFromTool tool
  if mode = .text then
    match item.data, path with
    | some data, x :: y :: _ => some (.text color width data ⟨x, y⟩)
    | _, _ => none
  else some (.line color width mode path)

def cacheWhiteBoardItems (stack : BeeWhiteBoardStack) (items : List (Item Color Coord))
    (page : BeeWhiteBoardPage Color Coord) : BeeWhiteBoardPage Color Coord :=
  items.foldl (fun page item =>
    match readItem item with
    | some item => page.cacheItem item stack
    | none => page) page

/-- A page is filled only when all of `past`, `present` and `future` are there. -/
def fillPage (obj : Option (Option (PageInfo Color Coord))) (page : BeeWhiteBoardPage Color Coord) :
    BeeWhiteBoardPage Color Coord :=
  match obj with
  | some (some info) =>
    match info.past, info.present, info.future with
    | some past, true, some future =>
      cacheWhiteBoardItems .redo future (cacheWhiteBoardItems .undo past page)
    | _, _, _ => page
  | _ => page

/-- The images are counted from zero, wherever the first index is. -/
def imgUrl (image : Option Image) (i : Nat) : Option Text :=
  image.map fun image =>
    image.imgBaseUrl ++ image.imgName ++ '-' :: Nat.toDigits 10 i ++ '.' :: image.imgFormat

/-- The pages of the loop, whose bound is a signed number compared with an unsigned one. -/
def whiteBoardPages (fitting : Fitting Coord) («from» : String) (frame : Pair Coord)
    (image : Option Image) (count : Int) (canvasSize refPos : Pair Coord)
    (pages : List (Option (PageInfo Color Coord))) : List (BeeWhiteBoardPage Color Coord) :=
  (List.range (unsigned count)).map fun i =>
    fillPage pages[i]? (.initWithParam fitting «from» (imgUrl image i) canvasSize refPos frame)

/-- What is read of a message: the pages, the current one and the sizes. -/
structure Read (Color Coord : Type) where
  items : List (BeeWhiteBoardPage Color Coord)
  currentPageIndex : Int
  canvasSize : Pair Coord
  refPos : Pair Coord

/-- The body of the `do`. An empty `data` ends it like one without `resinfo`. -/
def readBoardInfo (fitting : Fitting Coord) («from» : String) (frame : Pair Coord)
    (data : Option (BoardInfo Color Coord)) : Except Stop (Read Color Coord) := do
  let data ← required .broken data
  let (image, startIdx, endIdx) ← readImage data.imgjson
  let (canvasSize, refPos) ← readResolution fitting data.resinfo
  .ok {
    items := whiteBoardPages fitting «from» frame image (endIdx - startIdx + 1) canvasSize refPos
      data.reducerinfo
    currentPageIndex := (data.page.map Scalar.integerValue).getD 0
    canvasSize
    refPos }

/-- `handleBoardInfo` of a board with a view; without one nothing happens. Where the reading
breaks off, the view is given no pages. -/
def handleBoardInfo (fitting : Fitting Coord) («from» : String)
    (data : Option (BoardInfo Color Coord)) (view : BeeWhiteBoardView Color Coord) :
    BeeWhiteBoardView Color Coord :=
  match readBoardInfo fitting «from» view.frame data with
  | .error .returned => view
  | .error .broken =>
    view.setBoardInfo fitting none 0 ⟨fitting.zero, fitting.zero⟩ ⟨fitting.zero, fitting.zero⟩
  | .ok read =>
    { view with made := view.made + 1 }.setBoardInfo fitting (some ⟨view.made, read.items⟩)
      read.currentPageIndex read.canvasSize read.refPos

/-! ### What restoring means -/

/-- The index of a first or last image, where there is one. -/
def indexOf (field : ImageInfo → Option Scalar) (data : BoardInfo Color Coord) : Int :=
  ((data.imgjson.bind field).map Scalar.integerValue).getD 0

/-- A whole number in decimals. -/
def decimal : Int → Text
  | .ofNat number => Nat.toDigits 10 number
  | .negSucc number => '-' :: Nat.toDigits 10 (number + 1)

/-- The image with an index, for a board that has images. -/
def imageOf (data : BoardInfo Color Coord) (index : Int) : Option Text := do
  let info ← data.imgjson
  let baseurl ← info.baseurl
  let name ← info.name
  let format ← info.format
  some (baseurl ++ name ++ '-' :: decimal index ++ '.' :: format)

/-- The items that a message has for a page. -/
def itemsOf (field : PageInfo Color Coord → Option (List (Item Color Coord)))
    (data : BoardInfo Color Coord) (k : Nat) : List (Item Color Coord) :=
  ((data.reducerinfo[k]?.join.bind field).getD [])

/-- What items put on a page, in their order. -/
def drawn (fitting : Fitting Coord) (page : BeeWhiteBoardPage Color Coord)
    (items : List (Item Color Coord)) : List (Layer Color Coord) :=
  (items.filterMap readItem).filterMap (page.layerOf fitting)

/-- A page as the message has it: with its image, on loading its past is the undo stack, and
calls of `redo` bring its future back from the first item on. -/
structure BuiltPage (fitting : Fitting Coord) (data : BoardInfo Color Coord) (k : Nat)
    (page : BeeWhiteBoardPage Color Coord) : Prop where
  image : page.url = imageOf data (indexOf ImageInfo.startidx data + k)
  past : (page.load fitting).undoStack = drawn fitting page (itemsOf PageInfo.past data k)
  future : ∀ calls, (page.load fitting).redos calls =
    (drawn fitting page (itemsOf PageInfo.future data k)).take calls

/-- The pages are those of the message. -/
structure Built (fitting : Fitting Coord) (data : BoardInfo Color Coord)
    (items : List (BeeWhiteBoardPage Color Coord)) : Prop where
  count : (items.length : Int) = indexOf ImageInfo.endidx data - indexOf ImageInfo.startidx data + 1
  page : ∀ k page, items[k]? = some page → BuiltPage fitting data k page

/-- The current page is one of the pages, or none: there are no pages, or the index is the
one that a new view has. -/
def BeeWhiteBoardView.Placed (view : BeeWhiteBoardView Color Coord) : Prop :=
  match view.pages with
  | none => True
  | some pages =>
    view.currentPageIndex = -1 ∨
      0 ≤ view.currentPageIndex ∧ view.currentPageIndex < pages.items.length

/-- Calls of `nextPage` and `prePage`, one after the other. -/
def BeeWhiteBoardView.turn (fitting : Fitting Coord) (view : BeeWhiteBoardView Color Coord)
    (turns : List Bool) : BeeWhiteBoardView Color Coord :=
  turns.foldl (fun view next => if next then view.nextPage fitting else view.prePage fitting) view

/-- The board is as it was, or that of the message with a current page on it, whichever way
the pages are turned. -/
def Restored (fitting : Fitting Coord) (data : Option (BoardInfo Color Coord))
    (before after : BeeWhiteBoardView Color Coord) : Prop :=
  after = before ∨ ∃ info pages, data = some info ∧ after.pages = some pages ∧
    Built fitting info pages.items ∧ ∀ turns, (after.turn fitting turns).Placed

/-! ### When a board is restored -/

/-- Nothing that the reading asks for is missing. -/
def BoardInfo.Complete (data : BoardInfo Color Coord) : Prop :=
  (∀ image, data.imgjson = some image → image.baseurl.isSome →
    image.name.isSome ∧ image.format.isSome ∧ image.startidx.isSome ∧ image.endidx.isSome) ∧
  ∃ res, data.resinfo = some res ∧ res.w.isSome ∧ res.h.isSome

/-- There are images, and of what the reading asks them the first index is what it misses. -/
def BoardInfo.Unstarted (data : BoardInfo Color Coord) : Prop :=
  ∃ image, data.imgjson = some image ∧ image.baseurl.isSome ∧ image.name.isSome ∧
    image.format.isSome ∧ image.startidx = none

/-- There are no pages, the index is zero and the background empty. -/
def BeeWhiteBoardView.Blank (view : BeeWhiteBoardView Color Coord) : Prop :=
  view.pages = none ∧ view.currentPageIndex = 0 ∧ view.background = none

/-- The pages that are counted: with images the first index is zero or there is no page, and
the last one is not below it by more than one; without images both are the same. -/
def BoardInfo.Counted (data : BoardInfo Color Coord) : Prop :=
  if (data.imgjson.bind ImageInfo.baseurl).isSome then
    indexOf ImageInfo.endidx data + 1 = indexOf ImageInfo.startidx data ∨
      indexOf ImageInfo.startidx data = 0 ∧ 0 ≤ indexOf ImageInfo.endidx data
  else indexOf ImageInfo.endidx data = indexOf ImageInfo.startidx data

/-- An item that puts something on the screen. -/
def BeeWhiteBoardItem.visible : BeeWhiteBoardItem Color Coord → Bool
  | .line _ _ mode path => mode ≠ .laser && (pairs path).length ≠ 0
  | .text _ _ _ _ => true

def Item.visible (item : Item Color Coord) : Bool := (readItem item).any BeeWhiteBoardItem.visible

/-- A page of the message that is not passed over, or has nothing to show. -/
def PageInfo.Whole (info : PageInfo Color Coord) : Prop :=
  info.past.isSome ∧ info.present ∧ info.future.isSome ∨
    ∀ item ∈ info.past.getD [] ++ info.future.getD [], item.visible = false

/-- The pages are counted, each is whole, and the page of the message is one of them or none. -/
structure BoardInfo.Fits (data : BoardInfo Color Coord) : Prop where
  counted : data.Counted
  whole : ∀ (k : Nat) info, data.reducerinfo[k]? = some (some info) →
    (k : Int) ≤ indexOf ImageInfo.endidx data - indexOf ImageInfo.startidx data → info.Whole
  placed : (data.page.map Scalar.integerValue).getD 0 = -1 ∨
    0 ≤ (data.page.map Scalar.integerValue).getD 0 ∧ (data.page.map Scalar.integerValue).getD 0 ≤
      indexOf ImageInfo.endidx data - indexOf ImageInfo.startidx data

end BeeSdk.BoardRestore
