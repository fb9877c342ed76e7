import BeeSdk.BoardRestore

/-! When a board info restores the board: the items of a page reach its stacks in their order,
the future by being turned round twice, and the pages are counted and named right only from
zero on. -/
namespace BeeSdk.BoardRestore
open HttpHeader (Text)

variable {Color Coord : Type} {fitting : Fitting Coord}

/-! ### Items on their way to the stacks -/

theorem cacheWhiteBoardItems_undo (items : List (Item Color Coord))
    (page : BeeWhiteBoardPage Color Coord) :
    cacheWhiteBoardItems .undo items page =
      { page with undoItems := page.undoItems ++ items.filterMap readItem } := by
  induction items generalizing page with
  | nil => simp [cacheWhiteBoardItems]
  | cons item items ih =>
    cases read : readItem item with
    | none => simpa [cacheWhiteBoardItems, read] using ih page
    | some item =>
      simpa [cacheWhiteBoardItems, read, BeeWhiteBoardPage.cacheItem] using
        ih (page.cacheItem item .undo)

theorem cacheWhiteBoardItems_redo (items : List (Item Color Coord))
    (page : BeeWhiteBoardPage Color Coord) :
    cacheWhiteBoardItems .redo items page =
      { page with redoItems := (items.filterMap readItem).reverse ++ page.redoItems } := by
  induction items generalizing page with
  | nil => simp [cacheWhiteBoardItems]
  | cons item items ih =>
    cases read : readItem item with
    | none => simpa [cacheWhiteBoardItems, read] using ih page
    | some item =>
      simpa [cacheWhiteBoardItems, read, BeeWhiteBoardPage.cacheItem] using
        ih (page.cacheItem item .redo)

namespace BeeWhiteBoardPage

/-- The layer of an item depends on the sizes of the page alone. -/
theorem layerOf_eq {page after : BeeWhiteBoardPage Color Coord}
    (canvas : after.canvasSize = page.canvasSize) (pos : after.refPos = page.refPos)
    (target : after.targetSize = page.targetSize) :
    after.layerOf fitting = page.layerOf fitting := by
  funext item
  cases item <;> simp only [layerOf, canvas, pos, target]

theorem loadUndoItems (items : List (BeeWhiteBoardItem Color Coord))
    (page : BeeWhiteBoardPage Color Coord) :
    items.foldl (loadItemToStack fitting .undo) page =
      { page with undoStack := page.undoStack ++ items.filterMap (page.layerOf fitting) } := by
  induction items generalizing page with
  | nil => simp
  | cons item items ih =>
    rw [List.foldl_cons, ih]
    cases layer : page.layerOf fitting item with
    | none => simp [loadItemToStack, layer]
    | some drawing =>
      have same : (page.pushUndo drawing).layerOf fitting = page.layerOf fitting :=
        layerOf_eq rfl rfl rfl
      simp only [loadItemToStack, layer, same, List.filterMap_cons]
      simp [pushUndo]

theorem loadRedoItems (items : List (BeeWhiteBoardItem Color Coord))
    (page : BeeWhiteBoardPage Color Coord) :
    items.foldl (loadItemToStack fitting .redo) page =
      { page with redoStack := page.redoStack ++ items.filterMap (page.layerOf fitting) } := by
  induction items generalizing page with
  | nil => simp
  | cons item items ih =>
    rw [List.foldl_cons, ih]
    cases layer : page.layerOf fitting item with
    | none => simp [loadItemToStack, layer]
    | some drawing =>
      have same : (page.pushRedo drawing).layerOf fitting = page.layerOf fitting :=
        layerOf_eq rfl rfl rfl
      simp only [loadItemToStack, layer, same, List.filterMap_cons]
      simp [pushRedo]

/-- A page that is not loaded gets its cached items onto the stacks. -/
theorem load_fresh (fitting : Fitting Coord) (page : BeeWhiteBoardPage Color Coord)
    (fresh : page.loaded = false) :
    page.load fitting = { page with
      undoStack := page.undoStack ++ page.undoItems.filterMap (page.layerOf fitting)
      redoStack := page.redoStack ++ page.redoItems.filterMap (page.layerOf fitting)
      loaded := true } := by
  simp only [load, fresh, Bool.false_eq_true, if_false, loadItems, loadUndoItems, loadRedoItems]
  congr 3

theorem load_load (fitting : Fitting Coord) (page : BeeWhiteBoardPage Color Coord) :
    (page.load fitting).load fitting = page.load fitting := by
  cases loaded : page.loaded with
  | true => simp [load, loaded]
  | false =>
    rw [load_fresh fitting page loaded]
    simp [load]

/-- Calls of `redo` take the stack from its end. -/
theorem redos_take (calls : Nat) (page : BeeWhiteBoardPage Color Coord) :
    page.redos calls = page.redoStack.reverse.take calls := by
  induction calls generalizing page with
  | zero => simp [redos]
  | succ calls ih =>
    rcases List.eq_nil_or_concat page.redoStack with empty | ⟨below, last, stack⟩
    · simp [redos, popRedo, empty, ih]
    · simp [redos, popRedo, stack, ih, pushUndo]

end BeeWhiteBoardPage

/-! ### A page of the message -/

/-- The items that reach the stacks of a page: those of a page that has everything. -/
def PageInfo.kept (info : PageInfo Color Coord) (items : Option (List (Item Color Coord))) :
    List (BeeWhiteBoardItem Color Coord) :=
  if info.past.isSome ∧ info.present ∧ info.future.isSome then
    (items.getD []).filterMap readItem
  else []

theorem fillPage_some (info : PageInfo Color Coord) (page : BeeWhiteBoardPage Color Coord)
    (fresh : page.undoItems = [] ∧ page.redoItems = []) :
    fillPage (some (some info)) page = { page with
      undoItems := info.kept info.past, redoItems := (info.kept info.future).reverse } := by
  obtain ⟨past, present, future⟩ := info
  obtain ⟨src, url, canvasSize, refPos, targetSize, undoStack, redoStack, _, _, loaded⟩ := page
  obtain ⟨rfl, rfl⟩ := fresh
  cases past <;> cases present <;> cases future <;>
    simp [fillPage, PageInfo.kept, cacheWhiteBoardItems_undo, cacheWhiteBoardItems_redo]

theorem layerOf_isSome (fitting : Fitting Coord) (page : BeeWhiteBoardPage Color Coord)
    (item : BeeWhiteBoardItem Color Coord) :
    (page.layerOf fitting item).isSome = item.visible := by
  cases item with
  | line color width mode path =>
    by_cases laser : mode = .laser
    · simp [BeeWhiteBoardPage.layerOf, BeeWhiteBoardItem.visible, laser]
    · cases points : pairs path <;>
        simp [BeeWhiteBoardPage.layerOf, BeeWhiteBoardItem.visible, laser, points]
  | text color size data pos => rfl

theorem drawn_eq_nil (fitting : Fitting Coord) (page : BeeWhiteBoardPage Color Coord)
    (items : List (Item Color Coord)) :
    drawn fitting page items = [] ↔ ∀ item ∈ items, item.visible = false := by
  simp only [drawn, List.filterMap_filterMap, List.filterMap_eq_nil_iff]
  refine forall₂_congr fun item _ => ?_
  cases read : readItem item with
  | none => simp [Item.visible, read]
  | some found =>
    have seen := layerOf_isSome fitting page found
    cases layer : page.layerOf fitting found <;> simp_all [Item.visible]

/-- All of a list is taken only when it is the list. -/
theorem take_all {first second : List α} (same : ∀ calls, first.take calls = second.take calls) :
    first = second := by
  have whole := same (first.length + second.length)
  rwa [List.take_of_length_le (by omega), List.take_of_length_le (by omega)] at whole

/-- A new page of the loop, before it is filled. -/
structure Fresh (page : BeeWhiteBoardPage Color Coord) : Prop where
  items : page.undoItems = [] ∧ page.redoItems = []
  undo : page.undoStack = []
  redo : page.redoStack = []
  loaded : page.loaded = false

/-- A page has the past and the future that the message has for it, unless it is passed over
with something to show. -/
theorem fillPage_built_iff (fitting : Fitting Coord) {page : BeeWhiteBoardPage Color Coord}
    (fresh : Fresh page)
    (data : BoardInfo Color Coord) (k : Nat) :
    (((fillPage data.reducerinfo[k]? page).load fitting).undoStack =
        drawn fitting page (itemsOf PageInfo.past data k) ∧
      ∀ calls, ((fillPage data.reducerinfo[k]? page).load fitting).redos calls =
        (drawn fitting page (itemsOf PageInfo.future data k)).take calls) ↔
    ∀ info, data.reducerinfo[k]? = some (some info) → info.Whole := by
  have blank := BeeWhiteBoardPage.load_fresh fitting page fresh.loaded
  rcases entry : data.reducerinfo[k]? with _ | _ | info
  · simp [fillPage, blank, fresh.undo, fresh.redo, fresh.items, itemsOf, entry, drawn,
      BeeWhiteBoardPage.redos_take]
  · simp [fillPage, blank, fresh.undo, fresh.redo, fresh.items, itemsOf, entry, drawn,
      BeeWhiteBoardPage.redos_take]
  · have filled := fillPage_some info page fresh.items
    have loaded := BeeWhiteBoardPage.load_fresh fitting
      (fillPage (some (some info)) page) (by rw [filled]; exact fresh.loaded)
    have same : (fillPage (some (some info)) page).layerOf fitting = page.layerOf fitting := by
      rw [filled]
      exact BeeWhiteBoardPage.layerOf_eq rfl rfl rfl
    have past : itemsOf PageInfo.past data k = info.past.getD [] := by simp [itemsOf, entry]
    have future : itemsOf PageInfo.future data k = info.future.getD [] := by simp [itemsOf, entry]
    have undone : ((fillPage (some (some info)) page).load fitting).undoStack =
        (info.kept info.past).filterMap (page.layerOf fitting) := by
      rw [loaded, same, filled]
      simp [fresh.undo]
    have redone : ((fillPage (some (some info)) page).load fitting).redoStack.reverse =
        (info.kept info.future).filterMap (page.layerOf fitting) := by
      rw [loaded, same, filled]
      simp [fresh.redo, List.filterMap_reverse]
    simp only [BeeWhiteBoardPage.redos_take, redone, undone, past, future, Option.some.injEq,
      forall_eq']
    by_cases given : info.past.isSome ∧ info.present ∧ info.future.isSome
    · simp [PageInfo.kept, given, PageInfo.Whole, drawn]
    · have none : ∀ items, info.kept items = [] := fun items => by simp [PageInfo.kept, given]
      simp only [none, List.filterMap_nil, List.take_nil, PageInfo.Whole, given, false_or,
        List.forall_mem_append, ← drawn_eq_nil fitting page]
      constructor
      · rintro ⟨before, after⟩
        exact ⟨before.symm, (take_all fun calls => by simpa using after calls).symm⟩
      · rintro ⟨before, after⟩
        simp [before, after]

/-! ### Images -/

theorem toDigits_decimal {number : Nat} {index : Int}
    (same : Nat.toDigits 10 number = decimal index) : (number : Int) = index := by
  cases index with
  | ofNat other =>
    have back := congrArg (fun digits => Nat.ofDigitChars 10 digits 0) same
    simp only [decimal, Nat.ofDigitChars_ten_toDigits] at back
    exact congrArg Int.ofNat back
  | negSucc other =>
    have first : '-' ∈ Nat.toDigits 10 number := by
      rw [same]
      exact List.mem_cons_self
    have digit := Nat.isDigit_of_mem_toDigits (by omega) (by omega) first
    exact absurd digit (by decide)

/-- An image has the index of the message only when both count from the same. -/
theorem imgUrl_eq_iff (image : Image) (k : Nat) (index : Int) :
    imgUrl (some image) k = some (image.imgBaseUrl ++ image.imgName ++ '-' :: decimal index ++
      '.' :: image.imgFormat) ↔ (k : Int) = index := by
  constructor
  · intro same
    simp only [imgUrl, Option.map_some, Option.some.injEq] at same
    have digits := List.append_cancel_left (List.append_cancel_right same)
    exact toDigits_decimal (List.cons.inj digits).2
  · rintro rfl
    rfl

/-! ### The reading -/

/-- The image and the indexes that a complete message gives. -/
inductive ImageRead (data : BoardInfo Color Coord) : Option Image → Int → Int → Prop where
  | given (image : Image) (based : (data.imgjson.bind ImageInfo.baseurl).isSome)
      (named : ∀ index, imageOf data index = some (image.imgBaseUrl ++ image.imgName ++
        '-' :: decimal index ++ '.' :: image.imgFormat)) :
      ImageRead data (some image) (indexOf ImageInfo.startidx data) (indexOf ImageInfo.endidx data)
  | absent (based : (data.imgjson.bind ImageInfo.baseurl).isSome = false)
      (named : ∀ index, imageOf data index = none) : ImageRead data none 0 0

theorem readImage_complete (data : BoardInfo Color Coord) (complete : data.Complete) :
    ∃ image startIdx endIdx, readImage data.imgjson = .ok (image, startIdx, endIdx) ∧
      ImageRead data image startIdx endIdx := by
  cases imgjson : data.imgjson with
  | none =>
    exact ⟨_, _, _, rfl, .absent (by simp [imgjson]) fun _ => by simp [imageOf, imgjson]⟩
  | some info =>
    cases baseurl : info.baseurl with
    | none =>
      exact ⟨_, _, _, by simp only [readImage, baseurl], .absent (by simp [imgjson, baseurl])
        fun _ => by simp [imageOf, imgjson, baseurl]⟩
    | some base =>
      obtain ⟨named, formatted, started, ended⟩ := complete.1 info imgjson (by simp [baseurl])
      obtain ⟨name, named⟩ := Option.isSome_iff_exists.mp named
      obtain ⟨format, formatted⟩ := Option.isSome_iff_exists.mp formatted
      obtain ⟨start, started⟩ := Option.isSome_iff_exists.mp started
      obtain ⟨last, ended⟩ := Option.isSome_iff_exists.mp ended
      have first : indexOf ImageInfo.startidx data = start.integerValue := by
        simp [indexOf, imgjson, started]
      have final : indexOf ImageInfo.endidx data = last.integerValue := by
        simp [indexOf, imgjson, ended]
      refine ⟨some ⟨base, name, format⟩, start.integerValue, last.integerValue, ?_, ?_⟩
      · simp [readImage, baseurl, named, formatted, started, ended, required, bind, Except.bind]
      · rw [← first, ← final]
        exact .given _ (by simp [imgjson, baseurl]) fun _ => by
          simp [imageOf, imgjson, baseurl, named, formatted]

/-- A complete message is read to its end. -/
theorem readBoardInfo_complete (fitting : Fitting Coord) («from» : String) (frame : Pair Coord)
    (data : BoardInfo Color Coord) (complete : data.Complete) :
    ∃ image startIdx endIdx canvasSize refPos, ImageRead data image startIdx endIdx ∧
      readBoardInfo fitting «from» frame (some data) = .ok {
        items := whiteBoardPages fitting «from» frame image (endIdx - startIdx + 1) canvasSize
          refPos data.reducerinfo
        currentPageIndex := (data.page.map Scalar.integerValue).getD 0
        canvasSize
        refPos } := by
  obtain ⟨image, startIdx, endIdx, read, told⟩ := readImage_complete data complete
  obtain ⟨res, resinfo, width, height⟩ := complete.2
  obtain ⟨w, width⟩ := Option.isSome_iff_exists.mp width
  obtain ⟨h, height⟩ := Option.isSome_iff_exists.mp height
  refine ⟨image, startIdx, endIdx, ⟨w, h⟩, ⟨(res.locinfo.getD (none, none)).1.getD fitting.zero,
    (res.locinfo.getD (none, none)).2.getD fitting.zero⟩, told, ?_⟩
  simp [readBoardInfo, required, read, readResolution, resinfo, width, height, bind, Except.bind]

/-- Images that lack something stop the reading: with `return` when it is the first index. -/
theorem readImage_incomplete (data : BoardInfo Color Coord) :
    readImage data.imgjson = .error .returned ∧ data.Unstarted ∨
      readImage data.imgjson = .error .broken ∧ ¬ data.Unstarted ∨
      (∃ read, readImage data.imgjson = .ok read) ∧ ¬ data.Unstarted ∧
        ∀ image, data.imgjson = some image → image.baseurl.isSome →
          image.name.isSome ∧ image.format.isSome ∧ image.startidx.isSome ∧ image.endidx.isSome := by
  rcases data with ⟨_ | ⟨_ | base, _ | name, _ | format, _ | start, _ | last⟩, _, _, _⟩ <;>
    simp [readImage, required, BoardInfo.Unstarted, bind, Except.bind]

/-- Any other message stops the reading. -/
theorem readBoardInfo_incomplete (fitting : Fitting Coord) («from» : String) (frame : Pair Coord)
    (data : Option (BoardInfo Color Coord))
    (incomplete : ¬ ∃ info, data = some info ∧ info.Complete) :
    readBoardInfo fitting «from» frame data = .error .returned ∧
        (∃ info, data = some info ∧ info.Unstarted) ∨
      readBoardInfo fitting «from» frame data = .error .broken ∧
        ¬ ∃ info, data = some info ∧ info.Unstarted := by
  cases data with
  | none => exact .inr ⟨rfl, by simp⟩
  | some data =>
    simp only [Option.some.injEq, exists_eq_left'] at incomplete ⊢
    rcases readImage_incomplete data with ⟨stop, unstarted⟩ | ⟨stop, started⟩ |
      ⟨⟨read, image⟩, started, given⟩
    · exact .inl ⟨by simp [readBoardInfo, required, stop, bind, Except.bind], unstarted⟩
    · exact .inr ⟨by simp [readBoardInfo, required, stop, bind, Except.bind], started⟩
    · have cut : readResolution fitting data.resinfo = .error .broken := by
        rcases resolution : data.resinfo with _ | ⟨_ | w, _ | h, _⟩ <;>
          simp [readResolution, required, bind, Except.bind]
        exact incomplete ⟨given, _, resolution, rfl, rfl⟩
      exact .inr ⟨by simp [readBoardInfo, required, image, cut, bind, Except.bind], started⟩

/-! ### Counting -/

theorem unsigned_lt (value : Int) : unsigned value < 18446744073709551616 := by
  simp only [unsigned]
  omega

theorem unsigned_inside {value : Int} (nonneg : 0 ≤ value) (fits : value < 18446744073709551616) :
    (unsigned value : Int) = value := by
  simp only [unsigned]
  omega

theorem integerValue_bound (value : Scalar) :
    -9223372036854775808 ≤ value.integerValue ∧ value.integerValue ≤ 9223372036854775807 := by
  cases value with
  | string text =>
    simp only [Scalar.integerValue]
    omega
  | number value =>
    have low := value.le_toInt
    have high := value.toInt_lt
    simp only [Scalar.integerValue]
    omega

theorem indexOf_bound (field : ImageInfo → Option Scalar) (data : BoardInfo Color Coord) :
    -9223372036854775808 ≤ indexOf field data ∧ indexOf field data ≤ 9223372036854775807 := by
  simp only [indexOf]
  cases data.imgjson.bind field with
  | none => simp
  | some value => exact integerValue_bound value

theorem fillPage_frame (fitting : Fitting Coord) (obj : Option (Option (PageInfo Color Coord)))
    (page : BeeWhiteBoardPage Color Coord) :
    (fillPage obj page).url = page.url ∧
      (fillPage obj page).layerOf fitting = page.layerOf fitting := by
  unfold fillPage
  split
  · split
    · rw [cacheWhiteBoardItems_undo, cacheWhiteBoardItems_redo]
      exact ⟨rfl, BeeWhiteBoardPage.layerOf_eq rfl rfl rfl⟩
    · exact ⟨rfl, rfl⟩
  · exact ⟨rfl, rfl⟩

section
variable (data : BoardInfo Color Coord) («from» : String) (frame canvasSize refPos : Pair Coord)

theorem whiteBoardPages_at (image : Option Image) (count : Int) (k : Nat)
    (page : BeeWhiteBoardPage Color Coord) :
    (whiteBoardPages fitting «from» frame image count canvasSize refPos data.reducerinfo)[k]? =
        some page ↔
      k < unsigned count ∧ page = fillPage data.reducerinfo[k]?
        (.initWithParam fitting «from» (imgUrl image k) canvasSize refPos frame) := by
  by_cases inside : k < unsigned count
  · simp [whiteBoardPages, inside, eq_comm]
  · simp [whiteBoardPages, inside]

/-- One page of the loop is that of the message when its image is and nothing to show is
passed over. -/
theorem builtPage_iff (image : Option Image) (k : Nat) :
    BuiltPage fitting data k (fillPage data.reducerinfo[k]?
        (.initWithParam fitting «from» (imgUrl image k) canvasSize refPos frame)) ↔
      imgUrl image k = imageOf data (indexOf ImageInfo.startidx data + k) ∧
        ∀ info, data.reducerinfo[k]? = some (some info) → info.Whole := by
  have fresh : @Fresh Color _ (.initWithParam fitting «from» (imgUrl image k) canvasSize
    refPos frame) := ⟨⟨rfl, rfl⟩, rfl, rfl, rfl⟩
  obtain ⟨url, layers⟩ := fillPage_frame fitting data.reducerinfo[k]?
    (.initWithParam fitting «from» (imgUrl image k) canvasSize refPos frame)
  have shown : ∀ items, drawn fitting (fillPage data.reducerinfo[k]? (.initWithParam fitting «from»
      (imgUrl image k) canvasSize refPos frame)) items = drawn fitting (.initWithParam fitting «from»
      (imgUrl image k) canvasSize refPos frame) items := fun items => by rw [drawn, drawn, layers]
  rw [← fillPage_built_iff fitting fresh data k]
  constructor
  · rintro ⟨named, past, future⟩
    exact ⟨url.symm.trans named, shown _ ▸ past, fun calls => shown _ ▸ future calls⟩
  · rintro ⟨named, past, future⟩
    exact ⟨url.trans named, (shown _).symm ▸ past, fun calls => (shown _).symm ▸ future calls⟩

/-- The pages of the loop are those of the message when they are counted from zero on and
nothing to show is passed over. -/
theorem built_iff (fitting : Fitting Coord) {image : Option Image} {startIdx endIdx : Int}
    (told : ImageRead data image startIdx endIdx) :
    Built fitting data (whiteBoardPages fitting «from» frame image (endIdx - startIdx + 1) canvasSize
        refPos data.reducerinfo) ↔
      data.Counted ∧ ∀ (k : Nat) info, data.reducerinfo[k]? = some (some info) →
        (k : Int) ≤ indexOf ImageInfo.endidx data - indexOf ImageInfo.startidx data → info.Whole := by
  have length : (whiteBoardPages fitting «from» frame image (endIdx - startIdx + 1) canvasSize refPos
      data.reducerinfo).length = unsigned (endIdx - startIdx + 1) := by simp [whiteBoardPages]
  have parts : Built fitting data (whiteBoardPages fitting «from» frame image (endIdx - startIdx + 1)
      canvasSize refPos data.reducerinfo) ↔
      (unsigned (endIdx - startIdx + 1) : Int) =
        indexOf ImageInfo.endidx data - indexOf ImageInfo.startidx data + 1 ∧
      ∀ k : Nat, k < unsigned (endIdx - startIdx + 1) →
        imgUrl image k = imageOf data (indexOf ImageInfo.startidx data + k) ∧
          ∀ info, data.reducerinfo[k]? = some (some info) → info.Whole := by
    constructor
    · rintro ⟨count, pages⟩
      refine ⟨length ▸ count, fun k inside => ?_⟩
      exact (builtPage_iff data «from» frame canvasSize refPos image k).mp
        (pages k _ ((whiteBoardPages_at ..).mpr ⟨inside, rfl⟩))
    · rintro ⟨count, pages⟩
      refine ⟨length ▸ count, fun k page there => ?_⟩
      obtain ⟨inside, rfl⟩ := (whiteBoardPages_at ..).mp there
      exact (builtPage_iff data «from» frame canvasSize refPos image k).mpr (pages k inside)
  rw [parts]
  have low := indexOf_bound ImageInfo.startidx data
  have high := indexOf_bound ImageInfo.endidx data
  cases told with
  | given image based named =>
    simp only [named, imgUrl_eq_iff, BoardInfo.Counted, based, if_true]
    constructor
    · rintro ⟨count, pages⟩
      refine ⟨?_, fun k info there inside => (pages k (by omega)).2 info there⟩
      by_cases empty : unsigned (indexOf ImageInfo.endidx data -
          indexOf ImageInfo.startidx data + 1) = 0
      · omega
      · have first := (pages 0 (by omega)).1
        omega
    · rintro ⟨counted, whole⟩
      have count := @unsigned_inside (indexOf ImageInfo.endidx data -
        indexOf ImageInfo.startidx data + 1) (by omega) (by omega)
      refine ⟨count, fun k inside => ⟨?_, fun info there => whole k info there (by omega)⟩⟩
      omega
  | absent based named =>
    have one : unsigned (0 - 0 + 1) = 1 := rfl
    simp only [named, BoardInfo.Counted, based, Bool.false_eq_true, if_false, one]
    constructor
    · rintro ⟨count, pages⟩
      refine ⟨by omega, fun k info there inside => (pages k (by omega)).2 info there⟩
    · rintro ⟨same, whole⟩
      refine ⟨by omega, fun k inside => ⟨rfl, fun info there => whole k info there (by omega)⟩⟩

end

/-! ### The view -/

theorem load_frame (fitting : Fitting Coord) (page : BeeWhiteBoardPage Color Coord) :
    (page.load fitting).url = page.url ∧
      (page.load fitting).layerOf fitting = page.layerOf fitting := by
  cases loaded : page.loaded with
  | true => simp [BeeWhiteBoardPage.load, loaded]
  | false =>
    rw [BeeWhiteBoardPage.load_fresh fitting page loaded]
    exact ⟨rfl, BeeWhiteBoardPage.layerOf_eq rfl rfl rfl⟩

theorem builtPage_load (data : BoardInfo Color Coord) (k : Nat)
    (page : BeeWhiteBoardPage Color Coord) :
    BuiltPage fitting data k (page.load fitting) ↔ BuiltPage fitting data k page := by
  obtain ⟨url, layers⟩ := load_frame fitting page
  have shown : ∀ items, drawn fitting (page.load fitting) items = drawn fitting page items :=
    fun items => by rw [drawn, drawn, layers]
  have again := BeeWhiteBoardPage.load_load fitting page
  constructor
  · rintro ⟨image, past, future⟩
    refine ⟨url ▸ image, ?_, fun calls => ?_⟩
    · rw [← shown, ← past, again]
    · rw [← shown, ← future, again]
  · rintro ⟨image, past, future⟩
    refine ⟨url.symm ▸ image, ?_, fun calls => ?_⟩
    · rw [shown, ← past, again]
    · rw [shown, ← future, again]

/-- Loading one of the pages changes nothing about what they are. -/
theorem built_modify (data : BoardInfo Color Coord) (items : List (BeeWhiteBoardPage Color Coord))
    (i : Nat) :
    Built fitting data (items.modify i fun page =>
      if page.url = none then page.load fitting else page) ↔ Built fitting data items := by
  have same : ∀ k page, BuiltPage fitting data k
      (if i = k then if page.url = none then page.load fitting else page else page) ↔
        BuiltPage fitting data k page := by
    intro k page
    split
    · split
      · exact builtPage_load data k page
      · exact Iff.rfl
    · exact Iff.rfl
  constructor
  · rintro ⟨count, pages⟩
    refine ⟨by simpa using count, fun k page there => (same k page).mp (pages k _ ?_)⟩
    simp [List.getElem?_modify, there]
  · rintro ⟨count, pages⟩
    refine ⟨by simpa using count, fun k page there => ?_⟩
    rw [List.getElem?_modify] at there
    obtain ⟨former, was, rfl⟩ := Option.map_eq_some_iff.mp there
    exact (same k former).mpr (pages k former was)

namespace BeeWhiteBoardView

/-- The pages that the view has got, with one of them loaded or none. -/
structure Given (fitting : Fitting Coord) (view : BeeWhiteBoardView Color Coord) (id : Nat)
    (items : List (BeeWhiteBoardPage Color Coord)) (currentPageIndex : Int) : Prop where
  pages : view.pages = some ⟨id, items⟩ ∨ ∃ i, view.pages = some ⟨id, items.modify i fun page =>
    if page.url = none then page.load fitting else page⟩
  index : view.currentPageIndex = currentPageIndex

theorem loadFromPage_given (fitting : Fitting Coord) (view : BeeWhiteBoardView Color Coord) (id : Nat)
    (items : List (BeeWhiteBoardPage Color Coord)) (there : view.pages = some ⟨id, items⟩)
    (pageIndex : Int) :
    (view.loadFromPage fitting pageIndex).Given fitting id items view.currentPageIndex := by
  simp only [loadFromPage, there]
  split
  · exact ⟨.inr ⟨_, rfl⟩, rfl⟩
  · exact ⟨.inl there, rfl⟩

theorem adaptSizeToCanvas_frame (fitting : Fitting Coord) (view : BeeWhiteBoardView Color Coord)
    (canvasSize refPos : Pair Coord) :
    (view.adaptSizeToCanvas fitting canvasSize refPos).pages = view.pages ∧
      (view.adaptSizeToCanvas fitting canvasSize refPos).currentPageIndex =
        view.currentPageIndex ∧
      (view.adaptSizeToCanvas fitting canvasSize refPos).made = view.made := by
  unfold adaptSizeToCanvas
  split <;> simp

theorem setBoardInfo_given (fitting : Fitting Coord) (view : BeeWhiteBoardView Color Coord) (id : Nat)
    (items : List (BeeWhiteBoardPage Color Coord)) (currentPageIndex : Int)
    (canvasSize refPos : Pair Coord) :
    (view.setBoardInfo fitting (some ⟨id, items⟩) currentPageIndex canvasSize refPos).Given fitting
      id items currentPageIndex := by
  obtain ⟨pages, index, -⟩ := adaptSizeToCanvas_frame fitting
    { view with pages := some ⟨id, items⟩, currentPageIndex } canvasSize refPos
  simp only [setBoardInfo]
  split
  · exact ⟨.inl pages, index⟩
  · have given := loadFromPage_given fitting _ id items pages currentPageIndex
    exact ⟨given.pages, given.index.trans index⟩

theorem setBoardInfo_made (fitting : Fitting Coord) (view : BeeWhiteBoardView Color Coord)
    (pages : Option (Pages Color Coord)) (currentPageIndex : Int) (canvasSize refPos : Pair Coord) :
    (view.setBoardInfo fitting pages currentPageIndex canvasSize refPos).made = view.made := by
  have made := (adaptSizeToCanvas_frame fitting
    { view with pages, currentPageIndex } canvasSize refPos).2.2
  unfold setBoardInfo
  simp only
  split
  · exact made
  · split
    · exact made
    · refine Eq.trans ?_ made
      unfold loadFromPage
      split
      · rfl
      · split <;> rfl

/-! ### Turning pages -/

/-- The current page is one of the pages, which are fewer than an index can tell, or none. -/
structure Turnable (view : BeeWhiteBoardView Color Coord) : Prop where
  placed : view.Placed
  fits : ∀ pages, view.pages = some pages → pages.items.length < 18446744073709551616

theorem given_turnable {view : BeeWhiteBoardView Color Coord} {id : Nat}
    {items : List (BeeWhiteBoardPage Color Coord)} {index : Int}
    (given : view.Given fitting id items index) (fits : items.length < 18446744073709551616) :
    view.Turnable ↔ index = -1 ∨ 0 ≤ index ∧ index < items.length := by
  obtain ⟨pages, current⟩ := given
  constructor
  · rintro ⟨placed, -⟩
    rcases pages with pages | ⟨i, pages⟩ <;> simpa [Placed, pages, current] using placed
  · intro inside
    rcases pages with pages | ⟨i, pages⟩
    · refine ⟨by simpa [Placed, pages, current] using inside, fun found there => ?_⟩
      cases pages.symm.trans there
      exact fits
    · refine ⟨by simpa [Placed, pages, current] using inside, fun found there => ?_⟩
      cases pages.symm.trans there
      simpa using fits

theorem nextPage_turnable {view : BeeWhiteBoardView Color Coord} (turnable : view.Turnable) :
    (view.nextPage fitting).Turnable := by
  cases there : view.pages with
  | none => simpa only [nextPage, there] using turnable
  | some pages =>
    have placed := turnable.placed
    have fits := turnable.fits pages there
    simp only [Placed, there] at placed
    simp only [nextPage, there]
    split
    · rename_i inside
      have next := loadFromPage_given fitting
        { view with pages := some pages, currentPageIndex := view.currentPageIndex + 1 } pages.id
        pages.items rfl (view.currentPageIndex + 1)
      have told := @unsigned_inside (view.currentPageIndex + 1) (by omega) (by omega)
      simp only at next ⊢
      exact (given_turnable next fits).mpr (.inr ⟨by omega, by omega⟩)
    · exact turnable

theorem prePage_turnable {view : BeeWhiteBoardView Color Coord} (turnable : view.Turnable) :
    (view.prePage fitting).Turnable := by
  cases there : view.pages with
  | none => simpa only [prePage, there] using turnable
  | some pages =>
    have placed := turnable.placed
    have fits := turnable.fits pages there
    simp only [Placed, there] at placed
    simp only [prePage, there]
    split
    · rename_i inside
      have next := loadFromPage_given fitting
        { view with pages := some pages, currentPageIndex := view.currentPageIndex - 1 } pages.id
        pages.items rfl (view.currentPageIndex - 1)
      simp only at next ⊢
      exact (given_turnable next fits).mpr (.inr ⟨by omega, by omega⟩)
    · exact turnable

/-- Whichever way the pages are turned, the current page stays one of them. -/
theorem turn_turnable (turns : List Bool) {view : BeeWhiteBoardView Color Coord}
    (turnable : view.Turnable) : (view.turn fitting turns).Turnable := by
  induction turns generalizing view with
  | nil => exact turnable
  | cons next turns ih =>
    cases next with
    | true => exact ih (nextPage_turnable turnable)
    | false => exact ih (prePage_turnable turnable)

end BeeWhiteBoardView

/-! ### Restoring -/

/-- A complete message restores the board when it fits. -/
theorem complete_restored_iff («from» : String) (view : BeeWhiteBoardView Color Coord)
    (info : BoardInfo Color Coord) (complete : info.Complete) :
    Restored fitting (some info) view (handleBoardInfo fitting «from» (some info) view) ↔
      info.Fits := by
  obtain ⟨image, startIdx, endIdx, canvasSize, refPos, told, read⟩ :=
    readBoardInfo_complete fitting «from» view.frame info complete
  have built := built_iff info «from» view.frame canvasSize refPos fitting told
  have few := unsigned_lt (endIdx - startIdx + 1)
  have length : (whiteBoardPages fitting «from» view.frame image (endIdx - startIdx + 1) canvasSize
      refPos info.reducerinfo).length = unsigned (endIdx - startIdx + 1) := by simp [whiteBoardPages]
  generalize whiteBoardPages fitting «from» view.frame image (endIdx - startIdx + 1) canvasSize
    refPos info.reducerinfo = items at read built length
  have given := BeeWhiteBoardView.setBoardInfo_given fitting
    { view with made := view.made + 1 } view.made items
    ((info.page.map Scalar.integerValue).getD 0) canvasSize refPos
  have made := BeeWhiteBoardView.setBoardInfo_made fitting
    { view with made := view.made + 1 } (some ⟨view.made, items⟩)
    ((info.page.map Scalar.integerValue).getD 0) canvasSize refPos
  simp only [handleBoardInfo, read]
  generalize BeeWhiteBoardView.setBoardInfo fitting { view with made := view.made + 1 }
    (some ⟨view.made, items⟩) ((info.page.map Scalar.integerValue).getD 0) canvasSize refPos =
    after at given made
  have turnable := BeeWhiteBoardView.given_turnable given (by omega)
  constructor
  · rintro (same | ⟨data, pages, same, there, restored, placed⟩)
    · rw [same] at made
      exact absurd made (by simp)
    · cases same
      have whole : Built fitting info items := by
        rcases given.pages with pages' | ⟨i, pages'⟩
        · cases there.symm.trans pages'
          exact restored
        · cases there.symm.trans pages'
          exact (built_modify info items i).mp restored
      obtain ⟨counted, passed⟩ := built.mp whole
      have inside := (turnable.mp ⟨placed [], fun pages' found => ?_⟩)
      · have count := whole.count
        exact ⟨counted, passed, inside.imp_right fun h => ⟨h.1, by omega⟩⟩
      · rcases given.pages with others | ⟨i, others⟩
        · cases found.symm.trans others
          simpa using (by omega : items.length < 18446744073709551616)
        · cases found.symm.trans others
          simpa using (by omega : items.length < 18446744073709551616)
  · rintro ⟨counted, whole, placed⟩
    have restored := built.mpr ⟨counted, whole⟩
    have count := restored.count
    have current := turnable.mpr (placed.imp_right fun h => ⟨h.1, by omega⟩)
    refine .inr ⟨info, ?_⟩
    rcases given.pages with pages | ⟨i, pages⟩
    · exact ⟨_, rfl, pages, restored,
        fun turns => (BeeWhiteBoardView.turn_turnable turns current).placed⟩
    · exact ⟨_, rfl, pages, (built_modify info items i).mpr restored,
        fun turns => (BeeWhiteBoardView.turn_turnable turns current).placed⟩

/-- A message that is not complete leaves the board as it was when the reading returns, or when
there is nothing to lose. -/
theorem incomplete_restored_iff («from» : String) (view : BeeWhiteBoardView Color Coord)
    (data : Option (BoardInfo Color Coord))
    (incomplete : ¬ ∃ info, data = some info ∧ info.Complete) :
    Restored fitting data view (handleBoardInfo fitting «from» data view) ↔
      (∃ info, data = some info ∧ info.Unstarted) ∨ view.Blank := by
  rcases readBoardInfo_incomplete fitting «from» view.frame data incomplete with
    ⟨stop, unstarted⟩ | ⟨stop, started⟩
  · simp only [handleBoardInfo, stop]
    exact ⟨fun _ => .inl unstarted, fun _ => .inl rfl⟩
  · simp only [handleBoardInfo, stop, BeeWhiteBoardView.setBoardInfo, started, false_or,
      BeeWhiteBoardView.adaptSizeToCanvas, fitting.zero_isZero, true_or, if_true,
      BeeWhiteBoardView.clearBackground]
    constructor
    · rintro (same | ⟨info, pages, -, there, -⟩)
      · have pages := congrArg BeeWhiteBoardView.pages same
        have index := congrArg BeeWhiteBoardView.currentPageIndex same
        have background := congrArg BeeWhiteBoardView.background same
        exact ⟨pages.symm, index.symm, background.symm⟩
      · cases there
    · rintro ⟨pages, index, background⟩
      obtain ⟨_, _, _, _, _, _, _⟩ := view
      cases pages
      cases index
      cases background
      exact .inl rfl

/-- Exactly when a board info restores the board: a complete one that fits, one whose reading
returns, or any other one where there is nothing to lose. -/
theorem board_restored_iff (fitting : Fitting Coord) («from» : String)
    (data : Option (BoardInfo Color Coord)) (view : BeeWhiteBoardView Color Coord) :
    Restored fitting data view (handleBoardInfo fitting «from» data view) ↔
      (∃ info, data = some info ∧ info.Complete ∧ info.Fits) ∨
        (¬ ∃ info, data = some info ∧ info.Complete) ∧
          ((∃ info, data = some info ∧ info.Unstarted) ∨ view.Blank) := by
  by_cases complete : ∃ info, data = some info ∧ info.Complete
  · obtain ⟨info, rfl, complete⟩ := complete
    rw [complete_restored_iff «from» view info complete]
    simp [complete]
  · rw [incomplete_restored_iff «from» view data complete]
    constructor
    · exact fun kept => .inr ⟨complete, kept⟩
    · rintro (⟨info, same, given, -⟩ | ⟨-, kept⟩)
      · exact absurd ⟨info, same, given⟩ complete
      · exact kept

/-! ### A board whose images are counted from one -/

def plain : Fitting Nat where
  zero := 0
  isZero n := n == 0
  zero_isZero := rfl
  point _ _ _ p := p
  size target _ := target

/-- Two pages with the images one and two, nothing drawn on them. -/
def fromOne : BoardInfo Nat Nat where
  imgjson := some ⟨some "u/".toList, some "doc".toList, some "png".toList,
    some (.number 1), some (.number 2)⟩
  resinfo := some ⟨some 4, some 3, none⟩
  page := some (.number 0)

theorem fromOne_complete : fromOne.Complete := by
  refine ⟨fun image given _ => ?_, _, rfl, rfl, rfl⟩
  cases given
  exact ⟨rfl, rfl, rfl, rfl⟩

/-- Its pages get the images zero and one. -/
theorem fromOne_not_restored :
    ¬ ∀ (data : Option (BoardInfo Nat Nat)) (view : BeeWhiteBoardView Nat Nat),
      Restored plain data view (handleBoardInfo plain "a" data view) := by
  intro all
  have fits := (complete_restored_iff "a" ⟨none, -1, none, ⟨0, 0⟩, ⟨0, 0⟩, ⟨4, 3⟩, 0⟩ fromOne
    fromOne_complete).mp (all (some fromOne) _)
  have counted := fits.counted
  have one : indexOf ImageInfo.startidx fromOne = 1 := by decide
  have two : indexOf ImageInfo.endidx fromOne = 2 := by decide
  have based : (fromOne.imgjson.bind ImageInfo.baseurl).isSome := rfl
  simp only [BoardInfo.Counted, based, if_true, one, two] at counted
  omega

end BeeSdk.BoardRestore
