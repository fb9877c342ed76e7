import BeeSdk.JsonTokens

/-! What a reader makes of a text: each token takes a piece of the text away, reads the same in
front of any other rest, and never costs more than the piece it was read from. -/
namespace BeeSdk.JsonText

/-! ### Ink -/

@[simp] theorem ink_nil : ink [] = 0 := rfl

@[simp] theorem ink_append (front back : Text) : ink (front ++ back) = ink front + ink back := by
  simp [ink]

theorem ink_cons (symbol : Char) (rest : Text) :
    ink (symbol :: rest) = ink rest + if symbol = ' ' then 0 else 1 := by
  by_cases space : symbol = ' '
  · simp [ink, space]
  · simp [ink, space]

theorem ink_drop_blank (text : Text) : ink (text.dropWhile blank) ≤ ink text :=
  (List.dropWhile_sublist _).countP_le

variable {dialect : Dialect}

theorem symbol_cost_le_two (dialect : Dialect) (symbol : Char) : symbolCost dialect symbol ≤ 2 := by
  unfold symbolCost
  split
  · split <;> omega
  · exact Nat.le_refl 2

theorem text_cost_cons (symbol : Char) (rest : Text) :
    textCost dialect (symbol :: rest) = symbolCost dialect symbol + textCost dialect rest := by
  simp [textCost]

/-! ### The pieces of a text -/

theorem hex_digit_solid (read : hexDigit symbol = some digit) : symbol ≠ ' ' := by
  rintro rfl
  have unread : hexDigit ' ' = none := by decide
  simp [unread] at read

theorem code_unit_piece (read : codeUnit text = some (unit, rest)) :
    ∃ used, text = used ++ rest ∧ 4 ≤ ink used ∧
      ∀ more, codeUnit (used ++ more) = some (unit, more) := by
  match text with
  | first :: second :: third :: fourth :: tail =>
    simp only [codeUnit, Option.bind_eq_bind, Option.bind_eq_some_iff, Option.some.injEq,
      Prod.mk.injEq] at read
    obtain ⟨one, oneRead, two, twoRead, three, threeRead, four, fourRead, rfl, rfl⟩ := read
    refine ⟨[first, second, third, fourth], rfl, ?_, fun more => ?_⟩
    · simp [ink_cons, hex_digit_solid oneRead, hex_digit_solid twoRead,
        hex_digit_solid threeRead, hex_digit_solid fourRead]
    · simp [codeUnit, oneRead, twoRead, threeRead, fourRead]

theorem trail_unit_piece (read : trailUnit text = some (unit, rest)) :
    ∃ used, text = used ++ rest ∧ ∀ more, trailUnit (used ++ more) = some (unit, more) := by
  unfold trailUnit at read
  split at read
  case h_1 tail =>
    simp only [Option.bind_eq_bind, Option.bind_eq_some_iff] at read
    obtain ⟨⟨whole, behind⟩, unitRead, kept⟩ := read
    obtain ⟨used, rfl, -, again⟩ := code_unit_piece unitRead
    by_cases within : 0xDC00 ≤ whole ∧ whole < 0xE000
    · simp only [within, and_self, ↓reduceIte, Option.some.injEq, Prod.mk.injEq] at kept
      obtain ⟨rfl, rfl⟩ := kept
      refine ⟨'\\' :: 'u' :: used, rfl, fun more => ?_⟩
      simp [trailUnit, again, within]
    · simp [within] at kept
  case h_2 => cases read

theorem shorthand_solid (known : shorthand symbol = some meant) : symbol ≠ ' ' := by
  rintro rfl
  have unknown : shorthand ' ' = none := by decide
  simp [unknown] at known

theorem escaped_piece (read : escaped text = some (meant, rest)) :
    ∃ used, text = used ++ rest ∧ 1 ≤ ink used ∧
      ∀ more, escaped (used ++ more) = some (meant, more) := by
  cases text with
  | nil => cases read
  | cons symbol tail =>
    by_cases unicode : symbol = 'u'
    · subst unicode
      simp only [escaped, ↓reduceIte, Option.bind_eq_bind, Option.bind_eq_some_iff] at read
      obtain ⟨⟨unit, behind⟩, unitRead, read⟩ := read
      obtain ⟨used, rfl, inked, again⟩ := code_unit_piece unitRead
      by_cases lead : 0xD800 ≤ unit ∧ unit < 0xDC00
      · simp only [lead, and_self, ↓reduceIte, Option.bind_eq_some_iff, Option.some.injEq,
          Prod.mk.injEq] at read
        obtain ⟨⟨trail, last⟩, trailRead, rfl, rfl⟩ := read
        obtain ⟨second, rfl, later⟩ := trail_unit_piece trailRead
        refine ⟨'u' :: (used ++ second), by simp, by simp [ink_cons], fun more => ?_⟩
        simp [escaped, again, later, lead]
      · by_cases lone : 0xDC00 ≤ unit ∧ unit < 0xE000
        · simp [lead, lone] at read
        · simp only [lead, lone, ↓reduceIte, Option.some.injEq, Prod.mk.injEq] at read
          obtain ⟨rfl, rfl⟩ := read
          refine ⟨'u' :: used, rfl, by simp [ink_cons], fun more => ?_⟩
          simp [escaped, again, lead, lone]
    · simp only [escaped, unicode, ↓reduceIte, Option.map_eq_some_iff, Prod.mk.injEq] at read
      obtain ⟨short, known, rfl, rfl⟩ := read
      refine ⟨[symbol], rfl, by simp [ink_cons, shorthand_solid known], fun more => ?_⟩
      simp [escaped, unicode, known]

theorem read_string_piece (fuel : Nat) :
    ∀ {text rest meant}, readString dialect fuel text = some (meant, rest) →
      ∃ used, text = used ++ rest ∧ textCost dialect meant + 1 ≤ ink used ∧
        ∀ more more', used.length ≤ more' →
          readString dialect more' (used ++ more) = some (meant, more) := by
  induction fuel with
  | zero =>
    intro text rest meant read
    cases read
  | succ fuel ih =>
    intro text rest meant read
    cases text with
    | nil => cases read
    | cons symbol tail =>
      by_cases quote : symbol = '"'
      · simp only [readString, quote, ↓reduceIte, Option.some.injEq, Prod.mk.injEq] at read
        obtain ⟨rfl, rfl⟩ := read
        refine ⟨['"'], by rw [quote]; rfl, by simp [textCost, ink_cons], fun more more' enough => ?_⟩
        obtain ⟨more', rfl⟩ := Nat.exists_eq_add_of_le' enough
        simp [readString]
      by_cases slash : symbol = '\\'
      · simp only [readString, slash, Char.reduceEq, ↓reduceIte, Option.bind_eq_bind,
          Option.bind_eq_some_iff, Option.some.injEq, Prod.mk.injEq] at read
        obtain ⟨⟨first, behind⟩, escape, ⟨others, last⟩, following, rfl, rfl⟩ := read
        obtain ⟨used, rfl, inked, again⟩ := escaped_piece escape
        obtain ⟨second, rfl, cheap, later⟩ := ih following
        refine ⟨'\\' :: (used ++ second), by simp [slash], ?_, fun more more' enough => ?_⟩
        · have most := symbol_cost_le_two dialect first
          simp only [text_cost_cons, ink_cons, ink_append, Char.reduceEq, ↓reduceIte]
          omega
        · simp only [List.length_cons, List.length_append] at enough
          obtain ⟨more', rfl⟩ := Nat.exists_eq_add_one_of_ne_zero (by omega : more' ≠ 0)
          simp [readString, again, later more more' (by omega)]
      by_cases raw : dialect.raw symbol = true
      · simp only [readString, quote, slash, raw, ↓reduceIte, Option.bind_eq_bind,
          Option.bind_eq_some_iff, Option.some.injEq, Prod.mk.injEq] at read
        obtain ⟨⟨others, last⟩, following, rfl, rfl⟩ := read
        obtain ⟨second, rfl, cheap, later⟩ := ih following
        refine ⟨symbol :: second, rfl, ?_, fun more more' enough => ?_⟩
        · simp only [text_cost_cons, ink_cons, symbolCost, plain, quote, slash, raw, ne_eq,
            not_false_eq_true, decide_true, Bool.and_self, ↓reduceIte]
          omega
        · obtain ⟨more', rfl⟩ := Nat.exists_eq_add_of_le' enough
          simp [readString, quote, slash, raw, later more (more' + second.length) (by omega)]
      · simp [readString, quote, slash, raw] at read

/-- The text goes on with a character that a literal in front of it would take in. -/
def BareHead (text : Text) : Prop := ∃ symbol rest, text = symbol :: rest ∧ bare symbol = true

theorem mark_cost (dialect : Dialect) (marked : mark symbol = some token) :
    token.cost dialect = 1 ∧ token.isLiteral = false ∧ symbol ≠ ' ' := by
  have unmarked : mark ' ' = none := by decide
  unfold mark at marked
  grind [Token.cost, Token.isLiteral]

theorem take_bare_append (piece : Text) (all : ∀ symbol ∈ piece, bare symbol = true)
    (apart : ¬BareHead more) :
    (piece ++ more).takeWhile bare = piece ∧ (piece ++ more).dropWhile bare = more := by
  rw [List.takeWhile_append_of_pos all, List.dropWhile_append_of_pos all]
  cases more with
  | nil => simp
  | cons symbol rest =>
    have refused : bare symbol = false :=
      Bool.eq_false_iff.mpr fun known => apart ⟨symbol, rest, rfl, known⟩
    simp [refused]

theorem bare_solid (known : bare symbol = true) : symbol ≠ ' ' ∧ symbol ≠ '"' ∧ mark symbol = none := by
  have space : bare ' ' = false := by decide
  have quote : bare '"' = false := by decide
  refine ⟨by rintro rfl; simp [space] at known, by rintro rfl; simp [quote] at known, ?_⟩
  have marks : bare '{' = false ∧ bare '}' = false ∧ bare '[' = false ∧ bare ']' = false ∧
      bare ',' = false ∧ bare ':' = false := by decide
  unfold mark
  grind

theorem ink_of_bare (all : ∀ symbol ∈ piece, bare symbol = true) : ink piece = piece.length := by
  unfold ink
  rw [List.countP_eq_length]
  exact fun symbol mem => by simpa using (bare_solid (all symbol mem)).1

theorem head_dropped_not {text : Text} {refused : Char → Bool}
    (dropped : text.dropWhile refused = symbol :: rest) : ¬refused symbol = true := by
  have kept := List.head_dropWhile_not refused (show text.dropWhile refused ≠ [] by simp [dropped])
  simpa [dropped] using kept

theorem next_token_piece (read : nextToken dialect text = some (token, rest)) :
    ∃ used, text = used ++ rest ∧ used ≠ [] ∧ token.cost dialect ≤ ink used ∧
      (token.isLiteral = true → ¬BareHead rest) ∧ ∀ more,
        (token.isLiteral = true → ¬BareHead more) → nextToken dialect (used ++ more) = some (token, more) := by
  cases text with
  | nil => cases read
  | cons symbol tail =>
    cases marked : mark symbol with
    | some known =>
      simp only [nextToken, marked, Option.some.injEq, Prod.mk.injEq] at read
      obtain ⟨rfl, rfl⟩ := read
      obtain ⟨one, other, solid⟩ := mark_cost dialect marked
      refine ⟨[symbol], rfl, by simp, by simp [one, ink_cons, solid], by simp [other],
        fun more _ => by simp [nextToken, marked]⟩
    | none =>
      by_cases quote : symbol = '"'
      · subst quote
        simp only [nextToken, marked, ↓reduceIte] at read
        obtain ⟨⟨meant, behind⟩, string, same⟩ := Option.map_eq_some_iff.mp read
        cases same
        obtain ⟨used, rfl, cheap, again⟩ := read_string_piece _ string
        refine ⟨'"' :: used, rfl, by simp, ?_, by simp [Token.isLiteral], fun more _ => ?_⟩
        · simp only [Token.cost, ink_cons, Char.reduceEq, ↓reduceIte]
          omega
        · simp [nextToken, marked, again more (used.length + more.length + 1) (by omega)]
      · simp only [nextToken, marked, quote, ↓reduceIte, readLiteral] at read
        split at read
        case isTrue known =>
          cases read
          have all : ∀ letter ∈ (symbol :: tail).takeWhile bare, bare letter = true :=
            List.all_eq_true.mp List.all_takeWhile
          refine ⟨(symbol :: tail).takeWhile bare, List.takeWhile_append_dropWhile.symm, known.1, ?_, ?_, ?_⟩
          · simp only [Token.cost]
            rw [ink_of_bare all]
          · rintro - ⟨letter, others, dropped, known⟩
            exact head_dropped_not dropped known
          · intro more apart
            obtain ⟨taken, dropped⟩ := take_bare_append _ all (apart rfl)
            obtain ⟨first, others, headed⟩ := List.exists_cons_of_ne_nil known.1
            rw [headed] at all known taken dropped ⊢
            have solid := bare_solid (all first List.mem_cons_self)
            simp only [List.cons_append] at taken dropped ⊢
            simp only [nextToken, solid.2.2, solid.2.1, ↓reduceIte, readLiteral, taken, dropped,
              known, ne_eq, not_false_eq_true, and_self]
        case isFalse => cases read

/-! ### Whole texts -/

/-- A text is these tokens to a reader, however long it may take. -/
def Reads (dialect : Dialect) (text : Text) (found : List Token) : Prop :=
  ∃ fuel, readTokens dialect fuel text = some found

theorem read_tokens_cons (fuel : Nat) (text : Text) :
    readTokens dialect (fuel + 1) text = some (token :: found) ↔
      ∃ rest, nextToken dialect (text.dropWhile blank) = some (token, rest) ∧
        readTokens dialect fuel rest = some found := by
  cases dropped : text.dropWhile blank with
  | nil => simp [readTokens, dropped, nextToken]
  | cons symbol tail => simp [readTokens, dropped, Option.bind_eq_some_iff]

theorem read_tokens_nil (fuel : Nat) (text : Text) :
    readTokens dialect (fuel + 1) text = some [] ↔ text.dropWhile blank = [] := by
  cases dropped : text.dropWhile blank with
  | nil => simp [readTokens, dropped]
  | cons symbol tail => simp [readTokens, dropped, Option.bind_eq_some_iff]

theorem read_tokens_enough (fuel : Nat) :
    ∀ {text found}, readTokens dialect fuel text = some found →
      ∀ more, text.length < more → readTokens dialect more text = some found := by
  induction fuel with
  | zero =>
    intro text found read
    cases read
  | succ fuel ih =>
    intro text found read more enough
    obtain ⟨more, rfl⟩ := Nat.exists_eq_add_one_of_ne_zero (by omega : more ≠ 0)
    cases found with
    | nil => exact (read_tokens_nil more text).mpr ((read_tokens_nil fuel text).mp read)
    | cons token others =>
      obtain ⟨rest, first, following⟩ := (read_tokens_cons fuel text).mp read
      obtain ⟨used, pieces, solid, -, -⟩ := next_token_piece first
      refine (read_tokens_cons more text).mpr ⟨rest, first, ih following more ?_⟩
      have shorter : (text.dropWhile blank).length ≤ text.length :=
        (List.dropWhile_sublist _).length_le
      have some := List.length_pos_iff.mpr solid
      rw [pieces, List.length_append] at shorter
      omega

theorem tokens_iff : tokens dialect text = some found ↔ Reads dialect text found := by
  constructor
  · intro read
    exact ⟨_, read⟩
  · rintro ⟨fuel, read⟩
    exact read_tokens_enough fuel read _ (Nat.lt_succ_self _)

/-- A text holds the ink of all its tokens. -/
theorem reads_cost (read : Reads dialect text found) : cost dialect found ≤ ink text := by
  obtain ⟨fuel, read⟩ := read
  induction fuel generalizing text found with
  | zero => cases read
  | succ fuel ih =>
    cases found with
    | nil => simp [cost]
    | cons token others =>
      obtain ⟨rest, first, following⟩ := (read_tokens_cons fuel text).mp read
      obtain ⟨used, pieces, -, cheap, -⟩ := next_token_piece first
      have less := ink_drop_blank text
      have later := ih following
      rw [pieces, ink_append] at less
      simp only [cost, List.map_cons, List.sum_cons] at later ⊢
      omega

theorem reads_blank (known : blank symbol = true) (read : Reads dialect rest found) :
    Reads dialect (symbol :: rest) found := by
  obtain ⟨fuel, read⟩ := read
  cases fuel with
  | zero => cases read
  | succ fuel => exact ⟨fuel + 1, by simpa [readTokens, known] using read⟩

theorem reads_blanks (all : ∀ symbol ∈ blanks, blank symbol = true) (read : Reads dialect rest found) :
    Reads dialect (blanks ++ rest) found := by
  induction blanks with
  | nil => exact read
  | cons symbol blanks ih =>
    exact reads_blank (all symbol List.mem_cons_self)
      (ih fun other mem => all other (List.mem_cons_of_mem _ mem))

theorem reads_cons (first : nextToken dialect text = some (token, rest))
    (solid : text.dropWhile blank = text) (read : Reads dialect rest found) :
    Reads dialect text (token :: found) := by
  obtain ⟨fuel, read⟩ := read
  exact ⟨fuel + 1, (read_tokens_cons fuel text).mpr ⟨rest, by rw [solid]; exact first, read⟩⟩

/-- Two texts are read one behind the other where no literal runs across. -/
theorem reads_append (read : Reads dialect text found) (behind : Reads dialect more others)
    (apart : ¬BareHead more) : Reads dialect (text ++ more) (found ++ others) := by
  obtain ⟨fuel, read⟩ := read
  induction fuel generalizing text found with
  | zero => cases read
  | succ fuel ih =>
    have split : text = text.takeWhile blank ++ text.dropWhile blank :=
      (List.takeWhile_append_dropWhile).symm
    have blanks : ∀ symbol ∈ text.takeWhile blank, blank symbol = true :=
      List.all_eq_true.mp List.all_takeWhile
    rw [split, List.append_assoc]
    refine reads_blanks blanks ?_
    cases found with
    | nil =>
      rw [(read_tokens_nil fuel text).mp read]
      exact behind
    | cons token found =>
      obtain ⟨rest, first, following⟩ := (read_tokens_cons fuel text).mp read
      obtain ⟨used, pieces, solid, -, ends, again⟩ := next_token_piece first
      have solidHead : (text.dropWhile blank ++ more).dropWhile blank = text.dropWhile blank ++ more := by
        obtain ⟨symbol, tail, headed⟩ := List.exists_cons_of_ne_nil
          (show text.dropWhile blank ≠ [] by simp [pieces, solid])
        have refused : blank symbol = false :=
          Bool.eq_false_iff.mpr (head_dropped_not headed)
        simp [headed, refused]
      refine reads_cons ?_ solidHead (ih following)
      rw [pieces, List.append_assoc]
      refine again _ fun literal => ?_
      cases rest with
      | nil => exact apart
      | cons symbol tail =>
        rintro ⟨letter, others, same, known⟩
        cases same
        exact ends literal ⟨symbol, tail, rfl, known⟩

/-! ### What is written is read -/

variable {token : Token} {found others : List Token} {text rest : Text} {gaps : List Nat}

theorem read_string_written (all : text.all (plain dialect) = true) (rest : Text) (fuel : Nat)
    (enough : text.length < fuel) :
    readString dialect fuel (text ++ '"' :: rest) = some (text, rest) := by
  induction text generalizing fuel with
  | nil =>
    obtain ⟨fuel, rfl⟩ := Nat.exists_eq_add_one_of_ne_zero (by omega : fuel ≠ 0)
    simp [readString]
  | cons symbol text ih =>
    obtain ⟨fuel, rfl⟩ := Nat.exists_eq_add_one_of_ne_zero (by omega : fuel ≠ 0)
    simp only [List.all_cons, plain, Bool.and_eq_true, decide_eq_true_eq] at all
    obtain ⟨⟨⟨quote, slash⟩, raw⟩, others⟩ := all
    have following := ih others fuel (by simpa using enough)
    simp [readString, quote, slash, raw, following]

theorem next_token_written (known : token.plain dialect = true) (sound : token.sound dialect = true)
    (ends : token.isLiteral = true → ¬BareHead rest) :
    nextToken dialect (token.write rest) = some (token, rest) := by
  cases token with
  | string text =>
    have read := read_string_written known rest ((text ++ '"' :: rest).length + 1) (by simp only [List.length_append, List.length_cons]; omega)
    have quoted : mark '"' = none := by decide
    simp only [Token.write, nextToken, quoted, ↓reduceIte, read, Option.map_some]
  | literal text =>
    simp only [Token.sound, Bool.and_eq_true, decide_eq_true_eq] at sound
    obtain ⟨⟨solid, all⟩, known⟩ := sound
    obtain ⟨first, others, rfl⟩ := List.exists_cons_of_ne_nil solid
    have bares := List.all_eq_true.mp all
    obtain ⟨taken, dropped⟩ := take_bare_append _ bares (ends rfl)
    obtain ⟨-, quote, unmarked⟩ := bare_solid (bares first List.mem_cons_self)
    simp only [List.cons_append] at taken dropped
    simp only [Token.write, List.cons_append, nextToken, unmarked, quote, ↓reduceIte, readLiteral,
      taken, dropped, known, ne_eq, reduceCtorEq, not_false_eq_true, and_self]
  | openObject => rfl
  | closeObject => rfl
  | openArray => rfl
  | closeArray => rfl
  | comma => rfl
  | colon => rfl

theorem bare_not_blank (known : bare symbol = true) : blank symbol = false := by
  have blanks : bare ' ' = false ∧ bare '\t' = false ∧ bare '\n' = false ∧ bare '\r' = false := by
    decide
  unfold blank
  grind

theorem written_solid (sound : token.sound dialect = true) :
    (token.write rest).dropWhile blank = token.write rest := by
  cases token with
  | literal text =>
    simp only [Token.sound, Bool.and_eq_true, decide_eq_true_eq] at sound
    obtain ⟨⟨solid, all⟩, -⟩ := sound
    obtain ⟨first, others, rfl⟩ := List.exists_cons_of_ne_nil solid
    have refused := bare_not_blank (List.all_eq_true.mp all first List.mem_cons_self)
    simp [Token.write, refused]
  | string text => rfl
  | openObject => rfl
  | closeObject => rfl
  | openArray => rfl
  | closeArray => rfl
  | comma => rfl
  | colon => rfl

theorem bare_head_token (bared : BareHead (token.write rest)) : token.isLiteral = true := by
  obtain ⟨symbol, tail, headed, known⟩ := bared
  cases token with
  | literal text => rfl
  | string text => cases headed; exact absurd known (by decide)
  | openObject => cases headed; exact absurd known (by decide)
  | closeObject => cases headed; exact absurd known (by decide)
  | openArray => cases headed; exact absurd known (by decide)
  | closeArray => cases headed; exact absurd known (by decide)
  | comma => cases headed; exact absurd known (by decide)
  | colon => cases headed; exact absurd known (by decide)

theorem bare_head_written (bared : BareHead (write gaps (token :: found) rest)) :
    token.isLiteral = true := by
  match gaps with
  | [] => exact bare_head_token bared
  | 0 :: gaps => exact bare_head_token bared
  | .succ gap :: gaps =>
    obtain ⟨symbol, tail, headed, known⟩ := bared
    cases headed
    exact absurd known (by decide)

/-- Every token may be written with its characters as they are. -/
def Plain (dialect : Dialect) (found : List Token) : Prop :=
  ∀ token ∈ found, token.plain dialect = true

/-- The dialect knows every literal. -/
def Sound (dialect : Dialect) (found : List Token) : Prop :=
  ∀ token ∈ found, token.sound dialect = true

theorem reads_written (known : Plain dialect found) (sound : Sound dialect found)
    (apart : Apart found) (ends : ∀ token ∈ found.getLast?, token.isLiteral = true → ¬BareHead rest)
    (read : Reads dialect rest others) : Reads dialect (write gaps found rest) (found ++ others) := by
  induction found generalizing gaps with
  | nil =>
    cases gaps <;> exact read
  | cons token found ih =>
    have behind : ∀ gaps, Reads dialect (write gaps found rest) (found ++ others) := fun gaps => by
      refine ih (fun other mem => known other (List.mem_cons_of_mem _ mem))
        (fun other mem => sound other (List.mem_cons_of_mem _ mem)) apart.tail ?_
      cases found with
      | nil => simp
      | cons second found => simpa [List.getLast?_cons_cons] using ends
    have separate : ∀ gaps, token.isLiteral = true → ¬BareHead (write gaps found rest) := by
      intro gaps literal
      cases found with
      | nil => cases gaps <;> exact ends token rfl literal
      | cons second found =>
        intro bared
        have other := (List.isChain_cons_cons.mp apart).1 literal
        rw [bare_head_written bared] at other
        cases other
    have first : ∀ gaps, Reads dialect (token.write (write gaps found rest)) (token :: (found ++ others)) :=
      fun gaps => reads_cons
        (next_token_written (known token List.mem_cons_self) (sound token List.mem_cons_self)
          (separate gaps))
        (written_solid (sound token List.mem_cons_self)) (behind gaps)
    cases gaps with
    | nil => exact first []
    | cons gap gaps =>
      refine reads_blanks (fun symbol mem => ?_) (first gaps)
      rw [(List.mem_replicate.mp mem).2]
      rfl

/-! ### Plain is what costs no more than it takes -/

theorem ink_le_cost (dialect : Dialect) (text : Text) : ink text ≤ textCost dialect text := by
  induction text with
  | nil => exact Nat.le_refl 0
  | cons symbol text ih =>
    rw [ink_cons, text_cost_cons]
    have least : (if symbol = ' ' then 0 else 1) ≤ symbolCost dialect symbol := by
      unfold symbolCost
      split <;> split <;> simp_all
    omega

theorem plain_of_cost (cheap : textCost dialect text ≤ ink text) : text.all (plain dialect) = true := by
  induction text with
  | nil => rfl
  | cons symbol text ih =>
    rw [ink_cons, text_cost_cons] at cheap
    have rest := ink_le_cost dialect text
    by_cases known : plain dialect symbol = true
    · rw [List.all_cons, known, Bool.true_and]
      refine ih ?_
      simp only [symbolCost, known, ↓reduceIte] at cheap
      omega
    · have dear : symbolCost dialect symbol = 2 := by simp [symbolCost, known]
      split at cheap <;> omega

theorem ink_token (sound : token.sound dialect = true) (rest : Text) :
    ink (token.write rest) ≤ token.cost dialect + ink rest := by
  cases token with
  | string text =>
    have least := ink_le_cost dialect text
    simp only [Token.write, ink_cons, ink_append, Token.cost, Char.reduceEq, ↓reduceIte]
    omega
  | literal text =>
    simp only [Token.write, ink_append, Token.cost, Nat.add_le_add_iff_right]
    exact List.countP_le_length
  | openObject => simp [Token.write, Token.cost, ink_cons, Nat.add_comm]
  | closeObject => simp [Token.write, Token.cost, ink_cons, Nat.add_comm]
  | openArray => simp [Token.write, Token.cost, ink_cons, Nat.add_comm]
  | closeArray => simp [Token.write, Token.cost, ink_cons, Nat.add_comm]
  | comma => simp [Token.write, Token.cost, ink_cons, Nat.add_comm]
  | colon => simp [Token.write, Token.cost, ink_cons, Nat.add_comm]

theorem plain_token (rest : Text) (cheap : token.cost dialect + ink rest ≤ ink (token.write rest)) :
    token.plain dialect = true := by
  cases token with
  | string text =>
    simp only [Token.write, ink_cons, ink_append, Token.cost, Char.reduceEq, ↓reduceIte] at cheap
    exact plain_of_cost (by omega)
  | literal text => rfl
  | openObject => rfl
  | closeObject => rfl
  | openArray => rfl
  | closeArray => rfl
  | comma => rfl
  | colon => rfl

theorem ink_gap (gap : Nat) (rest : Text) : ink (List.replicate gap ' ' ++ rest) = ink rest := by
  induction gap with
  | zero => rfl
  | succ gap ih => rw [List.replicate_succ, List.cons_append, ink_cons, ih]; simp

theorem ink_write_cons (gaps : List Nat) (token : Token) (found : List Token) (rest : Text) :
    ∃ gaps', ink (write gaps (token :: found) rest) = ink (token.write (write gaps' found rest)) := by
  cases gaps with
  | nil => exact ⟨[], rfl⟩
  | cons gap gaps => exact ⟨gaps, ink_gap gap _⟩

theorem ink_written (sound : Sound dialect found) (gaps : List Nat) (rest : Text) :
    ink (write gaps found rest) ≤ cost dialect found + ink rest := by
  induction found generalizing gaps with
  | nil => cases gaps <;> simp [write, cost]
  | cons token found ih =>
    obtain ⟨gaps', same⟩ := ink_write_cons gaps token found rest
    have first := ink_token (sound token List.mem_cons_self) (write gaps' found rest)
    have behind := ih (fun other mem => sound other (List.mem_cons_of_mem _ mem)) gaps'
    simp only [cost, List.map_cons, List.sum_cons] at behind ⊢
    omega

theorem plain_written (sound : Sound dialect found) (gaps : List Nat) (rest : Text)
    (cheap : cost dialect found + ink rest ≤ ink (write gaps found rest)) : Plain dialect found := by
  induction found generalizing gaps with
  | nil => simp [Plain]
  | cons token found ih =>
    obtain ⟨gaps', same⟩ := ink_write_cons gaps token found rest
    have later : Sound dialect found := fun other mem => sound other (List.mem_cons_of_mem _ mem)
    have first := ink_token (sound token List.mem_cons_self) (write gaps' found rest)
    have behind := ink_written later gaps' rest
    simp only [cost, List.map_cons, List.sum_cons] at cheap behind
    have known : token.plain dialect = true :=
      plain_token (write gaps' found rest) (by omega)
    have others : Plain dialect found := ih later gaps' (by simp only [cost]; omega)
    exact fun other mem => (List.mem_cons.mp mem).elim (fun same => same ▸ known) (others other)

end BeeSdk.JsonText
