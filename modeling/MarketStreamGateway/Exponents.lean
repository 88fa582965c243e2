import MarketStreamGateway.Feeds.Session
import MarketStreamGateway.Lib.Lexeme
import Mathlib.Algebra.Order.Field.Power
import Mathlib.Tactic.NormNum
import Mathlib.Tactic.Positivity
import Mathlib.Tactic.Ring

/-!
# Market Stream Gateway — numbers in ticker frames, with an exponent or without

Two venues send decimals as JSON numbers in four of their feeds. The handlers of
these feeds publish a number as it is written in the frame, without working an
exponent out first as the candle and history paths do. The decimal crate reads
either notation of a number that fits a decimal as it is written, so no frame is
refused for its notation. What can go wrong is the search for the number: it takes
the first one in the text that has the name of the field.

* `readNumber_text` — the text of a number determines its value, so a number
  that is not equal is not denoted either.
* `observes_iff` — a frame that is valid but for one number is accepted exactly
  if what the search finds is read.
* `number_observed_iff` — the frame is accepted and leaves an observation equal
  to the number of its data exactly if what the search finds is read and equal to
  it. Where what is found fits as written, being equal is enough.
-/

namespace MarketStreamGateway

open Lib

/-! ## Decimals as they are written -/

/-- The text is a decimal number, of that value. -/
def Denotes (text : Text) (q : ℚ) : Prop :=
  ∃ token : NumberToken, token.text = text ∧ token.value = q

/-- The numbers a decimal of 96 bits and at most 28 places can hold. -/
def Representable (q : ℚ) : Prop :=
  ∃ (mantissa : Int) (scale : Nat), mantissa.natAbs < 2 ^ 96 ∧ scale ≤ 28 ∧
    q = mantissa * (10 : ℚ) ^ (-(scale : Int))

/-- The digits of a number, point and exponent left aside. -/
def writtenDigits (t : NumberToken) : Nat :=
  Nat.ofDigitChars 10 (t.whole ++ t.fraction.getD []) 0

/-- The power of ten that the digits are multiplied by. -/
def writtenShift (t : NumberToken) : Int :=
  (t.exponent.map Exponent.value).getD 0 - (t.fraction.getD []).length

/-- The number fits into a decimal as it is written: an integer of 96 bits, still
one when the exponent makes it longer, with at most 28 places. -/
structure FitsWritten (t : NumberToken) : Prop where
  places : (t.fraction.getD []).length ≤ 28
  exponent : ((t.exponent.map Exponent.value).getD 0).natAbs ≤ 28
  shift : -28 ≤ writtenShift t
  digits : writtenDigits t * 10 ^ (writtenShift t).toNat < 2 ^ 96

/-- What the decimal crate says of `from_str`: it reads the numbers that fit, in
plain and in scientific notation. Of the others nothing is assumed. -/
def ReadsNumbers [RustDecimal] : Prop :=
  ∀ token : NumberToken, FitsWritten token → (RustDecimal.fromStr token.text).isSome = true

/-- The value of a number in its digits and its power of ten. -/
theorem value_eq_written (t : NumberToken) :
    t.value = (if t.negative then -(writtenDigits t : ℚ) else writtenDigits t) *
      (10 : ℚ) ^ writtenShift t :=
  rfl

/-- What fits as it is written is a number a decimal can hold. -/
theorem FitsWritten.representable {t : NumberToken} (h : FitsWritten t) :
    Representable t.value := by
  have hPower : (10 : ℚ) ^ writtenShift t =
      10 ^ (writtenShift t).toNat * (10 : ℚ) ^ (-((-writtenShift t).toNat : Int)) := by
    rw [← zpow_natCast, ← zpow_add₀ (by norm_num)]
    congr 1
    omega
  refine ⟨(if t.negative then -1 else 1) * (writtenDigits t * 10 ^ (writtenShift t).toNat : Nat),
    (-writtenShift t).toNat, ?_, ?_, ?_⟩
  · rw [Int.natAbs_mul, Int.natAbs_natCast]
    split <;> simpa using h.digits
  · have hShift := h.shift
    omega
  · rw [value_eq_written, hPower]
    split <;> push_cast <;> ring

/-- The text a handler publishes for a number: the first number of the name in
the frame, or else the number as the document prints it. -/
def lexeme [Lexemes] (tokens : List Token) (name : Text) (t : NumberToken) : Text :=
  ((firstNumber name tokens).map NumberToken.text).getD (Lexemes.number t).display

/-- `DecimalValue::new` keeps the text if the crate reads it, and refuses it otherwise. -/
theorem DecimalValue.new_cases [RustDecimal] (text : Text) :
    (DecimalValue.new text = .ok ⟨text⟩ ∧ (RustDecimal.fromStr text).isSome = true) ∨
    (DecimalValue.new text = .error (.invalidDecimal text) ∧ RustDecimal.fromStr text = none) := by
  unfold DecimalValue.new
  cases RustDecimal.fromStr text with
  | none => exact .inr ⟨rfl, rfl⟩
  | some d => exact .inl ⟨rfl, rfl⟩

/-! ## Reading a number

A number can be read back from its text, so the text determines its value. -/

/-- The sign of a plain number, its digits as an integer and how many of them are
places. -/
def readPlain (text : Text) : Option (Bool × Nat × Nat) :=
  match text with
  | '-' :: rest => (readDigits rest).map (true, ·)
  | rest => (readDigits rest).map (false, ·)
where
  readDigits (text : Text) : Option (Nat × Nat) :=
    let whole := text.takeWhile Char.isDigit
    if whole.isEmpty then none
    else match text.dropWhile Char.isDigit with
      | [] => some (Nat.ofDigitChars 10 whole 0, 0)
      | '.' :: fraction =>
        if fraction.isEmpty || !fraction.all Char.isDigit then none
        else some (Nat.ofDigitChars 10 (whole ++ fraction) 0, fraction.length)
      | _ => none

/-- The exponent that stands behind a number: its marker, a sign and digits. -/
def readExponent : Text → Option Int
  | [] => some 0
  | _ :: rest =>
    let isSign := fun c => c = '-' || c = '+'
    let digits := if rest.head?.any isSign then rest.tail else rest
    let n : Int := Nat.ofDigitChars 10 digits 0
    if digits.isEmpty || !digits.all Char.isDigit then none
    else some (if rest.head? = some '-' then -n else n)

/-- The sign of a number, its digits as an integer and the power of ten that they
are multiplied by. -/
def readNumber (text : Text) : Option (Bool × Nat × Int) := do
  let (negative, digits, places) ← readPlain (text.takeWhile (!isMarker ·))
  let exponent ← readExponent (text.dropWhile (!isMarker ·))
  some (negative, digits, exponent - places)
where
  isMarker (c : Char) : Bool := c = 'e' || c = 'E'

/-- The digits of a plain number are read as one integer, with the length of
its fraction. -/
theorem readDigits_plain {whole : Text} {fraction : Option Text} (hWhole : whole ≠ [])
    (hDigits : ∀ c ∈ whole, c.isDigit = true)
    (hFraction : ∀ f ∈ fraction, f ≠ [] ∧ ∀ c ∈ f, c.isDigit = true) :
    readPlain.readDigits (whole ++ (fraction.map fun f => '.' :: f).getD []) =
      some (Nat.ofDigitChars 10 (whole ++ fraction.getD []) 0, (fraction.getD []).length) := by
  unfold readPlain.readDigits
  dsimp only
  rw [List.takeWhile_append_of_pos hDigits, List.dropWhile_append_of_pos hDigits]
  cases fraction with
  | none =>
    rw [Option.map_none, Option.getD_none, List.takeWhile_nil, List.append_nil,
      if_neg (by simpa using hWhole)]
    rfl
  | some f =>
    obtain ⟨hSome, hAll⟩ := hFraction f rfl
    -- behind the point there are digits, and nothing else
    have hRead : (f.isEmpty || !f.all Char.isDigit) = false := by
      simpa [hSome] using hAll
    rw [Option.map_some, Option.getD_some, Option.getD_some,
      List.takeWhile_cons_of_neg (by decide), List.append_nil, if_neg (by simpa using hWhole),
      List.dropWhile_cons_of_neg (by decide)]
    change (if (f.isEmpty || !f.all Char.isDigit) = true then none else some _) = _
    rw [hRead]
    rfl

/-- A plain number is read with its sign, its digits and its places. -/
theorem readPlain_plain {token : NumberToken} (h : token.Plain) :
    readPlain token.text = some (token.negative,
      Nat.ofDigitChars 10 (token.whole ++ token.fraction.getD []) 0,
      (token.fraction.getD []).length) := by
  have hRead := readDigits_plain token.nonempty token.isDigits token.fractionDigits
  have hText : token.text = (if token.negative then ['-'] else []) ++
      (token.whole ++ (token.fraction.map fun f => '.' :: f).getD []) := by
    rw [NumberToken.text, show token.exponent = none from h, Option.map_none, Option.getD_none,
      List.append_nil, List.append_assoc]
  cases hSign : token.negative with
  | true =>
    rw [hText, hSign]
    exact congrArg (Option.map (true, ·)) hRead
  | false =>
    -- without the sign the text starts with a digit
    have hFirst : ∀ rest, token.text ≠ '-' :: rest := by
      intro rest hMinus
      rw [hText, hSign] at hMinus
      cases hWhole : token.whole with
      | nil => exact token.nonempty hWhole
      | cons c whole =>
        rw [hWhole] at hMinus
        obtain rfl : c = '-' := (List.cons.inj hMinus).1
        exact absurd (token.isDigits '-' (hWhole ▸ List.mem_cons_self)) (by decide)
    unfold readPlain
    split
    · next rest hMinus => exact absurd hMinus (hFirst rest)
    · rw [hText, hSign]
      exact congrArg (Option.map (false, ·)) hRead

/-- No character of a plain number marks an exponent. -/
theorem isMarker_of_mem_plain {token : NumberToken} (h : token.Plain) {c : Char}
    (hc : c ∈ token.text) : readNumber.isMarker c = false := by
  have hDigit : c.isDigit = true → readNumber.isMarker c = false := by
    intro hIsDigit
    have hNot : ∀ d : Char, d.isDigit = false → c ≠ d := by
      rintro d hd rfl
      rw [hd] at hIsDigit
      cases hIsDigit
    simp [readNumber.isMarker, hNot 'e' (by decide), hNot 'E' (by decide)]
  rw [NumberToken.text, show token.exponent = none from h, Option.map_none, Option.getD_none,
    List.append_nil, List.mem_append, List.mem_append] at hc
  -- the sign, a digit of the integer, or the point and its digits
  rcases hc with (hc | hc) | hc
  · split at hc
    · rw [List.mem_singleton.mp hc]
      decide
    · cases hc
  · exact hDigit (token.isDigits c hc)
  · cases hFraction : token.fraction with
    | none =>
      rw [hFraction] at hc
      cases hc
    | some f =>
      rw [hFraction, Option.map_some, Option.getD_some, List.mem_cons] at hc
      rcases hc with rfl | hc
      · decide
      · exact hDigit ((token.fractionDigits f hFraction).2 c hc)

/-- An exponent is read with its sign, which may be left out. -/
theorem readExponent_text (e : Exponent) : readExponent e.text = some e.value := by
  have hAll : e.digits.all Char.isDigit = true := List.all_eq_true.mpr e.isDigits
  unfold Exponent.text Exponent.value readExponent
  cases hSign : e.sign with
  | some minus => cases minus <;> simp [e.nonempty, hAll]
  | none =>
    obtain ⟨c, digits, hDigits⟩ := List.exists_cons_of_ne_nil e.nonempty
    have hDigit : c.isDigit = true := e.isDigits c (hDigits ▸ List.mem_cons_self)
    have hMinus : c ≠ '-' := by
      rintro rfl
      exact absurd hDigit (by decide)
    have hPlus : c ≠ '+' := by
      rintro rfl
      exact absurd hDigit (by decide)
    rw [hDigits] at hAll ⊢
    simp [hMinus, hPlus, hAll]

/-- **Reading a number.** The reader finds the parts of a number in its text. -/
theorem readNumber_text (token : NumberToken) :
    readNumber token.text = some (token.negative, writtenDigits token, writtenShift token) := by
  -- the text is a plain number and then the exponent
  let plain : NumberToken := { token with exponent := none }
  have hPlain : plain.Plain := rfl
  have hText : token.text = plain.text ++ (token.exponent.map Exponent.text).getD [] := by
    simp [NumberToken.text, plain]
  have hMarkers : ∀ c ∈ plain.text, (!readNumber.isMarker c) = true := fun c hc => by
    rw [isMarker_of_mem_plain hPlain hc]
    rfl
  have hExponent : readExponent ((token.exponent.map Exponent.text).getD []) =
      some ((token.exponent.map Exponent.value).getD 0) := by
    cases token.exponent with
    | none => rfl
    | some e => exact readExponent_text e
  have hStop :
    ((token.exponent.map Exponent.text).getD []).takeWhile (!readNumber.isMarker ·) = [] ∧
      ((token.exponent.map Exponent.text).getD []).dropWhile (!readNumber.isMarker ·) =
        (token.exponent.map Exponent.text).getD [] := by
    cases token.exponent with
    | none => exact ⟨rfl, rfl⟩
    | some e =>
      rw [Option.map_some, Option.getD_some, Exponent.text]
      have hMarker : (!readNumber.isMarker (if e.upper then 'E' else 'e')) = false := by
        split <;> rfl
      rw [List.takeWhile_cons_of_neg (by simp [hMarker]),
        List.dropWhile_cons_of_neg (by simp [hMarker])]
      exact ⟨rfl, rfl⟩
  unfold readNumber
  rw [hText, List.takeWhile_append_of_pos hMarkers, List.dropWhile_append_of_pos hMarkers, hStop.1,
    hStop.2, List.append_nil, readPlain_plain hPlain, hExponent]
  rfl

/-- A text denotes one number at most. -/
theorem Denotes.unique {text : Text} {q r : ℚ} (hq : Denotes text q) (hr : Denotes text r) :
    q = r := by
  obtain ⟨first, rfl, rfl⟩ := hq
  obtain ⟨second, hText, rfl⟩ := hr
  have hParts := readNumber_text first
  rw [← hText, readNumber_text second] at hParts
  obtain ⟨hSign, hRest⟩ := Prod.mk.inj (Option.some.inj hParts)
  obtain ⟨hDigits, hShift⟩ := Prod.mk.inj hRest
  rw [value_eq_written, value_eq_written, hSign, hDigits, hShift]

/-! ## The four feeds -/

/-- The feeds whose handlers look a number up in the text of the frame. -/
inductive NumberFeed where
  | mexcTicker | mexcFunding | kucoinMarkIndex | kucoinFunding
  deriving DecidableEq, Repr

namespace NumberFeed

/-- The provider that a feed belongs to. -/
def provider : NumberFeed → Provider
  | mexcTicker | mexcFunding => .mexc
  | kucoinMarkIndex | kucoinFunding => .kucoin

section Frames

variable [Unicode] [RustDecimal]

/-- The decimal fields a handler reads, with their names in the data. A funding
frame of MEXC has its rate under one of two names. -/
def names (data : Value) : NumberFeed → List (Field × Text)
  | mexcTicker => MexcSession.tickerNames
  | mexcFunding => match MexcSession.rateField data with
    | .ok (name, _) => [(.fundingRate, name)]
    | .error _ => []
  | kucoinMarkIndex => KucoinSession.markIndexNames
  | kucoinFunding => KucoinSession.fundingNames

omit [Unicode] in
/-- How a handler reads one of its decimal fields. -/
def decode (data : Value) (observedAtMs : Nat) (text : Text) (name : Field × Text) :
    NumberFeed → Except AdapterError (List (Field × Option ObservedDecimal))
  | mexcTicker => MexcSession.updateObservation name.1 data name.2 observedAtMs text
  | mexcFunding => do
    let rate ← MexcSession.requiredValue data name.2
    (MexcSession.observation rate name.2 observedAtMs text).map fun observed =>
      [(name.1, some observed)]
  | kucoinMarkIndex | kucoinFunding =>
    (KucoinSession.observationFromField data name.2 observedAtMs (some text)).map fun observed =>
      [(name.1, some observed)]

/-- A frame of a feed that is valid but for its decimal fields. -/
def Frame (value : Value) (symbol : Text) (data : Value) (observedAtMs : Nat) :
    NumberFeed → Prop
  | mexcTicker => value.get "channel".toList = some (.string "push.ticker".toList) ∧
      ∃ outerSymbol, MexcSession.requiredString value "symbol".toList = .ok outerSymbol ∧
        MexcSession.requiredObject value "data".toList = .ok data ∧
        MexcSession.checkedPayloadSymbol data outerSymbol = .ok symbol ∧
        MexcSession.requiredU64 data "timestamp".toList = .ok observedAtMs
  | mexcFunding => value.get "channel".toList = some (.string "push.funding.rate".toList) ∧
      ∃ outerSymbol nextFundingTime,
        MexcSession.requiredString value "symbol".toList = .ok outerSymbol ∧
        MexcSession.requiredObject value "data".toList = .ok data ∧
        MexcSession.checkedPayloadSymbol data outerSymbol = .ok symbol ∧
        MexcSession.requiredU64 value "ts".toList = .ok observedAtMs ∧
        MexcSession.requiredU64 data "nextSettleTime".toList = .ok nextFundingTime
  | kucoinMarkIndex => KucoinFrame "mark.index.price".toList
  | kucoinFunding => KucoinFrame "funding.rate".toList
where
  /-- An instrument frame of KuCoin, of a given subject. -/
  KucoinFrame (subject : Text) : Prop :=
    (value.get "type".toList = none ∨
      value.get "type".toList = some (.string "message".toList)) ∧
    value.get "subject".toList = some (.string subject) ∧
      ∃ topic time, KucoinSession.requiredString value "topic".toList = .ok topic ∧
        KucoinSession.instrumentTopicSymbol topic = .ok symbol ∧
        KucoinSession.requiredObject value "data".toList = .ok data ∧
        KucoinSession.requiredValue data "timestamp".toList = .ok time ∧
        KucoinSession.parseU64 time "timestamp".toList = .ok observedAtMs

/-- A ticker frame has a price, or its symbol has one already. -/
def Priced (tickers : Tickers) (symbol : Text) (data : Value) : NumberFeed → Prop
  | mexcTicker => (cached tickers symbol).hasPrice = true ∨
      ∃ field name member, (field, name) ∈ MexcSession.tickerNames ∧ field ≠ .fundingRate ∧
        data.get name = some member ∧ ¬ (member.isNull ∨ member.asStr = some [])
  | _ => True

/-! ## Reading a frame -/

/-- What a frame says once its decimals are read. -/
def finish (symbol : Text) (observedAtMs : Nat) (nextFundingTimeMs : Option (Option Nat))
    (writes : List (Field × Option ObservedDecimal)) : NumberFeed → Reading
  | mexcTicker => .priced { symbol, observedAtMs, writes }
      (MexcSession.invalid "ticker contains no usable price".toList)
  | mexcFunding => .held { symbol, observedAtMs, writes, nextFundingTimeMs }
  | kucoinMarkIndex | kucoinFunding => .single { symbol, observedAtMs, writes }

/-- All the decimals of a frame. -/
def decodeAll (feed : NumberFeed) (data : Value) (observedAtMs : Nat) (text : Text) :
    Except AdapterError (List (List (Field × Option ObservedDecimal))) :=
  (feed.names data).mapM fun name => feed.decode data observedAtMs text name

/-- A ticker frame of MEXC is read up to its six decimals. -/
theorem mexcTicker_reading {value data : Value} {symbol : Text} {observedAtMs : Nat}
    (hFrame : mexcTicker.Frame value symbol data observedAtMs) (text : Text) :
    MexcSession.reading value text = .ofExcept
      ((mexcTicker.decodeAll data observedAtMs text).map fun writes =>
        mexcTicker.finish symbol observedAtMs none writes.flatten) := by
  obtain ⟨hChannel, outerSymbol, hOuter, hData, hSymbol, hTime⟩ := hFrame
  have hRequired : MexcSession.requiredString value "channel".toList =
    .ok "push.ticker".toList := by
    unfold MexcSession.requiredString
    rw [hChannel]
    rfl
  unfold MexcSession.reading
  rw [hRequired, ok_bind, MexcSession.parseChannel, if_pos rfl, MexcSession.parseTicker, hOuter,
    ok_bind, hData, ok_bind, hSymbol, ok_bind, hTime, ok_bind]
  unfold decodeAll
  simp only [names, decode, MexcSession.tickerNames, List.mapM_cons, List.mapM_nil]
  -- both sides stop at the first of the six decimals that is not read
  cases MexcSession.updateObservation .last data "lastPrice".toList observedAtMs text with
  | error error => rfl
  | ok last =>
  cases MexcSession.updateObservation .mark data "fairPrice".toList observedAtMs text with
  | error error => rfl
  | ok mark =>
  cases MexcSession.updateObservation .index data "indexPrice".toList observedAtMs text with
  | error error => rfl
  | ok index =>
  cases MexcSession.updateObservation .bid data "bid1".toList observedAtMs text with
  | error error => rfl
  | ok bid =>
  cases MexcSession.updateObservation .ask data "ask1".toList observedAtMs text with
  | error error => rfl
  | ok ask =>
  cases MexcSession.updateObservation .fundingRate data "fundingRate".toList observedAtMs text with
  | error error => rfl
  | ok funding =>
    have hFlat : last ++ mark ++ index ++ bid ++ ask ++ funding =
        [last, mark, index, bid, ask, funding].flatten := by simp
    change Reading.priced { symbol, observedAtMs, writes := _ } _ =
      .priced { symbol, observedAtMs, writes := _ } _
    rw [hFlat]

theorem mexcFunding_reading {value data member : Value} {symbol name : Text} {observedAtMs : Nat}
    (hFrame : mexcFunding.Frame value symbol data observedAtMs)
    (hRate : MexcSession.rateField data = .ok (name, member)) (text : Text) :
    ∃ nextFundingTime, MexcSession.reading value text = .ofExcept
      ((mexcFunding.decodeAll data observedAtMs text).map fun writes =>
        mexcFunding.finish symbol observedAtMs (some (some nextFundingTime)) writes.flatten) := by
  obtain ⟨hChannel, outerSymbol, nextFundingTime, hOuter, hData, hSymbol, hTime, hNext⟩ := hFrame
  have hRequired : MexcSession.requiredString value "channel".toList =
      .ok "push.funding.rate".toList := by
    unfold MexcSession.requiredString
    rw [hChannel]
    rfl
  have hMember : MexcSession.requiredValue data name = .ok member := by
    unfold MexcSession.requiredValue
    rw [(MexcSession.rateField_ok hRate).2]
  refine ⟨nextFundingTime, ?_⟩
  -- every check before the rate passes, and the time after it is read
  unfold MexcSession.reading
  rw [hRequired, ok_bind, MexcSession.parseChannel, if_neg (by decide), if_pos rfl,
    MexcSession.parseFunding, hOuter, ok_bind, hData, ok_bind, hSymbol, ok_bind, hTime, ok_bind,
    hRate, ok_bind]
  unfold decodeAll
  simp only [names, hRate, decode, List.mapM_cons, List.mapM_nil, hMember, ok_bind]
  cases MexcSession.observation member name observedAtMs text with
  | error error => rfl
  | ok funding =>
    rw [ok_bind, hNext]
    rfl

omit [Unicode] in
/-- The subject picks the handler of an instrument topic. -/
theorem instrument_handler {value : Value} {topic symbol subject : Text}
    (hTopic : KucoinSession.requiredString value "topic".toList = .ok topic)
    (hSymbol : KucoinSession.instrumentTopicSymbol topic = .ok symbol)
    (hSubject : value.get "subject".toList = some (.string subject)) (text : Text) :
    (subject = "mark.index.price".toList → KucoinSession.reading value text =
      .ofExcept (KucoinSession.parseMarkIndex value topic text)) ∧
    (subject = "funding.rate".toList → KucoinSession.reading value text =
      .ofExcept (KucoinSession.parseFunding value topic text)) := by
  -- the topic has the front of instruments, so the other handlers pass
  have hFront := Text.stripPrefix_eq_some.mp (KucoinSession.instrumentTopicSymbol_ok hSymbol).1
  have hTicker : "/contractMarket/tickerV2:".toList.isPrefixOf topic = false := by
    rw [hFront]
    rfl
  have hExecution : "/contractMarket/execution:".toList.isPrefixOf topic = false := by
    rw [hFront]
    rfl
  have hAs : (value.get "subject".toList).bind Value.asStr = some subject := by
    rw [hSubject]
    rfl
  unfold KucoinSession.reading KucoinSession.parseMarketMessage
  rw [hTopic, ok_bind]
  dsimp only
  rw [hAs, hTicker, hExecution]
  constructor
  · rintro rfl
    rw [if_neg (by decide), if_neg (by decide), if_pos rfl]
  · rintro rfl
    rw [if_neg (by decide), if_neg (by decide), if_neg (by decide), if_pos rfl]

omit [Unicode] in
theorem kucoinMarkIndex_reading {value data : Value} {symbol : Text} {observedAtMs : Nat}
    (hFrame : Frame.KucoinFrame value symbol data observedAtMs "mark.index.price".toList)
    (text : Text) :
    KucoinSession.reading value text = .ofExcept
      ((kucoinMarkIndex.decodeAll data observedAtMs text).map fun writes =>
        kucoinMarkIndex.finish symbol observedAtMs none writes.flatten) := by
  obtain ⟨-, hSubject, topic, time, hTopic, hSymbol, hData, hTime, hMillis⟩ := hFrame
  rw [(instrument_handler hTopic hSymbol hSubject text).1 rfl]
  unfold KucoinSession.parseMarkIndex decodeAll
  rw [hSymbol, ok_bind, hData, ok_bind, hTime, ok_bind, hMillis, ok_bind]
  simp only [names, decode, KucoinSession.markIndexNames, List.mapM_cons, List.mapM_nil]
  cases KucoinSession.observationFromField data "markPrice".toList observedAtMs (some text) with
  | error error => rfl
  | ok mark =>
  cases KucoinSession.observationFromField data "indexPrice".toList observedAtMs (some text) with
  | error error => rfl
  | ok index => rfl

omit [Unicode] in
theorem kucoinFunding_reading {value data : Value} {symbol : Text} {observedAtMs : Nat}
    (hFrame : Frame.KucoinFrame value symbol data observedAtMs "funding.rate".toList)
    (text : Text) :
    KucoinSession.reading value text = .ofExcept
      ((kucoinFunding.decodeAll data observedAtMs text).map fun writes =>
        kucoinFunding.finish symbol observedAtMs none writes.flatten) := by
  obtain ⟨-, hSubject, topic, time, hTopic, hSymbol, hData, hTime, hMillis⟩ := hFrame
  rw [(instrument_handler hTopic hSymbol hSubject text).2 rfl]
  unfold KucoinSession.parseFunding decodeAll
  rw [hSymbol, ok_bind, hData, ok_bind, hTime, ok_bind, hMillis, ok_bind]
  simp only [names, decode, KucoinSession.fundingNames, List.mapM_cons, List.mapM_nil]
  cases KucoinSession.observationFromField data "fundingRate".toList observedAtMs (some text) with
  | error error => rfl
  | ok funding => rfl

/-- **Reading a frame.** Nothing but its decimals can fail. -/
theorem reading_frame [Serde] {feed : NumberFeed} {value data : Value} {symbol : Text}
    {observedAtMs : Nat} (hFrame : feed.Frame value symbol data observedAtMs)
    (hNames : feed.names data ≠ []) (text : Text) (receivedAtMs : Nat) :
    ∃ nextFundingTimeMs, reading feed.provider value text receivedAtMs = .ofExcept
      ((feed.decodeAll data observedAtMs text).map fun writes =>
        feed.finish symbol observedAtMs nextFundingTimeMs writes.flatten) := by
  cases feed with
  | mexcTicker => exact ⟨none, mexcTicker_reading hFrame text⟩
  | mexcFunding =>
    cases hRate : MexcSession.rateField data with
    -- without a rate there is no number to speak of
    | error error =>
      rw [names, hRate] at hNames
      exact absurd rfl hNames
    | ok found =>
      obtain ⟨nextFundingTime, hReading⟩ := mexcFunding_reading hFrame hRate text
      exact ⟨some (some nextFundingTime), hReading⟩
  | kucoinMarkIndex => exact ⟨none, kucoinMarkIndex_reading hFrame text⟩
  | kucoinFunding => exact ⟨none, kucoinFunding_reading hFrame text⟩

omit [Unicode] in
/-- A number is read from its lexeme. -/
theorem decode_number (feed : NumberFeed) {data : Value} {name : Text} {n : Number}
    (hMember : data.get name = some (.number n)) (text : Text) (field : Field)
    (observedAtMs : Nat) :
    feed.decode data observedAtMs text (field, name) =
      ((ObservedDecimal.new ((rawNumberField text name).getD n.display) observedAtMs).mapError
        fun error => (match feed.provider with
          | .mexc => MexcSession.invalid error.display
          | _ => KucoinSession.invalid error.display)).map
        fun observed => [(field, some observed)] := by
  have hKucoin : (KucoinSession.observationFromField data name observedAtMs (some text)).map
      (fun observed => [(field, some observed)]) =
      ((ObservedDecimal.new ((rawNumberField text name).getD n.display) observedAtMs).mapError
        fun error => KucoinSession.invalid error.display).map
        fun observed => [(field, some observed)] := by
    unfold KucoinSession.observationFromField KucoinSession.requiredValue
    rw [hMember]
    rfl
  cases feed with
  | mexcTicker =>
    simp only [decode, MexcSession.updateObservation, hMember]
    -- a number is neither null nor the empty string
    rw [if_neg (by simp [Value.isNull, Value.asStr])]
    rfl
  | mexcFunding =>
    simp only [decode, MexcSession.requiredValue, hMember]
    rfl
  | kucoinMarkIndex => exact hKucoin
  | kucoinFunding => exact hKucoin

omit [Unicode] in
/-- A field is only ever written a value of its own. -/
theorem decode_writes {feed : NumberFeed} {data : Value} {observedAtMs : Nat} {text : Text}
    {name : Field × Text} {writes : List (Field × Option ObservedDecimal)}
    (h : feed.decode data observedAtMs text name = .ok writes)
    {w : Field × Option ObservedDecimal} (hw : w ∈ writes) :
    w.1 = name.1 ∧ ∃ observed, w.2 = some observed := by
  cases feed with
  | mexcTicker =>
    obtain ⟨member, observed, -, rfl, -⟩ := MexcSession.updateObservation_mem h hw
    exact ⟨rfl, observed, rfl⟩
  | mexcFunding =>
    obtain ⟨rate, -, h⟩ := bind_eq_ok.mp h
    obtain ⟨observed, -, rfl⟩ := map_eq_ok.mp h
    obtain rfl := List.mem_singleton.mp hw
    exact ⟨rfl, observed, rfl⟩
  | kucoinMarkIndex | kucoinFunding =>
    obtain ⟨observed, -, rfl⟩ := map_eq_ok.mp h
    obtain rfl := List.mem_singleton.mp hw
    exact ⟨rfl, observed, rfl⟩

omit [Unicode] [RustDecimal] in
/-- No two names are read into the same field. -/
theorem names_unique {feed : NumberFeed} {data : Value} {field : Field} {name other : Text}
    (hName : (field, name) ∈ feed.names data) (hOther : (field, other) ∈ feed.names data) :
    name = other := by
  have hNodup : ((feed.names data).map Prod.fst).Nodup := by
    cases feed with
    | mexcFunding =>
      simp only [names]
      split
      · exact List.nodup_singleton _
      · exact .nil
    | mexcTicker | kucoinMarkIndex | kucoinFunding =>
      simp only [names]
      decide
  exact congrArg Prod.snd (List.inj_on_of_nodup_map hNodup hName hOther rfl)

omit [Unicode] in
/-- The writes of a frame whose decimals are read, one of them a given one. -/
theorem decodeAll_ok {feed : NumberFeed} {data : Value} {observedAtMs : Nat} {text : Text}
    {field : Field} {name : Text} {observed : ObservedDecimal}
    (hName : (field, name) ∈ feed.names data)
    (hRead : feed.decode data observedAtMs text (field, name) = .ok [(field, some observed)])
    (hOthers : ∀ other ∈ feed.names data, other ≠ (field, name) →
      ∃ writes, feed.decode data observedAtMs text other = .ok writes) :
    ∃ writes, feed.decodeAll data observedAtMs text = .ok writes ∧
      (∀ w ∈ writes.flatten, ∃ value, w.2 = some value) ∧
      Update.lastWritten writes.flatten field = some (some observed) := by
  have hEach : ∀ item ∈ feed.names data,
      ∃ writes, feed.decode data observedAtMs text item = .ok writes := by
    intro item hItem
    by_cases hSame : item = (field, name)
    · exact ⟨_, hSame ▸ hRead⟩
    · exact hOthers item hItem hSame
  obtain ⟨writes, hWrites⟩ := exists_mapM_eq_ok hEach
  -- every write comes from one of the names
  have hFrom : ∀ w ∈ writes.flatten, ∃ item ∈ feed.names data, ∃ part, w ∈ part ∧
      feed.decode data observedAtMs text item = .ok part := by
    intro w hw
    obtain ⟨part, hPart, hw⟩ := List.mem_flatten.mp hw
    obtain ⟨item, hItem, hDecode⟩ := mem_of_mapM_eq_ok hWrites hPart
    exact ⟨item, hItem, part, hw, hDecode⟩
  refine ⟨writes, hWrites, fun w hw => ?_, ?_⟩
  · obtain ⟨item, -, part, hMem, hDecode⟩ := hFrom w hw
    exact (decode_writes hDecode hMem).2
  · -- the field is written by its own name only, whatever comes after it
    refine Update.lastWritten_of_mem ?_ fun w hw hField => ?_
    · obtain ⟨part, hPart, hDecode⟩ := result_of_mapM_eq_ok hWrites hName
      obtain rfl := Except.ok.inj (hRead.symm.trans hDecode)
      exact List.mem_flatten.mpr ⟨_, hPart, List.mem_singleton_self _⟩
    · obtain ⟨⟨target, other⟩, hItem, part, hMem, hDecode⟩ := hFrom w hw
      obtain rfl : target = field := (decode_writes hDecode hMem).1.symm.trans hField
      obtain rfl := names_unique hItem hName
      rw [hRead] at hDecode
      obtain rfl := Except.ok.inj hDecode
      rw [List.mem_singleton.mp hMem]

omit [Unicode] in
/-- A decimal that is there is written. -/
theorem updateObservation_present {field : Field} {data member : Value} {name text : Text}
    {observedAtMs : Nat} (hMember : data.get name = some member)
    (hPresent : ¬ (member.isNull ∨ member.asStr = some []))
    {writes : List (Field × Option ObservedDecimal)}
    (h : MexcSession.updateObservation field data name observedAtMs text = .ok writes) :
    ∃ observed, writes = [(field, some observed)] := by
  unfold MexcSession.updateObservation at h
  rw [hMember] at h
  dsimp only at h
  rw [if_neg hPresent] at h
  obtain ⟨observed, -, hWrites⟩ := map_eq_ok.mp h
  exact ⟨observed, hWrites.symm⟩

omit [Unicode] in
/-- A ticker frame that has a price leaves its symbol with one. -/
theorem hasPrice_of_priced {tickers : Tickers} {symbol : Text} {data : Value} {observedAtMs : Nat}
    {text : Text} (hPriced : mexcTicker.Priced tickers symbol data)
    {writes : List (List (Field × Option ObservedDecimal))}
    (hWrites : mexcTicker.decodeAll data observedAtMs text = .ok writes)
    (hSome : ∀ w ∈ writes.flatten, ∃ value, w.2 = some value) :
    (updated tickers { symbol, observedAtMs, writes := writes.flatten }).hasPrice = true := by
  have hSteady : Update.Steady { symbol, observedAtMs, writes := writes.flatten } := ⟨rfl, hSome⟩
  rcases hPriced with hCached | ⟨field, name, member, hName, hField, hMember, hPresent⟩
  · exact hSteady.hasPrice hCached
  · obtain ⟨part, hMem, hDecode⟩ : ∃ part ∈ writes,
        MexcSession.updateObservation field data name observedAtMs text = .ok part :=
      result_of_mapM_eq_ok hWrites hName
    obtain ⟨observed, rfl⟩ := updateObservation_present hMember hPresent hDecode
    exact hSteady.hasPrice_of_mem hField
      (List.mem_flatten.mpr ⟨_, hMem, List.mem_singleton_self _⟩) _

omit [Unicode] [RustDecimal] in
/-- A frame whose decimals are read is stored, and is shown if its symbol has a
price. -/
theorem handle_finish (feed : NumberFeed) {tickers : Tickers} {symbol : Text} {observedAtMs : Nat}
    {writes : List (Field × Option ObservedDecimal)}
    (hPrice : feed = mexcTicker →
      (updated tickers { symbol, observedAtMs, writes }).hasPrice = true)
    (nextFundingTimeMs : Option (Option Nat)) (provider : Provider) (connectionEpoch : Uuid)
    (receivedAtMs : Nat) :
    ∃ u events, u.symbol = symbol ∧ u.writes = writes ∧ u.reset = false ∧
      (feed.finish symbol observedAtMs nextFundingTimeMs writes).handle provider connectionEpoch
        receivedAtMs tickers = (.ok (some events), store tickers u) ∧
      ∀ event ∈ events, event.payload = .ticker (updated tickers u) := by
  have hShown : ∀ (u : Update), ∀ event ∈
      [u.event provider connectionEpoch receivedAtMs (updated tickers u)],
      event.payload = .ticker (updated tickers u) := by
    intro u event hEvent
    rw [List.mem_singleton.mp hEvent]
    rfl
  cases feed with
  | mexcTicker =>
    refine ⟨{ symbol, observedAtMs, writes }, _, rfl, rfl, rfl, ?_, hShown _⟩
    rw [finish, Reading.handle, if_pos (hPrice rfl)]
  -- a funding frame without a price is kept in the cache and shows no event
  | mexcFunding =>
    cases hHas : (updated tickers { symbol, observedAtMs, writes, nextFundingTimeMs }).hasPrice with
    | true =>
      refine ⟨{ symbol, observedAtMs, writes, nextFundingTimeMs }, _, rfl, rfl, rfl, ?_, hShown _⟩
      rw [finish, Reading.handle, if_pos hHas]
    | false =>
      refine ⟨{ symbol, observedAtMs, writes, nextFundingTimeMs }, [], rfl, rfl, rfl, ?_,
        fun event hEvent => absurd hEvent List.not_mem_nil⟩
      rw [finish, Reading.handle, if_neg (by rw [hHas]; exact Bool.false_ne_true)]
  | kucoinMarkIndex | kucoinFunding =>
    exact ⟨{ symbol, observedAtMs, writes }, _, rfl, rfl, rfl, rfl, hShown _⟩

end Frames

section Sessions

variable [Unicode] [JsonText] [RustDecimal] [Serde]

/-- The frame is accepted with an observation of the field that is equal to the
number; its events show the observation. -/
def Observes (feed : NumberFeed) (s : (configuredAdapter feed.provider).Session) (text : Text)
    (receivedAtMs : Nat) (symbol : Text) (field : Field) (q : ℚ) : Prop :=
  ∃ events observed,
    ((configuredAdapter feed.provider).parse s text receivedAtMs).1 = .ok (.events events) ∧
    (cached (sessionTickers feed.provider
      ((configuredAdapter feed.provider).parse s text receivedAtMs).2) symbol).get field =
        some observed ∧
    (∀ event ∈ events, ∃ ticker, event.payload = .ticker ticker ∧
      ticker.get field = some observed) ∧
    Denotes observed.value.text q

omit [RustDecimal] [Serde] in
/-- The frames of the feeds are market data. -/
theorem Frame.market {feed : NumberFeed} {text : Text} {value data : Value} {symbol : Text}
    {observedAtMs : Nat} (hJson : JsonText.fromStr text = .ok value)
    (hFrame : feed.Frame value symbol data observedAtMs) :
    marketValue feed.provider text = some value := by
  refine marketValue_eq_some.mpr ⟨hJson, ?_⟩
  have hKucoin : ∀ {subject : Text}, Frame.KucoinFrame value symbol data observedAtMs subject →
      value.isObject = true ∧ isMarket .kucoin text value = true := by
    rintro subject ⟨hType, hSubject, topic, time, hTopic, -⟩
    refine ⟨Value.isObject_of_get hSubject, ?_⟩
    unfold isMarket KucoinSession.parseControl
    -- a message may leave its type out
    rcases hType with hType | hType
    · rw [hType, KucoinSession.requiredString_eq hTopic]
      rfl
    · rw [hType]
      rfl
  cases feed with
  | mexcTicker | mexcFunding =>
    obtain ⟨hChannel, -⟩ := hFrame
    refine ⟨Value.isObject_of_get hChannel, ?_⟩
    unfold isMarket MexcSession.requiredString
    rw [hChannel]
    rfl
  | kucoinMarkIndex => exact hKucoin hFrame
  | kucoinFunding => exact hKucoin hFrame

/-- A frame that is valid but for one number: it is accepted exactly if the
lexeme of the number is read, and then has the lexeme as its observation. -/
theorem observes_iff {feed : NumberFeed} {text : Text} {value data : Value}
    (hJson : JsonText.fromStr text = .ok value) {symbol : Text} {observedAtMs : Nat}
    (hFrame : feed.Frame value symbol data observedAtMs) {field : Field} {name : Text}
    (hName : (field, name) ∈ feed.names data) {n : Number}
    (hNumber : data.get name = some (.number n))
    (hOthers : ∀ other ∈ feed.names data, other ≠ (field, name) →
      ∃ writes, feed.decode data observedAtMs text other = .ok writes)
    (s : (configuredAdapter feed.provider).Session)
    (hPriced : feed.Priced (sessionTickers feed.provider s) symbol data) (receivedAtMs : Nat)
    (q : ℚ) :
    feed.Observes s text receivedAtMs symbol field q ↔
      (RustDecimal.fromStr ((rawNumberField text name).getD n.display)).isSome = true ∧
        Denotes ((rawNumberField text name).getD n.display) q := by
  obtain ⟨nextFundingTimeMs, hReading⟩ :=
    reading_frame hFrame (List.ne_nil_of_mem hName) text receivedAtMs
  obtain ⟨hParse, hTickers, -⟩ := parse_market (hFrame.market hJson) s receivedAtMs
  have hDecode := feed.decode_number hNumber text field observedAtMs
  -- from here on only the text that the search found matters
  generalize (rawNumberField text name).getD n.display = shown at hDecode ⊢
  rcases DecimalValue.new_cases shown with ⟨hNew, hSome⟩ | ⟨hNew, hNone⟩
  · have hRead : feed.decode data observedAtMs text (field, name) =
        .ok [(field, some ⟨⟨shown⟩, observedAtMs⟩)] := by
      rw [hDecode, ObservedDecimal.new, hNew]
      rfl
    -- the text is read, so the frame is accepted and shows it
    obtain ⟨writes, hWrites, hSteady, hLast⟩ := decodeAll_ok hName hRead hOthers
    have hPrice : feed = mexcTicker → (updated (sessionTickers feed.provider s)
        { symbol, observedAtMs, writes := writes.flatten }).hasPrice = true := by
      rintro rfl
      exact hasPrice_of_priced hPriced hWrites hSteady
    obtain ⟨u, events, rfl, hUpdate, -, hHandle, hEvents⟩ := feed.handle_finish hPrice
      nextFundingTimeMs feed.provider (sessionEpoch feed.provider s) receivedAtMs
    rw [hReading, hWrites] at hParse hTickers
    have hAnswer : ((configuredAdapter feed.provider).parse s text receivedAtMs).1 =
        .ok (.events events) := hParse.trans (by rw [Except.map, Reading.ofExcept, hHandle]; rfl)
    have hGet : (updated (sessionTickers feed.provider s) u).get field =
        some ⟨⟨shown⟩, observedAtMs⟩ := by
      rw [updated, Update.get_apply, Update.written, hUpdate, hLast]
      rfl
    have hCached : (cached (sessionTickers feed.provider
        ((configuredAdapter feed.provider).parse s text receivedAtMs).2) u.symbol).get field =
        some ⟨⟨shown⟩, observedAtMs⟩ := by
      rw [hTickers, Except.map, Reading.ofExcept, hHandle, cached_store_self, hGet]
    constructor
    · rintro ⟨-, observed, -, hObserved, -, hDenotes⟩
      rw [hCached] at hObserved
      obtain rfl := Option.some.inj hObserved
      exact ⟨hSome, hDenotes⟩
    · rintro ⟨-, hDenotes⟩
      exact ⟨events, _, hAnswer, hCached,
        fun event hEvent => ⟨_, hEvents event hEvent, hGet⟩, hDenotes⟩
  · -- the text is not read, and neither are then all the decimals
    have hRefused : ∃ error, feed.decodeAll data observedAtMs text = .error error := by
      cases hAll : feed.decodeAll data observedAtMs text with
      | error error => exact ⟨error, rfl⟩
      | ok writes =>
        obtain ⟨part, -, hPart⟩ := result_of_mapM_eq_ok hAll hName
        rw [hDecode, ObservedDecimal.new, hNew] at hPart
        cases hPart
    obtain ⟨error, hRefused⟩ := hRefused
    rw [hReading, hRefused] at hParse
    constructor
    · rintro ⟨events, -, hAnswer, -⟩
      cases hParse.symm.trans hAnswer
    · rintro ⟨hSome, -⟩
      rw [hNone] at hSome
      cases hSome

omit [JsonText] [RustDecimal] [Serde] in
/-- The data of a frame is its member of that name. -/
theorem Frame.data {feed : NumberFeed} {value data : Value} {symbol : Text} {observedAtMs : Nat}
    (hFrame : feed.Frame value symbol data observedAtMs) : value.get "data".toList = some data := by
  cases feed with
  | mexcTicker =>
    obtain ⟨-, outerSymbol, -, hData, -⟩ := hFrame
    exact MexcSession.requiredObject_eq hData
  | mexcFunding =>
    obtain ⟨-, outerSymbol, nextFundingTime, -, hData, -⟩ := hFrame
    exact MexcSession.requiredObject_eq hData
  | kucoinMarkIndex | kucoinFunding =>
    obtain ⟨-, -, topic, time, -, -, hData, -⟩ := hFrame
    exact KucoinSession.requiredObject_eq hData

/-- **Numbers in ticker frames.** Take a frame of one of the four feeds that
carries a number in a decimal field and is valid otherwise. It is accepted with
an observation equal to the number exactly if the first number of that name in
the frame, which is the field's own unless another one precedes it, is one the
decimal crate reads and is equal to it. The crate reads either notation, so where
the number found fits into a decimal as it is written, being equal is all it
takes. -/
theorem number_observed_iff [Lexemes] (feed : NumberFeed) {v : Lexical} {text : Text}
    (hText : Spells v.tokens text) (hJson : JsonText.fromStr text = .ok v.value) {data : Value}
    {symbol : Text} {observedAtMs : Nat} (hFrame : feed.Frame v.value symbol data observedAtMs)
    {field : Field} {name : Text} (hName : (field, name) ∈ feed.names data) {t : NumberToken}
    (hNumber : (v.get "data".toList).bind (Lexical.get name) = some (.number t))
    (hOthers : ∀ other ∈ feed.names data, other ≠ (field, name) →
      ∃ writes, feed.decode data observedAtMs text other = .ok writes)
    (s : (configuredAdapter feed.provider).Session)
    (hPriced : feed.Priced (sessionTickers feed.provider s) symbol data) (receivedAtMs : Nat) :
    (feed.Observes s text receivedAtMs symbol field t.value ↔
      (RustDecimal.fromStr (lexeme v.tokens name t)).isSome = true ∧
        Denotes (lexeme v.tokens name t) t.value) ∧
    (ReadsNumbers → ∀ found : NumberToken, found.text = lexeme v.tokens name t →
      FitsWritten found →
        (feed.Observes s text receivedAtMs symbol field t.value ↔ found.value = t.value)) := by
  obtain ⟨tree, hTree, hNumber⟩ := Option.bind_eq_some_iff.mp hNumber
  have hData := hFrame.data
  rw [Lexical.get_value, hTree] at hData
  -- the data of the frame is the tree's value, and the member its number
  obtain rfl := Option.some.inj hData
  have hMember : tree.value.get name = some (.number (Lexemes.number t)) := by
    rw [Lexical.get_value, hNumber, Option.map_some, Lexical.value]
  have hObserves := observes_iff hJson hFrame hName hMember hOthers s hPriced receivedAtMs t.value
  rw [rawNumberField_spells hText, ← lexeme] at hObserves
  refine ⟨hObserves, fun hCrate found hFound hFits => hObserves.trans ⟨fun h => ?_, fun h => ?_⟩⟩
  · exact Denotes.unique ⟨found, hFound, rfl⟩ h.2
  · -- a number that fits is read, so only its value is in question
    have hRead := hCrate found hFits
    rw [hFound] at hRead
    exact ⟨hRead, found, hFound, h⟩

end Sessions

end NumberFeed

/-! ## A decimal crate

Plain and scientific notation the way the crate reads them, for evaluating closed
instances. Places that do not fit are cut off here, where the crate rounds. -/

/-- Cuts off places until the integer has 96 bits. -/
def fitScale : Nat → Nat → Option (Nat × Nat)
  | 0, mantissa => if mantissa < 2 ^ 96 then some (mantissa, 0) else none
  | scale + 1, mantissa =>
    if scale + 1 ≤ 28 ∧ mantissa < 2 ^ 96 then some (mantissa, scale + 1)
    else fitScale scale (mantissa / 10)

/-- The integer and its places for digits times a power of ten. -/
def fitShift (digits : Nat) : Int → Option (Nat × Nat)
  | .ofNat zeros => fitScale 0 (digits * 10 ^ zeros)
  | .negSucc places => fitScale (places + 1) digits

/-- The decimal of a number that has been read. -/
def Decimal.ofParts (negative : Bool) (digits : Nat) (shift : Int) : Option Decimal :=
  (fitShift digits shift).map fun (mantissa, scale) =>
    ⟨if negative then -mantissa else mantissa, scale⟩

/-- The digits with a point before the places, and at least one before that. -/
def showScaled (d : Decimal) : Text :=
  let digits := Text.ofNat d.mantissa.natAbs
  let padded := List.replicate (d.scale + 1 - digits.length) '0' ++ digits
  let whole := padded.length - d.scale
  (if d.mantissa < 0 then ['-'] else []) ++ padded.take whole ++
    (if d.scale = 0 then [] else '.' :: padded.drop whole)

/-- Asked for scientific notation, the crate wants a marker and refuses more than
28 places. -/
@[reducible] def RustDecimal.grammar : RustDecimal where
  fromStr text := do
    let (negative, digits, shift) ← readNumber text
    Decimal.ofParts negative digits shift
  fromScientific text := do
    let (negative, digits, shift) ← readNumber text
    if text.any readNumber.isMarker ∧ -28 ≤ shift then Decimal.ofParts negative digits shift
    else none
  toText := showScaled

/-- Any integer part of 96 bits fits. -/
theorem fitScale_isSome {scale mantissa : Nat} (h : mantissa / 10 ^ scale < 2 ^ 96) :
    (fitScale scale mantissa).isSome = true := by
  induction scale generalizing mantissa with
  | zero =>
    rw [Nat.pow_zero, Nat.div_one] at h
    rw [fitScale, if_pos h]
    rfl
  | succ scale ih =>
    rw [fitScale]
    split
    · rfl
    · refine ih ?_
      rwa [Nat.div_div_eq_div_mul, ← Nat.pow_succ']

/-- This crate reads what fits. -/
theorem readsNumbers_grammar : @ReadsNumbers RustDecimal.grammar := by
  intro token hFits
  have hDigits := hFits.digits
  change (readNumber token.text >>= fun parts =>
    Decimal.ofParts parts.1 parts.2.1 parts.2.2).isSome = true
  rw [readNumber_text, Option.bind_eq_bind, Option.bind_some, Decimal.ofParts, Option.isSome_map]
  cases hShift : writtenShift token with
  | ofNat zeros =>
    rw [hShift] at hDigits
    refine fitScale_isSome ?_
    rwa [Nat.pow_zero, Nat.div_one]
  | negSucc places =>
    rw [hShift, Int.toNat_negSucc, Nat.pow_zero, Nat.mul_one] at hDigits
    exact fitScale_isSome (Nat.lt_of_le_of_lt (Nat.div_le_self _ _) hDigits)

section Rates

/-! A funding rate of a ten millionth in scientific notation, by itself and with
another number of its name before it. -/

/-- One ten millionth, as a venue may print it. -/
def scientificRate : NumberToken where
  negative := false
  whole := "1".toList
  fraction := none
  exponent := some ⟨false, some true, "7".toList, by decide, isDigits_of_all rfl⟩
  nonempty := by decide
  canonical := by decide
  isDigits := isDigits_of_all rfl
  fractionDigits := no_fractionDigits

/-- A number of one digit. -/
def integerToken (digit : Char) (hDigit : digit.isDigit = true) : NumberToken where
  negative := false
  whole := [digit]
  fraction := none
  exponent := none
  nonempty := List.cons_ne_nil _ _
  canonical := by
    by_cases h : digit = '0'
    · exact .inl (by rw [h])
    · exact .inr (by simpa using h)
  isDigits := by simpa using hDigit
  fractionDigits := by simp

/-- One is a digit. -/
theorem isDigit_one : '1'.isDigit = true := rfl

/-- Five is a digit. -/
theorem isDigit_five : '5'.isDigit = true := rfl

/-- A funding frame of MEXC for that rate, with other members before its data. -/
def rateFrame (stray : List (Raw × Lexical)) : Lexical :=
  .object ([
    (Raw.of "channel".toList, .string (Raw.of "push.funding.rate".toList)),
    (Raw.of "symbol".toList, .string (Raw.of "PEPE_USDT".toList)),
    (Raw.of "ts".toList, .number (integerToken '5' isDigit_five))] ++ stray ++ [
    (Raw.of "data".toList, .object [
      (Raw.of "symbol".toList, .string (Raw.of "PEPE_USDT".toList)),
      (Raw.of "rate".toList, .number scientificRate),
      (Raw.of "nextSettleTime".toList, .number (integerToken '9' rfl))])])

/-- The frame with nothing before its data. -/
def ownRate : Lexical := rateFrame []

/-- The frame with a number of the rate's name before its data. -/
def strayRate : Lexical :=
  rateFrame [(Raw.of "rate".toList, .number (integerToken '1' isDigit_one))]

/-- A document as it is printed without blanks. -/
def compactText (v : Lexical) : Text := v.tokens.flatMap Token.text

local instance rateUnicode : Unicode := .ascii
local instance rateLexemes : Lexemes := .plain
local instance rateJson : JsonText := .table
  [(compactText ownRate, ownRate.value), (compactText strayRate, strayRate.value)]
local instance rateDecimal : RustDecimal := .grammar
local instance rateSerde : Serde := .mute

/-- The data of both frames. -/
def rateData : Value :=
  .object [("nextSettleTime".toList, .number (.posInt 9)),
    ("rate".toList, .number (Lexemes.number scientificRate)),
    ("symbol".toList, .string "PEPE_USDT".toList)]

/-- The frame is valid but for its rate. -/
theorem ownRate_frame :
    NumberFeed.mexcFunding.Frame ownRate.value "PEPE_USDT".toList rateData 5 :=
  ⟨rfl, "PEPE_USDT".toList, 9, rfl, rfl, rfl, rfl, rfl⟩

/-- The frame with the other number is just as valid. -/
theorem strayRate_frame :
    NumberFeed.mexcFunding.Frame strayRate.value "PEPE_USDT".toList rateData 5 :=
  ⟨rfl, "PEPE_USDT".toList, 9, rfl, rfl, rfl, rfl, rfl⟩

/-- The rate fits a decimal as it is written. -/
theorem scientificRate_fits : FitsWritten scientificRate :=
  ⟨by decide, by decide, by decide, by decide⟩

/-- The only decimal of the frames is the rate. -/
theorem rateData_others (text : Text) :
    ∀ other ∈ NumberFeed.mexcFunding.names rateData, other ≠ (.fundingRate, "rate".toList) →
      ∃ writes, NumberFeed.mexcFunding.decode rateData 5 text other = .ok writes := by
  intro other hOther hNe
  exact absurd (List.mem_singleton.mp hOther) hNe

/-- The rate is observed, exponent and all. -/
theorem number_observed_iff_ownRate :
    NumberFeed.mexcFunding.Observes (MexcSession.new .primary 0) (compactText ownRate) 6
      "PEPE_USDT".toList .fundingRate scientificRate.value := by
  refine ((NumberFeed.number_observed_iff .mexcFunding (spells_compact (by decide +kernel)) rfl
    ownRate_frame (.head _) rfl (rateData_others _) _ trivial 6).2 readsNumbers_grammar
    scientificRate rfl scientificRate_fits).mpr ?_
  rfl

/-- Behind another number of its name the rate is not observed, though the frame
is valid and the candle path would take the rate as it is. -/
theorem stray_rate_observed :
    Spells strayRate.tokens (compactText strayRate) ∧
    JsonText.fromStr (compactText strayRate) = .ok strayRate.value ∧
    NumberFeed.mexcFunding.Frame strayRate.value "PEPE_USDT".toList rateData 5 ∧
    (strayRate.get "data".toList).bind (Lexical.get "rate".toList) =
      some (.number scientificRate) ∧
    Representable scientificRate.value ∧
    RustDecimal.fromStr scientificRate.text = some ⟨1, 7⟩ ∧
    RustDecimal.fromScientific scientificRate.text = some ⟨1, 7⟩ ∧
    ¬ NumberFeed.mexcFunding.Observes (MexcSession.new .primary 0) (compactText strayRate) 6
      "PEPE_USDT".toList .fundingRate scientificRate.value := by
  have hJson : JsonText.fromStr (compactText strayRate) = .ok strayRate.value := rfl
  have hSpells : Spells strayRate.tokens (compactText strayRate) :=
    spells_compact (by decide +kernel)
  -- the search finds the number before the data
  have hFound : rawNumberField (compactText strayRate) "rate".toList = some "1".toList := by
    rw [rawNumberField_spells hSpells]
    rfl
  refine ⟨hSpells, hJson, strayRate_frame, rfl, scientificRate_fits.representable,
    by decide +kernel, by decide +kernel, fun hObserves => ?_⟩
  obtain ⟨-, hDenotes⟩ := (NumberFeed.observes_iff hJson strayRate_frame (.head _) rfl
    (rateData_others _) _ trivial 6 _).mp hObserves
  rw [hFound, Option.getD_some] at hDenotes
  have hOne : Denotes "1".toList 1 := ⟨integerToken '1' isDigit_one, rfl, by decide +kernel⟩
  exact absurd (hDenotes.unique hOne) (by decide +kernel)

end Rates

end MarketStreamGateway
