import GpsInformer.DeviceScan

/-!
# The position in a data frame

The tracker writes a coordinate as degrees, two digits of minutes and a fraction of minutes,
with nothing between degrees and minutes, and its sign as a letter in the next field
(`Position.fields`).  With exact conversions `commandGpsData` reads any such position back
(`commandGpsData_position`).
-/

namespace GpsInformer

open Lib

namespace Device

/-! ## Decimal numbers -/

/-- The value of `whole.fraction`. -/
def decimal (whole fraction : Str) : ℚ :=
  number whole + number fraction / 10 ^ fraction.length

/-- An unsigned decimal number and its value. -/
inductive Numeral : Str → ℚ → Prop
  | whole {digits : Str} :
    digits ≠ [] → isDigits digits = true → Numeral digits (number digits)
  | point {whole fraction : Str} :
    whole ≠ [] → isDigits whole = true → fraction ≠ [] → isDigits fraction = true →
    Numeral (whole ++ '.' :: fraction) (decimal whole fraction)

/-- A decimal number, with or without a sign, and its value. -/
inductive Decimal : Str → ℚ → Prop
  | unsigned {text : Str} {value : ℚ} : Numeral text value → Decimal text value
  | positive {text : Str} {value : ℚ} : Numeral text value → Decimal ('+' :: text) value
  | negative {text : Str} {value : ℚ} : Numeral text value → Decimal ('-' :: text) (-value)

/-- `lexical_cast<double>` of a decimal number is its value. -/
def ConvertsDecimals (env : DeviceEnv) : Prop :=
  ∀ text value, Decimal text value → env.lexicalCast text = some value

/-! ## Positions -/

/-- A coordinate in the tracker's format, without its sign. -/
structure Coordinate where
  degrees : Str
  minutes : Str
  fraction : Str
  degrees_digits : isDigits degrees = true
  minutes_digits : isDigits minutes = true
  minutes_length : minutes.length = 2
  fraction_digits : isDigits fraction = true
  fraction_nonempty : fraction ≠ []

def Coordinate.text (c : Coordinate) : Str := c.degrees ++ (c.minutes ++ '.' :: c.fraction)

/-- Degrees and minutes. -/
def Coordinate.value (c : Coordinate) : ℚ :=
  number c.degrees + decimal c.minutes c.fraction / 60

/-- A position, with the speed. -/
structure Position where
  latitude : Coordinate
  south : Bool
  longitude : Coordinate
  west : Bool
  speedText : Str
  speed : ℚ
  speed_decimal : Decimal speedText speed

/-- The position as the fields 7 to 11 of a data frame. -/
def Position.fields (p : Position) : List Str :=
  [p.latitude.text, if p.south then ['S'] else ['N'], p.longitude.text,
    if p.west then ['W'] else ['E'], p.speedText]

variable {env : DeviceEnv} {fields : List Str} {p : Position}

theorem not_mem_of_isDigits {digits : Str} (allDigits : isDigits digits = true) {c : Char}
    (other : c ∉ "0123456789".toList) : c ∉ digits := fun member =>
  other (of_decide_eq_true (List.all_eq_true.mp allDigits c member))

theorem Coordinate.cutDegrees_text (c : Coordinate) :
    cutDegrees c.text = .ok (some (c.degrees, c.minutes ++ '.' :: c.fraction)) := by
  have absent : '.' ∉ c.degrees ++ c.minutes := by
    rw [List.mem_append, not_or]
    exact ⟨not_mem_of_isDigits c.degrees_digits (by decide),
      not_mem_of_isDigits c.minutes_digits (by decide)⟩
  have text : c.text = c.degrees ++ c.minutes ++ '.' :: c.fraction :=
    (List.append_assoc ..).symm
  have found : c.text.findFirstOf '.' = some (c.degrees.length + 2) := by
    rw [text, Str.findFirstOf_append absent, List.length_append, c.minutes_length]
  have within : ¬ c.degrees.length + 2 - 2 > c.text.length := by
    have longer : c.degrees.length ≤ c.text.length := by
      unfold Coordinate.text
      rw [List.length_append]
      exact Nat.le_add_right ..
    omega
  unfold cutDegrees substrFrom eraseFrom
  rw [found]
  dsimp only
  rw [if_neg (by omega), if_neg within, if_neg within, Nat.add_sub_cancel]
  unfold Coordinate.text
  rw [List.drop_left, List.take_left]
  rfl

theorem Coordinate.degrees_value (converts : ConvertsDecimals env) (c : Coordinate) :
    Device.degrees env c.degrees (c.minutes ++ '.' :: c.fraction) = some c.value := by
  have minutes_nonempty : c.minutes ≠ [] := by
    intro empty
    have length := c.minutes_length
    rw [empty] at length
    cases length
  have minutes : env.lexicalCast (c.minutes ++ '.' :: c.fraction) =
      some (decimal c.minutes c.fraction) :=
    converts _ _ (.unsigned (.point minutes_nonempty c.minutes_digits c.fraction_nonempty
      c.fraction_digits))
  unfold Device.degrees
  rw [minutes]
  split
  · rename_i empty
    unfold Coordinate.value
    rw [empty]
    rfl
  · rename_i nonempty
    rw [converts _ _ (.unsigned (.whole nonempty c.degrees_digits))]
    rfl

theorem fields_getD (printed : (fields.drop 7).take 5 = p.fields) {i : Nat} (within : i < 5) :
    fields[7 + i]?.getD [] = p.fields[i]?.getD [] := by
  rw [← printed, List.getElem?_take_of_lt within, List.getElem?_drop]

/-- The position block reads the position that has been written. -/
theorem position_written (converts : ConvertsDecimals env) (long : 11 < fields.length)
    (printed : (fields.drop 7).take 5 = p.fields) (message : GpsMessage) :
    Device.position env fields message = .ok (some { message with
      latitude := if p.south then -p.latitude.value else p.latitude.value
      longitude := if p.west then -p.longitude.value else p.longitude.value
      speed := p.speed }) := by
  unfold Device.position
  rw [argument_of_lt (by omega : 7 < fields.length), argument_of_lt (by omega : 8 < fields.length),
    argument_of_lt (by omega : 9 < fields.length), argument_of_lt (by omega : 10 < fields.length),
    argument_of_lt long]
  have field := fun {i : Nat} (within : i < 5) => fields_getD printed within
  have latitude : fields[7]?.getD [] = p.latitude.text := field (by omega : 0 < 5)
  have north : fields[8]?.getD [] = if p.south then ['S'] else ['N'] := field (by omega : 1 < 5)
  have longitude : fields[9]?.getD [] = p.longitude.text := field (by omega : 2 < 5)
  have east : fields[10]?.getD [] = if p.west then ['W'] else ['E'] := field (by omega : 3 < 5)
  have speed : fields[11]?.getD [] = p.speedText := field (by omega : 4 < 5)
  simp only [bind, Except.bind, pure, Except.pure, latitude, longitude, north, east, speed,
    p.latitude.cutDegrees_text, p.longitude.cutDegrees_text, p.latitude.degrees_value converts,
    p.longitude.degrees_value converts, converts _ _ p.speed_decimal]
  cases p.south <;> cases p.west <;> rfl

/-- A data frame with a position is one tracker event with that position. -/
theorem commandGpsData_position (converts : ConvertsDecimals env) (long : 12 ≤ fields.length)
    (length : (fields.headD []).length = 20) (mark : imeiMark <+: fields.headD [])
    (fixed : fields[4]? = some ['F']) {time : Option Int}
    (dated : trackerTime env (fields[2]?.getD []) = .ok time)
    (printed : (fields.drop 7).take 5 = p.fields) (s : Shared) :
    commandGpsData env fields s =
      .ok ((s.universalTime env).2.record (.trackerEvent .data {
        imei := (fields.headD []).drop 5
        keyword := fields[1]?.getD []
        phone := fields[3]?.getD []
        trackerTime := time
        hostTime := some (s.universalTime env).1
        latitude := if p.south then -p.latitude.value else p.latitude.value
        longitude := if p.west then -p.longitude.value else p.longitude.value
        speed := p.speed
        valid := true })) := by
  have named : ¬ ((fields.headD []).length ≠ 20 ∨ (fields.headD []).find imeiMark ≠ some 0) := by
    rw [not_or, not_not, not_not, Str.find_eq_zero_iff]
    exact ⟨length, mark⟩
  have head : fields[0]?.getD [] = fields.headD [] := by
    rw [List.headD_eq_head?_getD, List.head?_eq_getElem?]
  have valid : isValid fields = .ok true := by
    unfold isValid argument
    rw [if_pos (by omega), fixed]
    rfl
  unfold commandGpsData
  rw [argument_of_lt (by omega : 0 < fields.length), argument_of_lt (by omega : 1 < fields.length),
    argument_of_lt (by omega : 2 < fields.length), argument_of_lt (by omega : 3 < fields.length)]
  simp only [bind, Except.bind, pure, Except.pure, head, dated, valid]
  rw [if_neg named]
  simp only [if_true, position_written converts long printed]

/-! ## Exact conversions -/

/-- The value of an unsigned decimal number. -/
def readNumeral (text : Str) : Option ℚ :=
  match text.findFirstOf '.' with
  | none => some (number text)
  | some n => some (decimal (text.take n) (text.drop (n + 1)))

def readDecimal : Str → Option ℚ
  | '+' :: text => readNumeral text
  | '-' :: text => (readNumeral text).map (-·)
  | text => readNumeral text

theorem readNumeral_eq {text : Str} {value : ℚ} (numeral : Numeral text value) :
    readNumeral text = some value := by
  unfold readNumeral
  cases numeral with
  | whole nonempty allDigits =>
      rw [Str.findFirstOf_eq_none_iff.mpr (not_mem_of_isDigits allDigits (by decide))]
  | @point whole fraction nonempty allDigits nonempty' allDigits' =>
      rw [Str.findFirstOf_append (not_mem_of_isDigits allDigits (by decide))]
      dsimp only
      rw [List.take_left, ← List.drop_drop, List.drop_left, List.drop_one, List.tail_cons]

/-- An unsigned number starts with a digit. -/
theorem Numeral.cons {text : Str} {value : ℚ} (numeral : Numeral text value) :
    ∃ c rest, text = c :: rest ∧ c ≠ '+' ∧ c ≠ '-' := by
  have starts : ∀ {digits : Str}, digits ≠ [] → isDigits digits = true →
      ∃ c rest, digits = c :: rest ∧ c ≠ '+' ∧ c ≠ '-' := by
    intro digits nonempty allDigits
    rcases List.exists_cons_of_ne_nil nonempty with ⟨c, rest, rfl⟩
    have plus := not_mem_of_isDigits (c := '+') allDigits (by decide)
    have minus := not_mem_of_isDigits (c := '-') allDigits (by decide)
    rw [List.mem_cons, not_or] at plus minus
    exact ⟨c, rest, rfl, Ne.symm plus.1, Ne.symm minus.1⟩
  cases numeral with
  | whole nonempty allDigits => exact starts nonempty allDigits
  | @point whole fraction nonempty allDigits _ _ =>
      rcases starts nonempty allDigits with ⟨c, rest, same, other⟩
      exact ⟨c, rest ++ '.' :: fraction, by rw [same, List.cons_append], other⟩

theorem readDecimal_eq {text : Str} {value : ℚ} (isDecimal : Decimal text value) :
    readDecimal text = some value := by
  cases isDecimal with
  | unsigned numeral =>
      rcases numeral.cons with ⟨c, rest, rfl, plus, minus⟩
      unfold readDecimal
      split
      · rename_i same
        exact absurd (List.head_eq_of_cons_eq same) plus
      · rename_i same
        exact absurd (List.head_eq_of_cons_eq same) minus
      · exact readNumeral_eq numeral
  | positive numeral => exact readNumeral_eq numeral
  | negative numeral =>
      rw [readDecimal, readNumeral_eq numeral]
      rfl

def decimalEnv : DeviceEnv where
  clock n := n
  fromIsoString _ := none
  lexicalCast := readDecimal

theorem convertsDecimals_decimalEnv : ConvertsDecimals decimalEnv :=
  fun _ _ isDecimal => readDecimal_eq isDecimal

/-- 48° 07.038′ S, 1° 31.5′ W, 22.4 -/
def samplePosition : Position where
  latitude := ⟨"48".toList, "07".toList, "038".toList, by decide, by decide, by decide, by decide,
    by decide⟩
  south := true
  longitude := ⟨"1".toList, "31".toList, "5".toList, by decide, by decide, by decide, by decide,
    by decide⟩
  west := true
  speedText := "22.4".toList
  speed := decimal "22".toList "4".toList
  speed_decimal := .unsigned
    (@Numeral.point "22".toList "4".toList (by decide) (by decide) (by decide) (by decide))

def positionFields : List Str :=
  ["imei:123456789012345".toList, "tracker".toList, [], "555".toList, ['F'], [], ['A'],
    "4807.038".toList, ['S'], "131.5".toList, ['W'], "22.4".toList, []]

theorem commandGpsData_samplePosition :
    commandGpsData decimalEnv positionFields {} =
      .ok ((({} : Shared).universalTime decimalEnv).2.record (.trackerEvent .data {
        imei := (positionFields.headD []).drop 5
        keyword := positionFields[1]?.getD []
        phone := positionFields[3]?.getD []
        trackerTime := none
        hostTime := some (({} : Shared).universalTime decimalEnv).1
        latitude := -samplePosition.latitude.value
        longitude := -samplePosition.longitude.value
        speed := samplePosition.speed
        valid := true })) := by
  have mark : imeiMark <+: positionFields.headD [] := ⟨"123456789012345".toList, by decide⟩
  have dated : trackerTime decimalEnv (positionFields[2]?.getD []) = .ok none := rfl
  exact @commandGpsData_position decimalEnv positionFields samplePosition
    convertsDecimals_decimalEnv (by decide) (by decide) mark rfl none dated (by decide) {}

end Device

end GpsInformer
