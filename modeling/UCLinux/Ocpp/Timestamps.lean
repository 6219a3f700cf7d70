import UCLinux.Machine.Calendar
import UCLinux.Machine.FixedWidth
import UCLinux.Ocpp.Numbers

/-!
The timestamps in the messages: a point in time is a count of nanoseconds in 64 bits, its
text that of RFC 3339. The offset of a text moves the clock it shows; a text is read with
the C library, which takes a clock for the local one of the machine. A text is read just
when it is a clock, whatever is skipped behind it, the part of a second and an offset.
-/

namespace UCLinux.Ocpp.Rfc3339

open Machine.Calendar Machine.FixedWidth Sql

section Program

def nanosInSecond : Nat := 1000000000

def nanosInMinute : Nat := 60 * nanosInSecond

def minutesInHour : Nat := 60

def minutesInDay : Nat := 60 * 24

def nanoSecondPrecision : Nat := 9

def utcIndicator : Text := "Z"

structure TimePoint where
  nanosSinceEpoch : BitVec 64
  deriving DecidableEq, Repr

/-- What is used of a `tm`, with the year and the month as they are written. -/
structure Tm where
  year : Nat
  month : Nat
  day : Nat
  hour : Nat
  minute : Nat
  second : Nat
  isdst : Int
  deriving DecidableEq, Repr

/-- The days from the first of January of the year one to the epoch. -/
def epochDay : Nat := 719162

/-- The seconds from the epoch to a clock in UTC. -/
def Tm.seconds (tm : Tm) : Int :=
  ((dayNumber tm.year tm.month tm.day : Int) - epochDay) * 86400 + tm.hour * 3600 +
    tm.minute * 60 + tm.second

def gmtime (seconds : Nat) : Tm where
  year := (dateOf (epochDay + seconds / 86400)).year
  month := (dateOf (epochDay + seconds / 86400)).month
  day := (dateOf (epochDay + seconds / 86400)).day
  hour := seconds % 86400 / 3600
  minute := seconds % 3600 / 60
  second := seconds % 60
  isdst := 0

/-- The local time of the machine, less than a day from UTC, and the time when a program is
asked for its time zone first. -/
structure Zone where
  localtime : Nat → Tm
  mktime : Tm → Int
  now : Nat
  localtime_near : ∀ seconds, (localtime seconds).seconds - seconds < 86400 ∧
    seconds - (localtime seconds).seconds < 86400
  mktime_near : ∀ tm, mktime tm - tm.seconds < 86400 ∧ tm.seconds - mktime tm < 86400

def Zone.timeZone (z : Zone) : Int := z.mktime (gmtime z.now) - z.mktime (z.localtime z.now)

/-- `[+-][0-9][0-9]:[0-9][0-9]` -/
def numOffsetRegex : List (Char → Bool) :=
  [(· ∈ ['+', '-']), Char.isDigit, Char.isDigit, (· = ':'), Char.isDigit, Char.isDigit]

/-- The minutes of an offset; `none` if it is none. -/
def calcTimeOffset (timeOffset : Text) : Option Int :=
  if timeOffset = utcIndicator then some 0
  else if strip numOffsetRegex timeOffset = some [] then
    (findLastOf [':'] timeOffset).bind fun pos =>
      let hourOffset := (timeOffset.drop 1).take pos
      let minuteOffset := timeOffset.drop (pos + 1)
      let offsetMinutes := str2Int hourOffset * minutesInHour + str2Int minuteOffset
      if offsetMinutes > minutesInDay then none
      else some (if timeOffset.head? = some '-' then -offsetMinutes else offsetMinutes)
  else none

/-- `%FT%T` -/
def putTime (tm : Tm) : Text :=
  Nat.toDigits 10 tm.year ++ '-' :: (padded 2 tm.month ++ '-' :: (padded 2 tm.day ++
    'T' :: (padded 2 tm.hour ++ ':' :: (padded 2 tm.minute ++ ':' :: padded 2 tm.second))))

/-- The loop over the digits behind the point. -/
def subsecondString : Nat → Nat → Nat → Text
  | 0, _, _ => []
  | digits + 1, inNanos, subsecond =>
    let val := subsecond / inNanos
    Char.ofNat ('0'.toNat + val) :: subsecondString digits (inNanos / 10) (subsecond - val * inNanos)

/-- The time point moved into the time zone. -/
def TimePoint.moved (tp : TimePoint) (offsetMinutes : Int) : TimePoint :=
  ⟨tp.nanosSinceEpoch + BitVec.ofInt 64 (offsetMinutes * nanosInMinute)⟩

def toString (tp : TimePoint) (subsecondPrecision : Int) (timeOffset : Text) :
    Except Text Text :=
  match calcTimeOffset timeOffset with
  | none => .error ("rfc3339::to_string - Parsing of time offset failed: " ++ timeOffset)
  | some offsetMinutes =>
    let nanos := (tp.moved offsetMinutes).nanosSinceEpoch.toNat
    let precision := (min (max subsecondPrecision 0) nanoSecondPrecision).toNat
    let seconds := nanos / nanosInSecond
    let subseconds := if precision = 0 then [] else
      '.' :: subsecondString precision (nanosInSecond / 10) (nanos - seconds * nanosInSecond)
    .ok (putTime (gmtime seconds) ++ (subseconds ++ timeOffset))

/-- The front of `[12][0-9][0-9][0-9]-[01][0-9]-[0-3][0-9]T[0-9][0-9]:[0-9][0-9]:[0-9][0-9].*` -/
def rfcCheckRegex : List (Char → Bool) :=
  [(· ∈ ['1', '2']), Char.isDigit, Char.isDigit, Char.isDigit, (· = '-'),
    (· ∈ ['0', '1']), Char.isDigit, (· = '-'), (· ∈ ['0', '1', '2', '3']), Char.isDigit,
    (· = 'T'), Char.isDigit, Char.isDigit, (· = ':'), Char.isDigit, Char.isDigit, (· = ':'),
    Char.isDigit, Char.isDigit]

/-- A dot stands for any character that does not end a line. -/
def regexMatch (input : Text) : Bool :=
  (strip rfcCheckRegex input).any fun rest => '\n' ∉ rest ∧ '\r' ∉ rest

/-- Reads the offset behind the last sign and cuts it off. -/
def takeOffset (input : Text) : Except Text (Int × Text) :=
  match findLastOf ['+', '-', 'Z'] input with
  | none => .ok (0, input)
  | some pos =>
    match calcTimeOffset (input.drop pos) with
    | none => .error ("For input " ++ input ++ ", parsing of time offset failed: " ++
        input.drop pos)
    | some offsetMinutes => .ok (offsetMinutes, input.take pos)

/-- The loop over the digits read; `none` if one is not a digit. -/
def subsecondNanos : Nat → Nat → Text → Option Nat
  | _, nanos, [] => some nanos
  | inNanos, nanos, c :: subseconds =>
    if c.isDigit then
      subsecondNanos (inNanos / 10) (nanos + (c.toNat - '0'.toNat) * inNanos) subseconds
    else none

/-- Reads what is behind the first point and cuts it off. -/
def takeSubseconds (input : Text) : Except Text (Nat × Text) :=
  match findFirstOf ['.'] input with
  | none => .ok (0, input)
  | some pos =>
    let subseconds := input.drop (pos + 1)
    if subseconds.length > nanoSecondPrecision then
      .error ("For input " ++ input ++ ", parsing of subsecond value failed: " ++ subseconds)
    else
      match subsecondNanos (nanosInSecond / 10) 0 subseconds with
      | none => .error ("For input " ++ input ++
          ",  invalid character detected in subsecond value : " ++ subseconds)
      | some nanos => .ok (nanos, input.take pos)

/-- A number of `get_time`: its digits, all there, and within its bounds. -/
def getNumber (width low high : Nat) (text : Text) : Option (Nat × Text) :=
  let digits := text.take width
  if digits.length = width ∧ digits.all Char.isDigit ∧ low ≤ value digits ∧ value digits ≤ high then
    some (value digits, text.drop width)
  else none

def getChar (c : Char) : Text → Option Text
  | [] => none
  | d :: text => if d = c then some text else none

/-- `%Y-%m-%dT%H:%M:%S`, of a text with all its digits; what follows is left in the stream. -/
def getTime (input : Text) : Option Tm :=
  (getNumber 4 0 9999 input).bind fun (year, input) =>
  (getChar '-' input).bind fun input =>
  (getNumber 2 1 12 input).bind fun (month, input) =>
  (getChar '-' input).bind fun input =>
  (getNumber 2 1 31 input).bind fun (day, input) =>
  (getChar 'T' input).bind fun input =>
  (getNumber 2 0 23 input).bind fun (hour, input) =>
  (getChar ':' input).bind fun input =>
  (getNumber 2 0 59 input).bind fun (minute, input) =>
  (getChar ':' input).bind fun input =>
  (getNumber 2 0 60 input).map fun (second, _) => ⟨year, month, day, hour, minute, second, -1⟩

def fromString (z : Zone) (input : Text) : Except Text TimePoint :=
  if ¬regexMatch input then .error ("For input " ++ input ++ ": invalid rfc formatting")
  else
    (takeOffset input).bind fun (offsetMinutes, input) =>
    (takeSubseconds input).bind fun (nanos, input) =>
    match getTime input with
    | none => .error ("For input " ++ input ++ ", parsing time failed: " ++ input)
    | some tm =>
      let seconds := z.mktime tm - z.timeZone
      .ok ⟨BitVec.ofInt 64 (seconds * nanosInSecond + nanos - offsetMinutes * nanosInMinute)⟩

/-- `schema_data_time`: the value of a field, and its text. -/
def setMillis (ms : Int) : TimePoint := ⟨BitVec.ofInt 64 (ms * 1000000)⟩

def saveMinimal (value : TimePoint) : Except Text Text := toString value 3 utcIndicator

def loadMinimal (z : Zone) (value : Text) : Except Text TimePoint := fromString z value

end Program

section Purpose

/-- A clock as it is written. -/
def Tm.text (tm : Tm) : Text :=
  padded 4 tm.year ++ '-' :: (padded 2 tm.month ++ '-' :: (padded 2 tm.day ++
    'T' :: (padded 2 tm.hour ++ ':' :: (padded 2 tm.minute ++ ':' :: padded 2 tm.second))))

/-- The fields a clock may show; a month is not asked for its days. -/
structure Tm.InRange (tm : Tm) : Prop where
  year : tm.year ≤ 9999
  month : 1 ≤ tm.month ∧ tm.month ≤ 12
  day : 1 ≤ tm.day ∧ tm.day ≤ 31
  hour : tm.hour ≤ 23
  minute : tm.minute ≤ 59
  second : tm.second ≤ 60

/-- The offsets, up to a day to the east or to the west, and their minutes. -/
inductive IsOffset : Text → Int → Prop where
  | utc : IsOffset "Z" 0
  | east {hours minutes : Nat} (hhours : hours < 100) (hminutes : minutes < 100)
      (hday : hours * 60 + minutes ≤ 1440) :
      IsOffset ('+' :: (padded 2 hours ++ ':' :: padded 2 minutes)) (hours * 60 + minutes)
  | west {hours minutes : Nat} (hhours : hours < 100) (hminutes : minutes < 100)
      (hday : hours * 60 + minutes ≤ 1440) :
      IsOffset ('-' :: (padded 2 hours ++ ':' :: padded 2 minutes)) (-(hours * 60 + minutes))

/-- What may stand for the part of a second, and its nanoseconds. -/
inductive IsFraction : Text → Nat → Prop where
  | none : IsFraction [] 0
  | digits {ds : Text} (hdigits : ∀ c ∈ ds, c.isDigit) (hlength : ds.length ≤ 9) :
      IsFraction ('.' :: ds) (value ds * 10 ^ (9 - ds.length))

/-- The texts that are read: a clock of the second or the third millennium, characters that
are skipped, the part of a second and the offset. -/
inductive Reads : Text → Tm → Nat → Int → Prop where
  | intro {tm : Tm} {skipped fraction off : Text} {nanos : Nat} {minutes : Int}
      (hrange : tm.InRange) (hyear : 1000 ≤ tm.year ∧ tm.year < 3000) (hisdst : tm.isdst = -1)
      (hskipped : ∀ c ∈ skipped, c ∉ ['.', '\n', '\r']) (hfraction : IsFraction fraction nanos)
      (hoff : IsOffset off minutes) :
      Reads (tm.text ++ (skipped ++ (fraction ++ off))) tm nanos minutes

/-- The point in time of what was read. -/
def Zone.timePoint (z : Zone) (tm : Tm) (nanos : Nat) (minutes : Int) : TimePoint :=
  ⟨BitVec.ofInt 64 ((z.mktime tm - z.timeZone) * nanosInSecond + nanos - minutes * nanosInMinute)⟩

end Purpose

section Offsets

variable {timeOffset : Text} {n : Int}

theorem leadingNumber_padded {width m : Nat} (hpos : 0 < width) (hm : m < 10 ^ width) :
    leadingNumber (padded width m) = some (m : Int) := by
  have hdigits := isDigit_padded width m
  have hdecimal : Decimal (padded width m) :=
    ⟨List.ne_nil_of_length_pos (by rwa [length_padded]), hdigits⟩
  have hvalue : digitsValue (padded width m) = m := by
    rw [digitsValue_eq hdigits]
    exact congrArg Nat.cast (value_padded_of_lt hm)
  have hnumber := numberOf_decimal hdecimal
  have hread := leadingNumber_spaced (a := []) (b := []) (by simpa using hdecimal.noNul)
    (by simp) hnumber (by simp)
  rwa [List.nil_append, List.append_nil, hvalue] at hread

theorem str2Int_of_leadingNumber {t : Text} {m : Nat} (h : leadingNumber t = some (m : Int))
    (hm : m < 100) : str2Int t = m := by
  unfold str2Int
  rw [h, Option.getD_some, wrap32_of_range (by omega)]
  omega

theorem strip_numOffset_iff :
    strip numOffsetRegex timeOffset = some [] ↔
      ∃ sign hours minutes, (sign = '+' ∨ sign = '-') ∧ hours < 100 ∧ minutes < 100 ∧
        timeOffset = sign :: (padded 2 hours ++ ':' :: padded 2 minutes) := by
  rw [strip_eq_some_iff]
  unfold numOffsetRegex
  constructor
  · rintro ⟨front, rfl, hfront⟩
    simp only [List.forall₂_cons_left_iff, List.forall₂_nil_left_iff] at hfront
    obtain ⟨sign, _, hsign, ⟨a, _, ha, ⟨b, _, hb, ⟨colon, _, hcolon, ⟨c, _, hc, ⟨d, _, hd, rfl,
      rfl⟩, rfl⟩, rfl⟩, rfl⟩, rfl⟩, rfl⟩ := hfront
    have hhours : ∀ x ∈ [a, b], x.isDigit := by simp [ha, hb]
    have hminutes : ∀ x ∈ [c, d], x.isDigit := by simp [hc, hd]
    have hpaddedHours : padded 2 (value [a, b]) = [a, b] := padded_value hhours
    have hpaddedMinutes : padded 2 (value [c, d]) = [c, d] := padded_value hminutes
    refine ⟨sign, value [a, b], value [c, d], by simpa using hsign, value_lt hhours,
      value_lt hminutes, ?_⟩
    rw [hpaddedHours, hpaddedMinutes, ← of_decide_eq_true hcolon]
    rfl
  · rintro ⟨sign, hours, minutes, hsign, hhours, hminutes, rfl⟩
    refine ⟨_, (List.append_nil _).symm, ?_⟩
    have hdigitsHours := isDigit_padded 2 hours
    have hdigitsMinutes := isDigit_padded 2 minutes
    simp only [padded, List.nil_append, List.cons_append, List.mem_cons, List.not_mem_nil, or_false,
      forall_eq_or_imp, forall_eq] at hdigitsHours hdigitsMinutes
    simp [padded, hsign, hdigitsHours, hdigitsMinutes]

theorem calcTimeOffset_numeric {sign : Char} {hours minutes : Nat} (hsign : sign = '+' ∨ sign = '-')
    (hhours : hours < 100) (hminutes : minutes < 100) :
    calcTimeOffset (sign :: (padded 2 hours ++ ':' :: padded 2 minutes)) =
      if 1440 < hours * 60 + minutes then none
      else some (if sign = '-' then -(hours * 60 + minutes : Int) else hours * 60 + minutes) := by
  have hstrip := strip_numOffset_iff.mpr ⟨sign, hours, minutes, hsign, hhours, hminutes, rfl⟩
  have hutc : sign :: (padded 2 hours ++ ':' :: padded 2 minutes) ≠ utcIndicator := by
    intro heq
    simpa [padded, utcIndicator] using congrArg List.length heq
  have hcolon : findLastOf [':'] (sign :: (padded 2 hours ++ ':' :: padded 2 minutes)) = some 3 := by
    have hnone : ∀ d ∈ padded 2 minutes, d ∉ [':'] := fun d hd hmem =>
      absurd (List.mem_singleton.mp hmem ▸ hd) (not_mem_padded (by decide) 2 minutes)
    have hpos := findLastOf_append (a := sign :: padded 2 hours) (List.mem_singleton_self ':') hnone
    simpa using hpos
  have hread : str2Int (padded 2 hours ++ [':']) = hours :=
    str2Int_of_leadingNumber ((leadingNumber_stop
      ⟨by decide, by decide, by decide, by decide, by decide⟩ _ []).trans
        (leadingNumber_padded (by decide) hhours)) hhours
  have hread' : str2Int (padded 2 minutes) = minutes :=
    str2Int_of_leadingNumber (leadingNumber_padded (by decide) hminutes) hminutes
  unfold calcTimeOffset
  rw [if_neg hutc, if_pos hstrip, hcolon, Option.bind_some]
  have hhour : ((sign :: (padded 2 hours ++ ':' :: padded 2 minutes)).drop 1).take 3 =
      padded 2 hours ++ [':'] := rfl
  have hminute : (sign :: (padded 2 hours ++ ':' :: padded 2 minutes)).drop (3 + 1) =
      padded 2 minutes := rfl
  have hhead : (sign :: (padded 2 hours ++ ':' :: padded 2 minutes)).head? = some '-' ↔ sign = '-' := by
    simp
  have hlong : (hours : Int) * minutesInHour + minutes > minutesInDay ↔ 1440 < hours * 60 + minutes := by
    unfold minutesInHour minutesInDay
    omega
  simp only [hhour, hminute, hread, hread', hhead, hlong]
  rfl

theorem calcTimeOffset_eq_some_iff :
    calcTimeOffset timeOffset = some n ↔ IsOffset timeOffset n := by
  constructor
  · intro h
    by_cases hutc : timeOffset = utcIndicator
    · subst hutc
      obtain rfl := Option.some.inj h
      exact .utc
    · by_cases hstrip : strip numOffsetRegex timeOffset = some []
      · obtain ⟨sign, hours, minutes, hsign, hhours, hminutes, rfl⟩ :=
          strip_numOffset_iff.mp hstrip
        rw [calcTimeOffset_numeric hsign hhours hminutes] at h
        by_cases hlong : 1440 < hours * 60 + minutes
        · rw [if_pos hlong] at h
          cases h
        · rw [if_neg hlong, Option.some.injEq] at h
          subst h
          rcases hsign with rfl | rfl
          · exact .east hhours hminutes (Nat.le_of_not_lt hlong)
          · exact .west hhours hminutes (Nat.le_of_not_lt hlong)
      · have hnone : calcTimeOffset timeOffset = none :=
          (if_neg hutc).trans (if_neg hstrip)
        rw [hnone] at h
        cases h
  · intro h
    cases h with
    | utc => rfl
    | east hhours hminutes hday =>
      rw [calcTimeOffset_numeric (.inl rfl) hhours hminutes, if_neg (Nat.not_lt.mpr hday)]
      rfl
    | west hhours hminutes hday =>
      rw [calcTimeOffset_numeric (.inr rfl) hhours hminutes, if_neg (Nat.not_lt.mpr hday)]
      rfl

end Offsets

section Reading

variable {z : Zone} {input rest : Text} {tm : Tm} {n : Int} {nanos : Nat}

theorem getNumber_eq_some_iff {width low high m : Nat} (hhigh : high < 10 ^ width) :
    getNumber width low high input = some (m, rest) ↔
      input = padded width m ++ rest ∧ low ≤ m ∧ m ≤ high := by
  unfold getNumber
  dsimp only
  constructor
  · intro h
    split at h
    · next hdigits =>
      obtain ⟨hlength, hall, hlow, hle⟩ := hdigits
      obtain ⟨rfl, rfl⟩ := Prod.mk.inj (Option.some.inj h)
      have hpadded := padded_value (List.all_eq_true.mp hall)
      rw [hlength] at hpadded
      exact ⟨by rw [hpadded, List.take_append_drop], hlow, hle⟩
    · cases h
  · rintro ⟨rfl, hlow, hle⟩
    have htake : (padded width m ++ rest).take width = padded width m :=
      List.take_left' (length_padded width m)
    have hdrop : (padded width m ++ rest).drop width = rest :=
      List.drop_left' (length_padded width m)
    have hvalue : value (padded width m) = m := value_padded_of_lt (by omega)
    have hall : (padded width m).all Char.isDigit := List.all_eq_true.mpr (isDigit_padded width m)
    rw [htake, hdrop, hvalue, if_pos ⟨length_padded width m, hall, hlow, hle⟩]

theorem getChar_eq_some_iff {c : Char} : getChar c input = some rest ↔ input = c :: rest := by
  cases input with
  | nil => simp [getChar]
  | cons d input =>
    unfold getChar
    by_cases hd : d = c
    · simp [hd]
    · simp [hd]

/-- A number in its bounds is read from its digits. -/
theorem getNumber_padded {width low high m : Nat} (hhigh : high < 10 ^ width) (hlow : low ≤ m)
    (hle : m ≤ high) (rest : Text) :
    getNumber width low high (padded width m ++ rest) = some (m, rest) :=
  (getNumber_eq_some_iff hhigh).mpr ⟨rfl, hlow, hle⟩

theorem getTime_text (hrange : tm.InRange) (hisdst : tm.isdst = -1) (rest : Text) :
    getTime (tm.text ++ rest) = some tm := by
  unfold getTime Tm.text
  simp only [List.append_assoc, List.cons_append, Option.bind_some, Option.map_some, getChar, if_true,
    getNumber_padded (by decide : 9999 < 10 ^ 4) (Nat.zero_le _) hrange.year,
    getNumber_padded (by decide : 12 < 10 ^ 2) hrange.month.1 hrange.month.2,
    getNumber_padded (by decide : 31 < 10 ^ 2) hrange.day.1 hrange.day.2,
    getNumber_padded (by decide : 23 < 10 ^ 2) (Nat.zero_le _) hrange.hour,
    getNumber_padded (by decide : 59 < 10 ^ 2) (Nat.zero_le _) hrange.minute,
    getNumber_padded (by decide : 60 < 10 ^ 2) (Nat.zero_le _) hrange.second]
  rw [← hisdst]

theorem getTime_eq_some_iff :
    getTime input = some tm ↔ tm.InRange ∧ tm.isdst = -1 ∧ ∃ rest, input = tm.text ++ rest := by
  constructor
  · intro h
    unfold getTime at h
    simp only [Option.bind_eq_some_iff, Option.map_eq_some_iff, Prod.exists,
      getChar_eq_some_iff] at h
    obtain ⟨year, _, ryear, _, rfl, month, _, rmonth, _, rfl, day, _, rday, _, rfl, hour, _, rhour,
      _, rfl, minute, _, rminute, _, rfl, second, rest, rsecond, rfl⟩ := h
    obtain ⟨rfl, -, hyear⟩ := (getNumber_eq_some_iff (by decide)).mp ryear
    obtain ⟨rfl, hmonth⟩ := (getNumber_eq_some_iff (by decide)).mp rmonth
    obtain ⟨rfl, hday⟩ := (getNumber_eq_some_iff (by decide)).mp rday
    obtain ⟨rfl, -, hhour⟩ := (getNumber_eq_some_iff (by decide)).mp rhour
    obtain ⟨rfl, -, hminute⟩ := (getNumber_eq_some_iff (by decide)).mp rminute
    obtain ⟨rfl, -, hsecond⟩ := (getNumber_eq_some_iff (by decide)).mp rsecond
    exact ⟨⟨hyear, hmonth, hday, hhour, hminute, hsecond⟩, rfl, rest, by simp [Tm.text]⟩
  · rintro ⟨hrange, hisdst, rest, rfl⟩
    exact getTime_text hrange hisdst rest

theorem signs_not_mem_padded (width m : Nat) : ∀ d ∈ padded width m, d ∉ ['+', '-', 'Z'] := by
  intro d hd hmem
  have hdigit := isDigit_padded width m d hd
  simp only [List.mem_cons, List.not_mem_nil, or_false] at hmem
  rcases hmem with rfl | rfl | rfl <;> exact absurd hdigit (by decide)

/-- An offset starts with its only sign. -/
theorem IsOffset.sign {off : Text} (h : IsOffset off n) :
    ∃ c b, off = c :: b ∧ c ∈ ['+', '-', 'Z'] ∧ ∀ d ∈ b, d ∉ ['+', '-', 'Z'] := by
  have hnumeric (hours minutes : Nat) :
      ∀ d ∈ padded 2 hours ++ ':' :: padded 2 minutes, d ∉ ['+', '-', 'Z'] := by
    intro d hd
    rcases List.mem_append.mp hd with hd | hd
    · exact signs_not_mem_padded 2 hours d hd
    · rcases List.mem_cons.mp hd with rfl | hd
      · decide
      · exact signs_not_mem_padded 2 minutes d hd
  cases h with
  | utc => exact ⟨'Z', [], rfl, by decide, by simp⟩
  | east => exact ⟨'+', _, rfl, by decide, hnumeric _ _⟩
  | west => exact ⟨'-', _, rfl, by decide, hnumeric _ _⟩

theorem takeOffset_ok_iff {front : Text} :
    takeOffset input = .ok (n, front) ↔
      (∃ off, input = front ++ off ∧ IsOffset off n) ∨
      (∀ d ∈ input, d ∉ ['+', '-', 'Z']) ∧ n = 0 ∧ front = input := by
  unfold takeOffset
  cases hpos : findLastOf ['+', '-', 'Z'] input with
  | none =>
    have hnone := findLastOf_eq_none_iff.mp hpos
    dsimp only
    constructor
    · intro h
      obtain ⟨rfl, rfl⟩ := Prod.mk.inj (Except.ok.inj h)
      exact .inr ⟨hnone, rfl, rfl⟩
    · rintro (⟨off, rfl, hoff⟩ | ⟨-, rfl, rfl⟩)
      · obtain ⟨c, b, rfl, hc, -⟩ := hoff.sign
        exact absurd hc (hnone c (by simp))
      · rfl
  | some pos =>
    obtain ⟨a, c, b, rfl, rfl, hc, hb⟩ := findLastOf_split hpos
    dsimp only
    rw [List.drop_left, List.take_left]
    constructor
    · intro h
      cases hoff : calcTimeOffset (c :: b) with
      | none =>
        rw [hoff] at h
        cases h
      | some m =>
        rw [hoff] at h
        obtain ⟨rfl, rfl⟩ := Prod.mk.inj (Except.ok.inj h)
        exact .inl ⟨c :: b, rfl, calcTimeOffset_eq_some_iff.mp hoff⟩
    · rintro (⟨off, heq, hoff⟩ | ⟨hnone, -⟩)
      · obtain ⟨c', b', rfl, hc', hb'⟩ := hoff.sign
        have hlast := findLastOf_append (a := front) hc' hb'
        rw [← heq, hpos, Option.some.injEq] at hlast
        obtain ⟨rfl, hrest⟩ := List.append_inj heq hlast
        rw [hrest, calcTimeOffset_eq_some_iff.mpr hoff]
      · exact absurd hc (hnone c (by simp))

/-- The digits behind the point count in powers of ten that fall from the first on. -/
theorem subsecondNanos_eq_some_iff {k m start : Nat} {ds : Text} (hlength : ds.length ≤ k) :
    subsecondNanos (10 ^ k / 10) start ds = some m ↔
      (∀ c ∈ ds, c.isDigit) ∧ m = start + value ds * 10 ^ (k - ds.length) := by
  induction ds generalizing k start with
  | nil =>
    have hread : subsecondNanos (10 ^ k / 10) start [] = some start := by
      unfold subsecondNanos
      rfl
    rw [hread, Option.some.injEq, value_nil, Nat.zero_mul, Nat.add_zero]
    exact ⟨fun h => ⟨fun c hc => absurd hc List.not_mem_nil, h.symm⟩, fun h => h.2.symm⟩
  | cons c ds ih =>
    obtain ⟨k, rfl⟩ : ∃ j, k = j + 1 := ⟨k - 1, by rw [List.length_cons] at hlength; omega⟩
    have hle : ds.length ≤ k := by simpa using hlength
    have hpow : 10 ^ (k + 1) / 10 = 10 ^ k := by
      rw [Nat.pow_succ, Nat.mul_div_cancel _ (by decide)]
    have hsplit : 10 ^ ds.length * 10 ^ (k - ds.length) = 10 ^ k := by
      rw [← Nat.pow_add, Nat.add_sub_cancel' hle]
    have hrest : k + 1 - (ds.length + 1) = k - ds.length := by omega
    unfold subsecondNanos
    rw [hpow, List.forall_mem_cons, value_cons, List.length_cons, hrest]
    by_cases hc : c.isDigit
    · rw [if_pos hc, ih hle, Nat.add_mul, Nat.mul_assoc, hsplit, Nat.add_assoc]
      simp [hc]
    · rw [if_neg hc]
      simp [hc]

theorem takeSubseconds_ok_iff {front : Text} :
    takeSubseconds input = .ok (nanos, front) ↔
      ∃ fraction, input = front ++ fraction ∧ '.' ∉ front ∧ IsFraction fraction nanos := by
  unfold takeSubseconds
  cases hpos : findFirstOf ['.'] input with
  | none =>
    have hnone : '.' ∉ input := fun hmem =>
      findFirstOf_eq_none_iff.mp hpos '.' hmem List.mem_cons_self
    constructor
    · intro h
      obtain ⟨rfl, rfl⟩ := Prod.mk.inj (Except.ok.inj h)
      exact ⟨[], (List.append_nil _).symm, hnone, .none⟩
    · rintro ⟨fraction, rfl, -, hfraction⟩
      cases hfraction with
      | none => rw [List.append_nil]
      | digits => exact absurd (by simp) hnone
  | some pos =>
    obtain ⟨a, c, b, rfl, rfl, hc, ha⟩ := findFirstOf_split hpos
    obtain rfl := List.mem_singleton.mp hc
    have ha' : '.' ∉ a := fun hmem => ha '.' hmem List.mem_cons_self
    have hdrop : (a ++ '.' :: b).drop (a.length + 1) = b := by
      rw [← List.drop_drop, List.drop_left]
      rfl
    have hread {m : Nat} (hlength : b.length ≤ 9) :
        subsecondNanos (10 ^ 9 / 10) 0 b = some m ↔
          (∀ c ∈ b, c.isDigit) ∧ m = 0 + value b * 10 ^ (9 - b.length) :=
      subsecondNanos_eq_some_iff hlength
    dsimp only
    rw [hdrop, List.take_left]
    constructor
    · intro h
      by_cases hlong : b.length > nanoSecondPrecision
      · rw [if_pos hlong] at h
        cases h
      · rw [if_neg hlong] at h
        have hlength : b.length ≤ 9 := Nat.le_of_not_lt hlong
        cases hsub : subsecondNanos (nanosInSecond / 10) 0 b with
        | none =>
          rw [hsub] at h
          cases h
        | some m =>
          rw [hsub] at h
          obtain ⟨rfl, rfl⟩ := Prod.mk.inj (Except.ok.inj h)
          obtain ⟨hdigits, rfl⟩ := (hread hlength).mp hsub
          rw [Nat.zero_add]
          exact ⟨_, rfl, ha', .digits hdigits hlength⟩
    · rintro ⟨fraction, heq, hfront, hfraction⟩
      cases hfraction with
      | none =>
        rw [List.append_nil] at heq
        exact absurd (heq ▸ by simp) hfront
      | @digits ds hdigits hlength =>
        have hunpointed : ∀ d ∈ front, d ∉ ['.'] := fun d hd hmem =>
          hfront (List.mem_singleton.mp hmem ▸ hd)
        have hfirst := findFirstOf_append (b := ds) hc hunpointed
        rw [← heq, hpos, Option.some.injEq] at hfirst
        obtain ⟨rfl, hrest⟩ := List.append_inj heq hfirst
        obtain rfl := (List.cons.inj hrest).2
        have hsub := (hread hlength).mpr ⟨hdigits, rfl⟩
        rw [Nat.zero_add] at hsub
        have hshort : ¬b.length > nanoSecondPrecision := Nat.not_lt.mpr hlength
        have hnanos : nanosInSecond / 10 = 10 ^ 9 / 10 := rfl
        rw [if_neg hshort, hnanos, hsub]

/-- The characters of a clock are of the classes asked for if the year is one of the
second or the third millennium. -/
theorem classes_text_iff (hrange : tm.InRange) :
    List.Forall₂ (fun p c => p c = true) rfcCheckRegex tm.text ↔
      1000 ≤ tm.year ∧ tm.year < 3000 := by
  have hyear := hrange.year
  have hmonth := hrange.month
  have hday := hrange.day
  unfold rfcCheckRegex Tm.text
  simp [padded, Nat.isDigit_digitChar, Nat.mod_lt]
  omega

/-- The years a clock in range may show, and nothing behind it that ends a line. -/
theorem regexMatch_text_iff (hrange : tm.InRange) :
    regexMatch (tm.text ++ rest) = true ↔
      (1000 ≤ tm.year ∧ tm.year < 3000) ∧ '\n' ∉ rest ∧ '\r' ∉ rest := by
  have hlength : tm.text.length = rfcCheckRegex.length := by simp [Tm.text, rfcCheckRegex]
  rw [← classes_text_iff hrange]
  unfold regexMatch
  rw [Option.any_eq_true]
  constructor
  · rintro ⟨r, hstrip, hline⟩
    obtain ⟨hclasses, rfl⟩ := (strip_append_iff hlength).mp hstrip
    exact ⟨hclasses, of_decide_eq_true hline⟩
  · rintro ⟨hclasses, hline⟩
    exact ⟨rest, (strip_append_iff hlength).mpr ⟨hclasses, rfl⟩, decide_eq_true hline⟩

theorem IsOffset.no_line_end {off : Text} (h : IsOffset off n) : '\n' ∉ off ∧ '\r' ∉ off := by
  cases h with
  | utc => decide
  | east => simp [not_mem_padded]
  | west => simp [not_mem_padded]

theorem IsFraction.no_line_end {fraction : Text} (h : IsFraction fraction nanos) :
    '\n' ∉ fraction ∧ '\r' ∉ fraction := by
  cases h with
  | none => simp
  | digits hdigits =>
    refine ⟨fun hmem => ?_, fun hmem => ?_⟩
    · rcases List.mem_cons.mp hmem with heq | hmem
      · exact absurd heq (by decide)
      · exact absurd (hdigits _ hmem) (by decide)
    · rcases List.mem_cons.mp hmem with heq | hmem
      · exact absurd heq (by decide)
      · exact absurd (hdigits _ hmem) (by decide)

/-- A clock holds dashes, so an offset is always looked for. -/
theorem dash_mem_text (tm : Tm) : '-' ∈ tm.text := by simp [Tm.text]

theorem point_not_mem_text (tm : Tm) : '.' ∉ tm.text := by simp [Tm.text, not_mem_padded]

theorem bind_ok_iff {α β : Type} {x : Except Text α} {f : α → Except Text β} {b : β} :
    x.bind f = .ok b ↔ ∃ a, x = .ok a ∧ f a = .ok b := by
  cases x with
  | error e => simp [Except.bind]
  | ok a => simp [Except.bind]

/-- The steps of a reading that succeeds. -/
theorem fromString_steps {tp : TimePoint} :
    fromString z input = .ok tp ↔
      regexMatch input = true ∧ ∃ minutes front, takeOffset input = .ok (minutes, front) ∧
        ∃ nanos clock, takeSubseconds front = .ok (nanos, clock) ∧
          ∃ tm, getTime clock = some tm ∧ tp = z.timePoint tm nanos minutes := by
  have htime (minutes : Int) (nanos : Nat) (clock : Text) :
      ((match getTime clock with
        | none => .error ("For input " ++ clock ++ ", parsing time failed: " ++ clock)
        | some tm => .ok (z.timePoint tm nanos minutes) : Except Text TimePoint) = .ok tp) ↔
        ∃ tm, getTime clock = some tm ∧ tp = z.timePoint tm nanos minutes := by
    cases getTime clock with
    | none => simp
    | some tm => simp [eq_comm]
  unfold fromString
  by_cases hmatch : regexMatch input
  · rw [if_neg (not_not.mpr hmatch), bind_ok_iff, Prod.exists]
    simp only [hmatch, true_and, bind_ok_iff, Prod.exists]
    exact exists_congr fun minutes => exists_congr fun front => and_congr_right fun _ =>
      exists_congr fun nanos => exists_congr fun clock => and_congr_right fun _ =>
        htime minutes nanos clock
  · rw [if_pos hmatch]
    simp [hmatch]

/-- What is read, and as which point in time. -/
theorem fromString_ok_iff (z : Zone) (input : Text) (tp : TimePoint) :
    fromString z input = .ok tp ↔
      ∃ tm nanos minutes, Reads input tm nanos minutes ∧ tp = z.timePoint tm nanos minutes := by
  rw [fromString_steps]
  constructor
  · rintro ⟨hmatch, minutes, front, hoffset, nanos, clock, hsub, tm, htime, rfl⟩
    refine ⟨tm, nanos, minutes, ?_, rfl⟩
    obtain ⟨fraction, rfl, hpoint, hfraction⟩ := takeSubseconds_ok_iff.mp hsub
    obtain ⟨hrange, hisdst, skipped, rfl⟩ := getTime_eq_some_iff.mp htime
    rcases takeOffset_ok_iff.mp hoffset with ⟨off, rfl, hoff⟩ | ⟨hnone, -, rfl⟩
    · rw [List.append_assoc, List.append_assoc] at hmatch ⊢
      obtain ⟨hyear, hline⟩ := (regexMatch_text_iff hrange).mp hmatch
      refine .intro hrange hyear hisdst (fun c hc hmem => ?_) hfraction hoff
      simp only [List.mem_cons, List.not_mem_nil, or_false] at hmem
      rcases hmem with rfl | rfl | rfl
      · exact hpoint (List.mem_append_right _ hc)
      · exact hline.1 (List.mem_append_left _ hc)
      · exact hline.2 (List.mem_append_left _ hc)
    · refine absurd (List.mem_cons_of_mem _ List.mem_cons_self) (hnone '-' ?_)
      exact List.mem_append_left _ (List.mem_append_left _ (dash_mem_text tm))
  · rintro ⟨tm, nanos, minutes, hreads, rfl⟩
    cases hreads with
    | @intro _ skipped fraction off _ _ hrange hyear hisdst hskipped hfraction hoff =>
      have hpoint : '.' ∉ tm.text ++ skipped := by
        intro hmem
        rcases List.mem_append.mp hmem with hmem | hmem
        · exact point_not_mem_text tm hmem
        · exact hskipped '.' hmem (by simp)
      have hline : '\n' ∉ skipped ++ (fraction ++ off) ∧ '\r' ∉ skipped ++ (fraction ++ off) := by
        simp only [List.mem_append, not_or]
        exact ⟨⟨fun hmem => hskipped _ hmem (by simp), hfraction.no_line_end.1, hoff.no_line_end.1⟩,
          fun hmem => hskipped _ hmem (by simp), hfraction.no_line_end.2, hoff.no_line_end.2⟩
      refine ⟨(regexMatch_text_iff hrange).mpr ⟨hyear, hline⟩, minutes, tm.text ++ skipped ++ fraction,
        takeOffset_ok_iff.mpr (.inl ⟨off, by simp, hoff⟩), nanos, tm.text ++ skipped,
        takeSubseconds_ok_iff.mpr ⟨fraction, rfl, hpoint, hfraction⟩, tm,
        getTime_text hrange hisdst skipped, rfl⟩

end Reading

end UCLinux.Ocpp.Rfc3339
