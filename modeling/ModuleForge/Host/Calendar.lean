import ModuleForge.Power
import ModuleForge.Text.Bytes

/-!
# Points in time

A point in time is a number of nanoseconds since the beginning of 1970. `Moment` is the same as a
date and a time of day, `Moment.format` writes it by a pattern, and `Moment.read?` reads what people
write for one. All times are those of the zone without an offset.
-/
namespace ModuleForge.Host

structure Moment where
  year : Int
  month : Nat
  day : Nat
  hour : Nat
  minute : Nat
  second : Nat
  nanos : Nat
  /-- Days since Sunday. -/
  weekday : Nat
  /-- Days since the beginning of the year. -/
  yearday : Nat
  deriving Repr, DecidableEq

namespace Moment

def isLeap (year : Int) : Bool := year % 4 == 0 && (year % 100 != 0 || year % 400 == 0)

/-- The number of days from the beginning of 1970 to a day; the month may be any, also outside of
the year. -/
def dayNumber (year : Int) (month day : Int) : Int :=
  let year := year + (month - 1) / 12
  let month := (month - 1) % 12 + 1
  -- the year begins in March, so that its last day is the one that may be missing
  let y := if month ≤ 2 then year - 1 else year
  let m := (month + 9) % 12
  365 * y + y / 4 - y / 100 + y / 400 + (153 * m + 2) / 5 + day - 1 - 719468

def daysInMonth (year : Int) (month : Nat) : Nat :=
  (dayNumber year (month + 1) 1 - dayNumber year month 1).toNat

/-- The year, month and day of a day number. -/
def ofDayNumber (n : Int) : Int × Nat × Nat :=
  let z := n + 719468
  let era := z / 146097
  let dayOfEra := z - era * 146097
  let yearOfEra := (dayOfEra - dayOfEra / 1460 + dayOfEra / 36524 - dayOfEra / 146096) / 365
  let dayOfYear := dayOfEra - (365 * yearOfEra + yearOfEra / 4 - yearOfEra / 100)
  let m := (5 * dayOfYear + 2) / 153
  let day := dayOfYear - (153 * m + 2) / 5 + 1
  let month := if m < 10 then m + 3 else m - 9
  let year := yearOfEra + era * 400 + (if month ≤ 2 then 1 else 0)
  (year, month.toNat, day.toNat)

def ofNanos (t : Int) : Moment :=
  let seconds := t / 1000000000
  let days := seconds / 86400
  let rest := (seconds % 86400).toNat
  let (year, month, day) := ofDayNumber days
  { year, month, day, hour := rest / 3600, minute := rest / 60 % 60, second := rest % 60
    nanos := (t % 1000000000).toNat, weekday := ((days + 4) % 7).toNat
    yearday := (days - dayNumber year 1 1).toNat }

def toSeconds (m : Moment) : Int :=
  dayNumber m.year m.month m.day * 86400 + m.hour * 3600 + m.minute * 60 + m.second

def toNanos (m : Moment) : Int := m.toSeconds * 1000000000 + m.nanos

def weekdays : List String :=
  ["Sunday", "Monday", "Tuesday", "Wednesday", "Thursday", "Friday", "Saturday"]

def months : List String :=
  ["January", "February", "March", "April", "May", "June", "July", "August", "September", "October",
   "November", "December"]

/-- The year and the number of the week that begins on a Monday and has most of its days in that
year. -/
def isoWeek (m : Moment) : Int × Nat :=
  let monday := (m.weekday + 6) % 7
  let week : Int := ((m.yearday : Int) - monday + 10) / 7
  let weeksIn (year : Int) : Int :=
    let first := (dayNumber year 1 1 + 3) % 7
    if first = 3 || (first = 2 && isLeap year) then 53 else 52
  if week < 1 then (m.year - 1, (weeksIn (m.year - 1)).toNat)
  else if weeksIn m.year < week then (m.year + 1, 1)
  else (m.year, week.toNat)

/-! ## Writing -/

/-- How a part of a pattern is filled up: the flag and the width before its letter. -/
structure Filling where
  pad : Option Char := none
  upper : Bool := false
  swap : Bool := false
  width : Option Nat := none

def fillLeft (width : Nat) (c : Char) (s : String) : String :=
  String.ofList (List.replicate (width - s.length) c) ++ s

/-- A number in a pattern, usually filled up with `usual` to so many digits. -/
def Filling.number (f : Filling) (usual : Char) (digits : Nat) (n : Int) : String :=
  let pad := f.pad.getD usual
  let sign := if n < 0 then "-" else if pad == '+' then "+" else ""
  let shown := toString n.natAbs
  let width := f.width.getD digits
  match pad with
  | '-' => fillLeft (f.width.getD 0) '0' ((if n < 0 then "-" else "") ++ shown)
  | '_' => fillLeft width ' ' ((if n < 0 then "-" else "") ++ shown)
  | ' ' => fillLeft width ' ' ((if n < 0 then "-" else "") ++ shown)
  | _ => sign ++ fillLeft (width - sign.length) '0' shown

/-- A text in a pattern. -/
def Filling.text (f : Filling) (s : String) : String :=
  let s := if f.upper then s.toUpper else if f.swap then s.toUpper else s
  fillLeft (f.width.getD 0) (if f.pad == some '0' then '0' else ' ') s

/-- The first three letters of a name. -/
def short (s : String) : String := String.ofList (s.toList.take 3)

mutual

/-- The text for one letter of a pattern. -/
def formatLetter (m : Moment) (f : Filling) : Nat → Char → Option String
  | 0, _ => none
  | fuel + 1, c =>
    let all (p : String) : Option String := some (f.text (format m fuel p.toList))
    let number (digits : Nat) (n : Int) : Option String := some (f.number '0' digits n)
    let hour12 := (m.hour + 11) % 12 + 1
    match c with
    | 'a' => some (f.text (short (weekdays.getD m.weekday "")))
    | 'A' => some (f.text (weekdays.getD m.weekday ""))
    | 'b' | 'h' => some (f.text (short (months.getD (m.month - 1) "")))
    | 'B' => some (f.text (months.getD (m.month - 1) ""))
    | 'c' => all "%a %b %e %H:%M:%S %Y"
    | 'C' => number 2 (m.year / 100)
    | 'd' => number 2 m.day
    | 'D' | 'x' => all "%m/%d/%y"
    | 'e' => some (f.number ' ' 2 m.day)
    | 'F' => all (if f.pad == some '+' then "%+4Y-%m-%d" else "%Y-%m-%d")
    | 'g' => number 2 ((isoWeek m).1 % 100)
    | 'G' => number 4 (isoWeek m).1
    | 'H' => number 2 m.hour
    | 'I' => number 2 hour12
    | 'j' => number 3 (m.yearday + 1)
    | 'k' => some (f.number ' ' 2 m.hour)
    | 'l' => some (f.number ' ' 2 hour12)
    | 'm' => number 2 m.month
    | 'M' => number 2 m.minute
    | 'n' => some "\n"
    | 'N' =>
      let digits := fillLeft 9 '0' (toString m.nanos)
      some (match f.width with
        | some w => String.ofList (digits.toList.take w) ++ String.ofList (List.replicate (w - 9) '0')
        | none => if f.pad == some '-' then
            String.ofList ((digits.toList.reverse.dropWhile (· == '0')).reverse) else digits)
    | 'p' => some (f.text (let s := if m.hour < 12 then "AM" else "PM"; if f.swap then s.toLower else s))
    | 'P' => some (f.text (if m.hour < 12 then "am" else "pm"))
    | 'q' => number 1 ((m.month - 1) / 3 + 1)
    | 'r' => all "%I:%M:%S %p"
    | 'R' => all "%H:%M"
    | 's' => some (f.number '0' 1 m.toSeconds)
    | 'S' => number 2 m.second
    | 't' => some "\t"
    | 'T' | 'X' => all "%H:%M:%S"
    | 'u' => number 1 ((m.weekday + 6) % 7 + 1)
    | 'U' => number 2 ((m.yearday + 7 - m.weekday) / 7)
    | 'V' => number 2 (isoWeek m).2
    | 'w' => number 1 m.weekday
    | 'W' => number 2 ((m.yearday + 7 - (m.weekday + 6) % 7) / 7)
    | 'y' => number 2 (m.year % 100)
    | 'Y' => number 4 m.year
    | 'z' => some "+0000"
    | 'Z' => some (let s := "UTC"; if f.swap then s.toLower else s)
    | '%' => some "%"
    | _ => none
  termination_by structural fuel => fuel

/-- Writes a moment by a pattern. -/
def format (m : Moment) : Nat → List Char → String
  | 0, _ => ""
  | _ + 1, [] => ""
  | fuel + 1, '%' :: rest =>
    let flags := rest.takeWhile "-_0^#+".toList.contains
    let rest := rest.drop flags.length
    let digits := rest.takeWhile Char.isDigit
    let rest := rest.drop digits.length
    let width : Nat := digits.foldl (fun n c => n * 10 + (c.toNat - 48)) 0
    let f : Filling := {
      pad := (flags.reverse.find? "-_0+".toList.contains), upper := flags.contains '^'
      swap := flags.contains '#', width := if digits.isEmpty then none else some width }
    let colons := rest.takeWhile (· == ':')
    let modified := match rest with
      | 'E' :: rest | 'O' :: rest => rest
      | rest => rest
    match rest.drop colons.length, colons.length, modified with
    | 'z' :: after, 1, _ => "+00:00" ++ format m fuel after
    | 'z' :: after, 2, _ => "+00:00:00" ++ format m fuel after
    | 'z' :: after, 3, _ => "+00" ++ format m fuel after
    | _, 0, c :: after => match formatLetter m f fuel c with
      | some s => s ++ format m fuel after
      | none => "%" ++ String.ofList flags ++ String.ofList digits ++ format m fuel rest
    | _, _, _ => "%" ++ String.ofList flags ++ String.ofList digits ++ format m fuel rest
  | fuel + 1, c :: rest => String.singleton c ++ format m fuel rest
  termination_by structural fuel => fuel

end

/-- Writes a moment by a pattern. -/
def write (m : Moment) (pattern : String) : String := m.format (pattern.length + 64) pattern.toList

/-! ## Reading -/

/-- A part of a text that stands for a moment. -/
inductive Token where
  | number (sign : Option Char) (digits : List Char)
  | word (letters : String)
  | mark (c : Char)
  deriving Repr

/-- Cuts a text into parts; what stands in parentheses is left out. -/
def tokens : Nat → List Char → List Token
  | 0, _ => []
  | _ + 1, [] => []
  | fuel + 1, c :: rest =>
    if c == ' ' || c == '\t' || c == '\n' then tokens fuel rest
    else if c.isDigit then
      let digits := (c :: rest).takeWhile Char.isDigit
      .number none digits :: tokens fuel ((c :: rest).drop digits.length)
    else if (c == '-' || c == '+') && (rest.dropWhile (· == ' ')).head?.any Char.isDigit then
      let rest := rest.dropWhile (· == ' ')
      let digits := rest.takeWhile Char.isDigit
      .number (some c) digits :: tokens fuel (rest.drop digits.length)
    else if c.isAlpha then
      let letters := (c :: rest).takeWhile fun d => d.isAlpha || d == '.'
      .word (String.ofList (letters.filter (· != '.'))).toLower :: tokens fuel ((c :: rest).drop letters.length)
    else if c == '(' then tokens fuel ((rest.dropWhile (· != ')')).drop 1)
    else .mark c :: tokens fuel rest

/-- What a text has said so far. -/
structure Said where
  /-- The year may be left out. -/
  date : Option (Option Int × Nat × Nat) := none
  time : Option (Nat × Nat × Nat × Nat) := none
  zone : Option Int := none
  weekday : Option (Int × Nat) := none
  /-- Amounts to be added, as months and nanoseconds, and days. -/
  months : Int := 0
  days : Int := 0
  nanos : Int := 0
  moved : Bool := false
  /-- A time that leaves nothing to be said. -/
  exact : Option Int := none

def value (digits : List Char) : Nat := digits.foldl (fun n c => n * 10 + (c.toNat - 48)) 0

/-- The month of a name or of its first letters. -/
def monthOf? (w : String) : Option Nat :=
  (months.findIdx? fun m => m.toLower == w || (short m).toLower == w || w == "sept" && m == "September").map
    (· + 1)

def weekdayOf? (w : String) : Option Nat :=
  weekdays.findIdx? fun d => d.toLower == w || (short d).toLower == w || w == "tues" && d == "Tuesday"
    || w == "wednes" && d == "Wednesday" || (w == "thur" || w == "thurs") && d == "Thursday"

/-- A zone by its name: how many minutes it is ahead. -/
def zoneOf? (w : String) : Option Int :=
  [("utc", 0), ("gmt", 0), ("ut", 0), ("z", 0), ("wet", 0), ("west", 60), ("bst", 60), ("cet", 60),
   ("met", 60), ("cest", 120), ("mest", 120), ("eet", 120), ("eest", 180), ("msk", 180), ("jst", 540),
   ("est", -300), ("edt", -240), ("cst", -360), ("cdt", -300), ("mst", -420), ("mdt", -360),
   ("pst", -480), ("pdt", -420)].lookup w

/-- A year of two digits belongs to the years around the turn of the millennium. -/
def fullYear (digits : List Char) : Int :=
  let n := value digits
  if digits.length ≤ 2 then if n < 69 then n + 2000 else n + 1900 else n

/-- Adds so many of a unit; nothing if it is none. -/
def Said.add? (s : Said) (n : Int) (unit : String) : Option Said :=
  let unit := if unit.endsWith "s" then String.ofList unit.toList.dropLast else unit
  let s := { s with moved := true }
  match unit with
  | "year" => some { s with months := s.months + 12 * n }
  | "month" => some { s with months := s.months + n }
  | "fortnight" => some { s with days := s.days + 14 * n }
  | "week" => some { s with days := s.days + 7 * n }
  | "day" => some { s with days := s.days + n }
  | "hour" => some { s with nanos := s.nanos + n * 3600000000000 }
  | "minute" | "min" => some { s with nanos := s.nanos + n * 60000000000 }
  | "second" | "sec" => some { s with nanos := s.nanos + n * 1000000000 }
  | _ => none

/-- A count by its name. -/
def ordinal? (w : String) : Option Int :=
  [("last", -1), ("this", 0), ("next", 1), ("first", 1), ("third", 3), ("fourth", 4), ("fifth", 5),
   ("sixth", 6), ("seventh", 7), ("eighth", 8), ("ninth", 9), ("tenth", 10), ("eleventh", 11),
   ("twelfth", 12)].lookup w

/-- The fraction of a second behind a point, in nanoseconds. -/
def fraction (digits : List Char) : Nat :=
  value (digits.take 9) * 10 ^ (9 - (digits.take 9).length)

/-- The hour with regard to a half of the day. -/
def halved (hour : Nat) : String → Option Nat
  | "am" => if 1 ≤ hour && hour ≤ 12 then some (hour % 12) else none
  | "pm" => if 1 ≤ hour && hour ≤ 12 then some (hour % 12 + 12) else none
  | _ => none

/-- A zone given as an amount, with or without minutes of its own. -/
def amountOf (sign : Char) (digits : List Char) (minutes : Option Nat) : Int :=
  let n := value digits
  let all : Int := match minutes with
    | some m => n * 60 + m
    | none => if digits.length ≤ 2 then n * 60 else (n / 100) * 60 + n % 100
  if sign == '-' then -all else all

/-- Takes up a word that stands for itself, or for a count of the unit behind it. -/
def Said.word? (s : Said) (w : String) (rest : List Token) : Option (Said × List Token) :=
  match w with
  | "now" | "today" => some ({ s with moved := true }, rest)
  | "tomorrow" => some ({ s with moved := true, days := s.days + 1 }, rest)
  | "yesterday" => some ({ s with moved := true, days := s.days - 1 }, rest)
  | "noon" => some ({ s with time := some (12, 0, 0, 0) }, rest)
  | "midnight" => some ({ s with time := some (0, 0, 0, 0) }, rest)
  | _ =>
    match zoneOf? w with
    | some minutes => match rest with
      | .number (some sign) digits :: more =>
        some ({ s with zone := some (minutes + amountOf sign digits none) }, more)
      | _ => some ({ s with zone := some minutes }, rest)
    | none => match weekdayOf? w with
      | some d => some ({ s with weekday := some (0, d) }, rest)
      | none => match ordinal? w, rest with
        | some n, .word unit :: rest =>
          let (n, rest) := match rest with
            | .word "ago" :: more => (-n, more)
            | _ => (n, rest)
          match weekdayOf? unit with
          | some d => some ({ s with weekday := some (n, d) }, rest)
          | none => (s.add? n unit).map fun s => (s, rest)
        | _, _ =>
          let (n, rest) : Int × List Token := match rest with
            | .word "ago" :: more => (-1, more)
            | _ => (1, rest)
          (s.add? n w).map fun s => (s, rest)

/-- Takes up what a text says, part by part. -/
def take (s : Said) : Nat → List Token → Option Said
  | 0, _ => none
  | _ + 1, [] => some s
  | fuel + 1, ts =>
    let date (year : Option Int) (month day : Nat) (rest : List Token) : Option Said :=
      if s.date.isSome then none else take { s with date := some (year, month, day) } fuel rest
    -- behind a time there may be a half of the day and an amount that is a zone
    let time (h m sec nanos : Nat) (rest : List Token) : Option Said :=
      if s.time.isSome then none
      else
        let (h?, rest) : Option Nat × List Token := match rest with
          | .word w :: more => if w == "am" || w == "pm" then (halved h w, more) else (some h, rest)
          | _ => (some h, rest)
        h?.bind fun h =>
          if 24 ≤ h || 60 ≤ m || 60 < sec then none
          else
            let s := { s with time := some (h, m, sec, nanos) }
            match rest with
            | .number (some sign) zone :: .mark ':' :: .number none zm :: more =>
              take { s with zone := some (amountOf sign zone (some (value zm))) } fuel more
            | .number (some sign) zone :: .word w :: more =>
              if ((({} : Said).add? 1 w).isSome) then take s fuel rest
              else take { s with zone := some (amountOf sign zone none) } fuel (.word w :: more)
            | .number (some sign) zone :: more =>
              take { s with zone := some (amountOf sign zone none) } fuel more
            | rest => take s fuel rest
    -- an amount of a unit, which may lie in the past
    let amount (n : Int) (unit : String) (rest : List Token) : Option Said :=
      let (n, rest) := match rest with
        | .word "ago" :: more => (-n, more)
        | _ => (n, rest)
      (s.add? n unit).bind fun s => take s fuel rest
    match ts with
    | .mark '@' :: .number sign digits :: rest =>
      let (places, rest) := match rest with
        | .mark '.' :: .number none p :: more | .mark ',' :: .number none p :: more => (p, more)
        | _ => ([], rest)
      let n : Int := value digits
      let t := if sign == some '-' then -(n * 1000000000 + fraction places) else n * 1000000000 + fraction places
      take { s with exact := some t } fuel rest
    | .number none y :: .number (some '-') m :: .number (some '-') d :: rest =>
      let rest := match rest with
        | .word "t" :: more => more
        | rest => rest
      date (some (fullYear y)) (value m) (value d) rest
    | .number none d :: .mark '-' :: .word w :: .number (some '-') y :: rest =>
      (monthOf? w).bind fun m => date (some (fullYear y)) m (value d) rest
    | .number none a :: .mark '/' :: .number none b :: .mark '/' :: .number none c :: rest =>
      if 4 ≤ a.length then date (some (value a)) (value b) (value c) rest
      else date (some (fullYear c)) (value a) (value b) rest
    | .number none h :: .mark ':' :: .number none m :: .mark ':' :: .number none sec :: .mark '.' ::
        .number none p :: rest => time (value h) (value m) (value sec) (fraction p) rest
    | .number none h :: .mark ':' :: .number none m :: .mark ':' :: .number none sec :: rest =>
      time (value h) (value m) (value sec) 0 rest
    | .number none h :: .mark ':' :: .number none m :: rest => time (value h) (value m) 0 0 rest
    | .number none d :: .word w :: .number none y :: rest =>
      match monthOf? w with
      | some m => match rest with
        | .mark ':' :: _ => take { s with date := some (none, m, value d) } fuel (.number none y :: rest)
        | _ => date (some (fullYear y)) m (value d) rest
      | none =>
        if w == "am" || w == "pm" then time (value d) 0 0 0 (.word w :: .number none y :: rest)
        else amount (value d) w (.number none y :: rest)
    | .number sign n :: .word w :: rest =>
      match monthOf? w, sign with
      | some m, none => date none m (value n) rest
      | _, _ =>
        if w == "am" || w == "pm" then time (value n) 0 0 0 (.word w :: rest)
        else if w == "t" && n.length = 8 then
          let v := value n
          date (some (v / 10000)) (v / 100 % 100) (v % 100) rest
        else amount (if sign == some '-' then -(value n : Int) else value n) w rest
    | .number (some _) n :: rest => amount (value n) "hour" rest
    | .number none n :: rest =>
      let v := value n
      if s.date.isSome && s.time.isNone && n.length ≤ 4 then
        if n.length ≤ 2 then time v 0 0 0 rest else time (v / 100) (v % 100) 0 0 rest
      else if 4 < n.length then date (some (v / 10000)) (v / 100 % 100) (v % 100) rest
      else if n.length ≤ 2 then time v 0 0 0 rest else time (v / 100) (v % 100) 0 0 rest
    | .word w :: .number none d :: .mark ',' :: .number none y :: rest =>
      (monthOf? w).bind fun m => date (some (fullYear y)) m (value d) rest
    | .word w :: .number none d :: .number none y :: rest =>
      match monthOf? w, rest with
      | some m, .mark ':' :: _ => date none m (value d) (.number none y :: rest)
      | some m, _ => date (some (fullYear y)) m (value d) rest
      | none, _ =>
        (s.word? w (.number none d :: .number none y :: rest)).bind fun (s, rest) => take s fuel rest
    | .word w :: .number none d :: rest =>
      match monthOf? w with
      | some m => date none m (value d) rest
      | none => (s.word? w (.number none d :: rest)).bind fun (s, rest) => take s fuel rest
    | .word w :: rest => (s.word? w rest).bind fun (s, rest) => take s fuel rest
    | [] => some s
    | .mark ',' :: rest => take s fuel rest
    | .mark _ :: _ => none

/-- The point in time that a text stands for, seen from another one. -/
def read? (now : Int) (text : List Char) : Option Int := do
  let ts := tokens (text.length + 1) text
  let s ← take {} (2 * ts.length + 2) ts
  match s.exact with
  | some t => return t
  | none =>
    let today := ofNanos now
    let (year?, month, day) := s.date.getD (none, today.month, today.day)
    let year := year?.getD today.year
    if s.date.isSome && (month < 1 || 12 < month || day < 1 || daysInMonth year month < day) then none
    let fresh := s.date.isSome || s.time.isSome || s.weekday.isSome || !s.moved
    let (h, m, sec, nanos) := match s.time with
      | some t => t
      | none => if fresh then (0, 0, 0, 0) else (today.hour, today.minute, today.second, today.nanos)
    let days := dayNumber year (month + s.months) day + s.days
    -- a day of the week is the next one from that day on
    let days := match s.weekday with
      | none => days
      | some (n, d) =>
        let ahead := ((d : Int) - (days + 4)) % 7
        let n := if 0 < n && ahead ≠ 0 then n - 1 else n
        days + ahead + 7 * n
    let seconds := days * 86400 + h * 3600 + m * 60 + sec - s.zone.getD 0 * 60
    return seconds * 1000000000 + nanos + s.nanos

end Moment
end ModuleForge.Host
