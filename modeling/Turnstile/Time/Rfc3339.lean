import Turnstile.Time.Instant
import Turnstile.Time.Civil
import Turnstile.Text.Blank
/-! RFC 3339 text of an instant. Writing is exact and in UTC; reading also takes
blanks before a number or mark, a space between date and time, a signed year of
any length, short numbers and any offset. -/
namespace Turnstile.Instant

def padded (width n : Nat) : String :=
  let digits := toString n
  String.ofList (List.replicate (width - digits.length) '0') ++ digits

def yearText (year : Int) : String :=
  if 0 ≤ year && year ≤ 9999 then padded 4 year.toNat
  else (if year < 0 then "-" else "+") ++ padded 4 year.natAbs

def fractionText (nano : Nat) : String :=
  if nano = 0 then ""
  else if nano % 1000000 = 0 then "." ++ padded 3 (nano / 1000000)
  else if nano % 1000 = 0 then "." ++ padded 6 (nano / 1000)
  else "." ++ padded 9 nano

def toText (t : Instant) : String :=
  let date := Civil.ofDays (t.second / 86400)
  let ofDay := t.secondOfDay.toNat
  let leap := 1000000000 ≤ t.nano
  yearText date.year ++ "-" ++ padded 2 date.month ++ "-" ++ padded 2 date.day ++ "T"
    ++ padded 2 (ofDay / 3600) ++ ":" ++ padded 2 (ofDay / 60 % 60) ++ ":"
    ++ padded 2 (ofDay % 60 + if leap then 1 else 0)
    ++ fractionText (if leap then t.nano - 1000000000 else t.nano) ++ "Z"

def number? (width : Nat) (s : List Char) : Option (Nat × List Char) :=
  let s := Text.trimLeft s
  let digits := (s.take width).takeWhile Char.isDigit
  if digits.isEmpty then none
  else some (digits.foldl (fun n c => n * 10 + (c.toNat - 48)) 0, s.drop digits.length)

def year? (s : List Char) : Option (Int × List Char) :=
  match Text.trimLeft s with
  | '-' :: rest => (unblanked rest).map fun (n, r) => (-(n : Int), r)
  | '+' :: rest => (unblanked rest).map fun (n, r) => ((n : Int), r)
  | s => (number? 4 s).map fun (n, r) => ((n : Int), r)
where
  unblanked (s : List Char) : Option (Nat × List Char) :=
    if s.head?.any Char.isDigit then number? s.length s else none

def mark? (c : Char) (s : List Char) : Option (List Char) :=
  match Text.trimLeft s with
  | d :: rest => if d = c then some rest else none
  | [] => none

def fraction? (s : List Char) : Option (Nat × List Char) :=
  match s with
  | '.' :: rest =>
    let digits := rest.takeWhile Char.isDigit
    let kept := digits.take 9
    if digits.isEmpty then none
    else
      let n := kept.foldl (fun n c => n * 10 + (c.toNat - 48)) 0
      some (n * Nat.pow 10 (9 - kept.length), rest.dropWhile Char.isDigit)
  | s => some (0, s)

def twoDigits? (s : List Char) : Option (Nat × List Char) :=
  match s with
  | a :: b :: rest =>
    if a.isDigit && b.isDigit then some ((a.toNat - 48) * 10 + (b.toNat - 48), rest) else none
  | _ => none

def offset? (s : List Char) : Option (Int × List Char) :=
  let signed (negative : Bool) (s : List Char) : Option (Int × List Char) := do
    let (hours, s) ← twoDigits? s
    let (minutes, s) ← twoDigits? (s.dropWhile fun c => c = ':' || Text.isBlank c)
    if hours ≤ 23 && minutes ≤ 59 then
      let total : Int := hours * 60 + minutes
      some (if negative then -total else total, s)
    else none
  match s with
  | u :: t :: c :: rest =>
    if u.toUpper = 'U' && t.toUpper = 'T' && c.toUpper = 'C' then some (0, rest)
    else
      match s with
      | '+' :: rest => signed false rest
      | '-' :: rest | '−' :: rest => signed true rest
      | 'Z' :: rest | 'z' :: rest => some (0, rest)
      | _ => none
  | 'Z' :: rest | 'z' :: rest => some (0, rest)
  | _ => none

def ofFields (date : Civil.Date) (hour minute second nano : Nat) (offset : Int) : Option Instant :=
  let minuteStart := Civil.toDays date * 86400 + (hour * 3600 + minute * 60 : Nat) - offset * 60
  if !Civil.valid date || 23 < hour || 59 < minute || 60 < second then none
  else if h : nano < 1000000000 then
    let t : Instant :=
      if hs : second = 60 ∧ minuteStart % 60 = 0 then
        ⟨minuteStart + 59, nano + 1000000000, .inr ⟨by omega, by omega⟩⟩
      else ⟨minuteStart + second, nano, .inl h⟩
    if first ≤ t && t ≤ last then some t else none
  else none

def ofText? (text : String) : Option Instant := do
  let (year, s) ← year? text.toList
  let s ← mark? '-' s
  let (month, s) ← number? 2 s
  let s ← mark? '-' s
  let (day, s) ← number? 2 s
  let s ← match s with
    | c :: rest => if c = 'T' || c = 't' || c = ' ' then some rest else none
    | [] => none
  let (hour, s) ← number? 2 s
  let s ← mark? ':' s
  let (minute, s) ← number? 2 s
  let s ← mark? ':' s
  let (second, s) ← number? 2 s
  let (nano, s) ← fraction? s
  let (offset, s) ← offset? (Text.trimLeft s)
  if (Text.trimLeft s).isEmpty then ofFields ⟨year, month, day⟩ hour minute second nano offset
  else none

end Turnstile.Instant
